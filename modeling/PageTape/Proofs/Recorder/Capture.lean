import PageTape.Proofs.Recorder.Gesture

/-!
# What a form holds is captured

Of a step it counts here what it does and to the element of which selector: its mark.  The marks of a recording only
grow, one by one, and a law says where one may be added (`Adds`, `Grows`).

* `recordForm_grows` — what is recorded of a form gives fields their values, each field that has none yet, and once;
* `recordForm_complete` — after it, all fields of the form that can be seen and are filled in have theirs.
-/

namespace PageTape

/-- What a step does, and to the element of which selector. -/
abbrev Mark := StepKind × Option String

/-- The mark of a step. -/
def Step.mark (step : Step) : Mark := (step.kind, step.selector)

namespace Mark

/-- The step gives the field of a selector its value. -/
def Gives (m : Mark) (selector : String) : Prop := m.1.givesValue = true ∧ m.2 = some selector

/-- How many submits there are. -/
def submits (ms : List Mark) : Nat := ms.countP (·.1 == .submit)

end Mark

namespace Recorder

open Dom (Location)
open Mark (Gives submits)

variable {law law' : List Mark → Mark → Prop} {ms ms' ms'' : List Mark} {r r' r'' : Recorder} {l form : Location}
  {p : Page}

/-- The marks of the steps of the active session. -/
def marks (r : Recorder) : List Mark := r.steps.map Step.mark

/-! ### Marks that are added one by one -/

/-- **Marks are added one by one**, each where a law allows for it behind those before. -/
inductive Adds (law : List Mark → Mark → Prop) (ms : List Mark) : List Mark → Prop
  | none : Adds law ms ms
  | one {ms' : List Mark} {m : Mark} (h : Adds law ms ms') (hm : law ms' m) : Adds law ms (ms' ++ [m])

namespace Adds

lemma single {m : Mark} (h : law ms m) : Adds law ms (ms ++ [m]) := .one .none h

lemma trans (h : Adds law ms ms') (h' : Adds law ms' ms'') : Adds law ms ms'' := by
  induction h' with
  | none => exact h
  | one _ hm ih => exact .one ih hm

lemma mono (h : Adds law ms ms') (hlaw : ∀ ms m, law ms m → law' ms m) : Adds law' ms ms' := by
  induction h with
  | none => exact .none
  | one _ hm ih => exact .one ih (hlaw _ _ hm)

/-- What is added stands behind what there was, each mark where the law allows for it. -/
lemma exists_added (h : Adds law ms ms') : ∃ added, ms' = ms ++ added ∧
    ∀ before m rest, added = before ++ m :: rest → law (ms ++ before) m := by
  induction h with
  | none => exact ⟨[], (List.append_nil _).symm, fun before m rest he => by simp at he⟩
  | @one ms' m _ hm ih =>
    obtain ⟨added, rfl, hadded⟩ := ih
    refine ⟨added ++ [m], List.append_assoc _ _ _, fun before k rest he => ?_⟩
    rcases List.eq_nil_or_concat rest with rfl | ⟨rest, last, rfl⟩
    · obtain ⟨rfl, hk⟩ := List.append_inj' he rfl
      obtain rfl := List.singleton_inj.1 hk
      exact hm
    · rw [List.concat_eq_append, ← List.cons_append, ← List.append_assoc] at he
      exact hadded before k rest (List.append_inj' he rfl).1

lemma subset (h : Adds law ms ms') : ms ⊆ ms' := by
  obtain ⟨added, rfl, -⟩ := h.exists_added
  exact List.subset_append_left _ _

end Adds

/-! ### Recorders that only add -/

/-- **What a recorder does is to add steps**, as a law allows; it stays at work, or does not begin to, no time passes,
and nothing is there to wait for. -/
structure Grows (law : List Mark → Mark → Prop) (r r' : Recorder) : Prop where
  config : r'.config = r.config
  recording : r'.isRecording = r.isRecording
  now : r'.clock.now = r.clock.now
  calm : Calm r → Calm r'
  adds : Adds law r.marks r'.marks

namespace Grows

lemma refl (r : Recorder) : Grows law r r := ⟨rfl, rfl, rfl, id, .none⟩

lemma trans (h : Grows law r r') (h' : Grows law r' r'') : Grows law r r'' :=
  ⟨h'.config.trans h.config, h'.recording.trans h.recording, h'.now.trans h.now, h'.calm ∘ h.calm, h.adds.trans h'.adds⟩

lemma mono (h : Grows law r r') (hlaw : ∀ ms m, law ms m → law' ms m) : Grows law' r r' :=
  ⟨h.config, h.recording, h.now, h.calm, h.adds.mono hlaw⟩

lemma told (h : Grows law r r') (notices : List Notice) : Grows law r { r' with notices } :=
  ⟨h.config, h.recording, h.now, h.calm, h.adds⟩

/-- The steps of the session are other ones, and nothing else that counts. -/
lemma withSteps {a : Active} {steps : List Step} (h : r.active = some a)
    (hsteps : Adds law (a.session.steps.map Step.mark) (steps.map Step.mark)) (last : Int) (notices : List Notice) :
    Grows law r { r with active := some (a.withSteps steps), lastUserActionAt := last, notices } where
  config := rfl
  recording := by simp [isRecording, h, Active.withSteps]
  now := rfl
  calm hc b hb := by
    obtain rfl := Option.some.inj hb
    exact hc a h
  adds := by
    rw [marks, steps_of_active h]
    exact hsteps

end Grows

/-- Programs that add steps as a law allows. -/
def adding (law : List Mark → Mark → Prop) : Course Recorder where
  holds _ := True
  leads := Grows law
  refl := Grows.refl
  trans := Grows.trans
  keeps _ h := h

/-! ### Steps -/

/-- A step is added while recording. -/
lemma addUserStep_steps (hrec : r.isRecording = true) (step : Step) :
    ((addUserStep step).run r).2.steps = r.steps ++ [step] ∧
      ∀ added, ((addUserStep step).run r).1 = .ok added → added = true := by
  obtain ⟨a, h, hr⟩ := isRecording_iff.1 hrec
  obtain ⟨notices, hrun, htrue⟩ := addUserStep_run h hr step
  refine ⟨?_, htrue⟩
  rw [hrun, steps_of_active h]
  rfl

lemma addUserStep_grows (hrec : r.isRecording = true) {step : Step} (hlaw : law r.marks step.mark) :
    Grows law r ((addUserStep step).run r).2 := by
  obtain ⟨a, h, hr⟩ := isRecording_iff.1 hrec
  obtain ⟨notices, hrun, -⟩ := addUserStep_run h hr step
  rw [marks, steps_of_active h] at hlaw
  rw [hrun]
  refine Grows.withSteps h ?_ _ _
  rw [List.map_append]
  exact .single hlaw

lemma Takes.adds {w : Waiting String Typed} {steps steps' : List Step} (h : Takes w steps steps')
    (hlaw : ∀ ms selector, law ms (.fill, some selector)) : Adds law (steps.map Step.mark) (steps'.map Step.mark) := by
  cases h with
  | update steps last h =>
    have hsame : (steps ++ [{ last with value := some w.payload.value, timestamp := stampOf w.payload.since }]).map
        Step.mark = (steps ++ [last]).map Step.mark := by
      simp [Step.mark]
    exact hsame ▸ .none
  | append _ step hfills hnew =>
    rw [List.map_append, List.map_singleton, show step.mark = (.fill, some w.key) from Prod.ext hfills.1 hfills.2.1]
    exact .single (hlaw _ _)

/-! ### Texts -/

/-- A text is taken out, or there is none. -/
lemma takeText_cases (selector : String) (r : Recorder) : ((takeText selector).run r).2 = r ∨
    ∃ a w, r.active = some a ∧ ((takeText selector).run r).2 =
      { r with clock := r.clock.cancel w, active := some { a with inputs := a.inputs.drop selector } } := by
  unfold takeText
  rw [Course.run_modifyGet]
  cases h : r.active with
  | none => exact .inl rfl
  | some a =>
    dsimp only [Debouncer.take?]
    cases a.inputs.find? selector with
    | none => exact .inl rfl
    | some w => exact .inr ⟨a, w.timer, rfl, rfl⟩

/-- What all texts do that wait, each of them does. -/
lemma recordAllWaiting_leads {C : Course Recorder} (p : Page) (htake : ∀ selector r, C.leads r ((takeText selector).run r).2)
    (htext : ∀ selector typed r, C.leads r ((recordText p selector typed).run r).2) (hr : C.holds r) :
    C.leads r ((recordAllWaiting p).run r).2 := by
  have hwaiting : ∀ selector, C.Runs (fun _ => True) (recordWaiting p selector) fun _ _ => True := fun selector => by
    unfold recordWaiting
    refine .bind (Q := fun _ _ => True) (fun r _ _ => ⟨htake selector r, fun _ _ => trivial⟩) fun typed => ?_
    cases typed with
    | some typed => exact fun r _ _ => ⟨htext selector typed r, fun _ _ => trivial⟩
    | none => exact .pure fun _ _ _ => trivial
  have hall : C.Runs (fun _ => True) (recordAllWaiting p) fun _ _ => True := by
    unfold recordAllWaiting
    refine .bind_get fun r => ?_
    split
    · exact (Course.Runs.forM (I := fun _ _ => True) (fun w _ => hwaiting w.key) _).strengthen fun _ _ _ => trivial
    · exact .pure fun _ _ _ => trivial
  exact hall.leads hr trivial

lemma recordText_idle (p : Page) (selector : String) (typed : Typed) (hrec : r.isRecording = false) :
    (recordText p selector typed).run r = (.ok ⟨⟩, r) := by
  unfold recordText
  rw [Course.run_bind, Course.run_get]
  simp [hrec]

/-- The texts that wait fill their fields. -/
lemma recordAllWaiting_grows (hlaw : ∀ ms selector, law ms (.fill, some selector)) (p : Page) (r : Recorder) :
    Grows law r ((recordAllWaiting p).run r).2 := by
  refine recordAllWaiting_leads (C := adding law) p (fun selector r => ?_) (fun selector typed r => ?_) trivial
  · obtain h | ⟨a, w, h, hrun⟩ := takeText_cases selector r
    · rw [h]
      exact .refl r
    · rw [hrun]
      exact {
        config := rfl
        recording := by simp [isRecording, h]
        now := rfl
        calm := fun hc b hb => by
          obtain rfl := Option.some.inj hb
          simp [Debouncer.drop, hc a h]
        adds := by
          have hsame : r.marks = a.session.steps.map Step.mark := by rw [marks, steps_of_active h]
          exact hsame ▸ .none }
  · cases hrec : r.isRecording with
    | false =>
      rw [recordText_idle p selector typed hrec]
      exact .refl r
    | true =>
      obtain ⟨a, h, hr⟩ := isRecording_iff.1 hrec
      obtain ⟨steps, notices, htakes, hrun⟩ := recordText_run p h hr ⟨selector, typed.since, 0, typed⟩
      rw [hrun]
      exact .withSteps h (htakes.adds hlaw) _ _

/-! ### Fields -/

/-- **A field has something to record**: a box or radio button that is checked, another field with a value.  A button
has nothing. -/
def isFilledIn (l : Location) : Bool :=
  match controlKind? l.tag with
  | some .box | some .radio => l.tag.isChecked
  | some .choice | some .text => !l.value.isEmpty
  | none => false

lemma snapshot?_isSome (l : Location) (selector : String) (now : Int) :
    (snapshot? l selector now).isSome = isFilledIn l := by
  unfold snapshot? isFilledIn
  cases controlKind? l.tag with
  | none => rfl
  | some kind => cases kind <;> dsimp only <;> cases l.value.isEmpty <;> cases l.tag.isChecked <;> rfl

lemma snapshot?_gives {selector : String} {now : Int} {step : Step} (h : snapshot? l selector now = some step) :
    Gives step.mark selector := by
  refine ⟨?_, (snapshot?_eq_some h).2.2⟩
  unfold snapshot? at h
  dsimp only at h
  split at h <;> (try split at h) <;> first
    | (cases h; rfl)
    | cases h

/-- What is captured gives a field its value that has none yet. -/
def Captures (ms : List Mark) (m : Mark) : Prop := ∃ selector, Gives m selector ∧ ∀ old ∈ ms, ¬ Gives old selector

/-- The fields that can be seen, belong to no tool and are filled in have their values. -/
def AllGiven (config : Config) (fields : List Location) (ms : List Mark) : Prop :=
  ∀ l ∈ fields, isOwn config l = .ok false → l.isVisible = true → isFilledIn l = true →
    ∃ m ∈ ms, Gives m (Locator.quick l)

/-- What is recorded of fields are values for those that have none yet, and where this does not fail all that can be
seen and are filled in have one then. -/
def Gathers (fields : List Location) (r : Recorder) (after : Except Fault Unit × Recorder) : Prop :=
  Grows Captures r after.2 ∧ (after.1 = .ok ⟨⟩ → r.isRecording = true → AllGiven r.config fields after.2.marks)

/-- One field is given its value, if it has one, and then the others are. -/
lemma Gathers.cons {fields : List Location} {after : Except Fault Unit × Recorder} (hgrows : Grows Captures r r')
    (hl : r.isRecording = true → isOwn r.config l = .ok false → l.isVisible = true → isFilledIn l = true →
      ∃ m ∈ r'.marks, Gives m (Locator.quick l))
    (h : Gathers fields r' after) : Gathers (l :: fields) r after := by
  refine ⟨hgrows.trans h.1, fun hok hrec k hk hown hvisible hfilled => ?_⟩
  rcases List.mem_cons.1 hk with rfl | hk
  · obtain ⟨m, hm, hgives⟩ := hl hrec hown hvisible hfilled
    exact ⟨m, h.1.adds.subset hm, hgives⟩
  · exact h.2 hok (hgrows.recording.trans hrec) k hk (hgrows.config ▸ hown) hvisible hfilled

/-- The selectors that are known are those of the fields that have a value. -/
def Recalls (known : List String) (r : Recorder) : Prop :=
  ∀ selector, selector ≠ "" → (selector ∈ known ↔ ∃ m ∈ r.marks, Gives m selector)

lemma Recalls.add {known : List String} {selector : String} {m : Mark} (h : Recalls known r) (hm : Gives m selector)
    (hmarks : r'.marks = r.marks ++ [m]) : Recalls (selector :: known) r' := by
  intro other hne
  rw [List.mem_cons, h other hne, hmarks]
  constructor
  · rintro (rfl | ⟨k, hk, hgives⟩)
    · exact ⟨m, by simp, hm⟩
    · exact ⟨k, List.mem_append_left _ hk, hgives⟩
  · rintro ⟨k, hk, hgives⟩
    rcases List.mem_append.1 hk with hk | hk
    · exact .inr ⟨k, hk, hgives⟩
    · obtain rfl := List.mem_singleton.1 hk
      exact .inl (Option.some.inj (hgives.2.symm.trans hm.2))

/-- **Fields are recorded** that have no value yet, each of them once. -/
lemma recordFields_gathers (known : List String) (fields : List Location) (r : Recorder) (hknown : Recalls known r) :
    Gathers fields r ((recordFields known fields).run r) := by
  induction fields generalizing known r with
  | nil => exact ⟨.refl r, fun _ _ l hl => by cases hl⟩
  | cons l rest ih =>
    unfold recordFields
    rw [Course.run_bind, leavesAlone_run]
    cases hown : isOwn r.config l with
    | error fault => exact ⟨.refl r, fun h => by cases h⟩
    | ok own =>
      dsimp only
      split
      · -- left out: it belongs to a tool, cannot be seen or has its value
        rename_i hleft
        refine .cons (.refl r) (fun _ hfree hvisible _ => ?_) (ih known r hknown)
        obtain rfl : own = false := Except.ok.inj (hown.symm.trans hfree)
        exact (hknown _ (Locator.quick_ne_empty l)).1 (by simpa [hvisible] using hleft)
      · rename_i hleft
        have hunknown : Locator.quick l ∉ known := fun hmem => hleft (by simp [hmem])
        rw [Course.run_bind, Course.run_get]
        dsimp only
        cases hstep : snapshot? l (Locator.quick l) r.now with
        | none =>
          refine .cons (.refl r) (fun _ _ _ hfilled => ?_) (ih known r hknown)
          rw [← snapshot?_isSome l (Locator.quick l) r.now, hstep] at hfilled
          cases hfilled
        | some step =>
          have hgives := snapshot?_gives hstep
          dsimp only
          rw [Course.run_bind]
          cases hrec : r.isRecording with
          | false =>
            rw [addUserStep_idle hrec]
            exact .cons (.refl r) (fun h => by rw [hrec] at h; cases h) (ih known r hknown)
          | true =>
            have hlaw : Captures r.marks step.mark := ⟨_, hgives, fun old hold hg =>
              hunknown ((hknown _ (Locator.quick_ne_empty l)).2 ⟨old, hold, hg⟩)⟩
            have hadd := addUserStep_grows hrec hlaw
            obtain ⟨hmarks, htrue⟩ := addUserStep_steps hrec step
            rcases hrun : (addUserStep step).run r with ⟨fault | added, t⟩ <;> rw [hrun] at hadd htrue hmarks
            · exact ⟨hadd, fun h => by cases h⟩
            · obtain rfl := htrue added rfl
              refine .cons hadd (fun _ _ _ _ => ⟨step.mark, ?_, hgives⟩) (ih _ t (hknown.add hgives ?_))
              · simp [marks, hmarks]
              · simp [marks, hmarks]

/-! ### Forms -/

lemma recalls_given (r : Recorder) : Recalls (r.steps.filterMap fun step =>
    if step.kind.givesValue then nonempty? step.selector else none) r := by
  intro selector hne
  rw [List.mem_filterMap]
  unfold marks
  constructor
  · rintro ⟨step, hstep, hs⟩
    split at hs
    · rename_i hg
      refine ⟨step.mark, List.mem_map_of_mem hstep, hg, ?_⟩
      show step.selector = some selector
      cases h : step.selector with
      | none => rw [h] at hs; cases hs
      | some s => cases he : s.isEmpty <;> simp_all [nonempty?]
    · cases hs
  · rintro ⟨m, hm, hg, hs⟩
    obtain ⟨step, hstep, rfl⟩ := List.mem_map.1 hm
    refine ⟨step, hstep, ?_⟩
    rw [if_pos (show step.kind.givesValue = true from hg), show step.selector = some selector from hs]
    simp [nonempty?, hne]

lemma recordForm_run (form : Location) (r : Recorder) : (recordForm form).run r =
    (recordFields (r.steps.filterMap fun step =>
      if step.kind.givesValue then nonempty? step.selector else none) (formFields form)).run r := rfl

/-- **All that a form holds is recorded**: of each of its fields that can be seen, belongs to no tool and is filled in,
there is the value. -/
def Complete (config : Config) (form : Location) (ms : List Mark) : Prop := AllGiven config (formFields form) ms

/-- **What is captured of a form** is values for fields that have none yet, and of each field one. -/
theorem recordForm_grows (form : Location) (r : Recorder) : Grows Captures r ((recordForm form).run r).2 := by
  rw [recordForm_run]
  exact (recordFields_gathers _ _ r (recalls_given r)).1

/-- **A form is captured completely**, unless this fails. -/
theorem recordForm_complete (form : Location) (hrec : r.isRecording = true) (hok : ((recordForm form).run r).1 = .ok ⟨⟩) :
    Complete r.config form ((recordForm form).run r).2.marks := by
  rw [recordForm_run] at hok ⊢
  exact (recordFields_gathers _ _ r (recalls_given r)).2 hok hrec

/-- So it adds at most one step for a selector, and none for one that had a value. -/
lemma Adds.captured (h : Adds Captures ms ms') : ∃ added, ms' = ms ++ added ∧ (added.map Prod.snd).Nodup ∧
    ∀ m ∈ added, m.1.givesValue = true ∧ ∀ old ∈ ms, old.1.givesValue = true → old.2 ≠ m.2 := by
  induction h with
  | none => exact ⟨[], (List.append_nil _).symm, List.nodup_nil, nofun⟩
  | @one ms' m _ hm ih =>
    obtain ⟨added, rfl, hnodup, hadded⟩ := ih
    obtain ⟨selector, hgives, hnew⟩ := hm
    refine ⟨added ++ [m], List.append_assoc _ _ _, ?_, fun k hk => ?_⟩
    · rw [List.map_append, List.map_singleton, List.nodup_append']
      refine ⟨hnodup, List.nodup_singleton _, fun s hs hm => ?_⟩
      obtain rfl := List.mem_singleton.1 hm
      obtain ⟨k, hk, hs⟩ := List.mem_map.1 hs
      exact hnew k (List.mem_append_right _ hk) ⟨(hadded k hk).1, hs.trans hgives.2⟩
    · rcases List.mem_append.1 hk with hk | hk
      · exact hadded k hk
      · obtain rfl := List.mem_singleton.1 hk
        exact ⟨hgives.1, fun old hold hg hs => hnew old (List.mem_append_left _ hold) ⟨hg, hs.trans hgives.2⟩⟩

end Recorder

end PageTape
