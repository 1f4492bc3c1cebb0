import PageTape.Proofs.Recorder.Typing

/-!
# What a user does is recorded by moves

* `heardText?` — the text that an event gives a field, told without the recorder's programs: the value and the time
  under the selector of the field.  An event that gives one is kept and nothing else happens (`hear_text`);
* `hear_runs` — every other event is recorded by moves: the texts that wait first, and then steps of the time it is.
-/

namespace PageTape

/-! ### Selectors -/

namespace Locator

lemma textOr_ne_empty (s : Option String) {t : String} (h : t ≠ "") : Dom.textOr s t ≠ "" := by
  unfold Dom.textOr
  split
  · split
    · exact h
    · rename_i hs
      simpa using hs
  · exact h

/-- The selector of an element is never empty. -/
lemma quick_ne_empty (l : Dom.Location) : quick l ≠ "" := by
  unfold quick
  split
  · simp [ident]
  · split
    · rename_i s hs
      obtain ⟨n, -, h⟩ := List.exists_of_findSome?_eq_some hs
      obtain ⟨v, -, rfl⟩ := Option.map_eq_some_iff.1 h
      simp [attrOf, toString]
    · split
      · simp [attrOf, toString]
      · unfold structural
        exact textOr_ne_empty _ (textOr_ne_empty (some _) (by decide))

end Locator

namespace Recorder

open Dom (Location)

variable {C : Course Recorder} {may : Leave} {p : Page} {r : Recorder}

/-- All that a program does to a recorder is moves. -/
abbrev Moves (may : Leave) {α : Type} (act : Act α) : Prop :=
  (course may).Runs (fun _ => True) act fun _ _ => True

/-! ### Elements -/

lemma leavesAlone_run (l : Location) (r : Recorder) : (leavesAlone l).run r = (isOwn r.config l, r) := by
  unfold leavesAlone
  rw [Course.run_bind, Course.run_get]
  dsimp only
  cases isOwn r.config l <;> rfl

lemma accepted?_run (p : Page) (event : Page.Event) (r : Recorder) :
    (accepted? p event).run r = (if !r.isRecording then .ok none else
      match event.target.element?.bind p.forest.locate? with
      | none => .ok none
      | some l => (isOwn r.config l).map fun own => if own then none else some l, r) := by
  unfold accepted?
  rw [Course.run_bind, Course.run_get]
  dsimp only
  split
  · rfl
  · cases event.target.element?.bind p.forest.locate? with
    | none => rfl
    | some l =>
      dsimp only
      rw [Course.run_bind, leavesAlone_run]
      cases isOwn r.config l <;> rfl

lemma accepted?_eq_some {event : Page.Event} {l : Location} :
    ((accepted? p event).run r).1 = .ok (some l) ↔ r.isRecording = true ∧
      event.target.element?.bind p.forest.locate? = some l ∧ isOwn r.config l = .ok false := by
  rw [accepted?_run]
  cases hrec : r.isRecording with
  | false => simp
  | true =>
    cases event.target.element?.bind p.forest.locate? with
    | none => simp
    | some k =>
      simp only [Bool.not_true, Bool.false_eq_true, if_false, true_and, Option.some.injEq]
      constructor
      · intro h
        rcases hown : isOwn r.config k with _ | _ | _ <;> simp [hown, Except.map] at h
        exact ⟨h, h ▸ hown⟩
      · rintro ⟨rfl, hown⟩
        simp [hown, Except.map]

/-! ### Steps of the time it is -/

/-- The newest step has not chosen in the field of a selector. -/
def NotChosen (selector : Option String) (r : Recorder) : Prop :=
  ∀ last ∈ r.steps.getLast?, last.kind = .select → last.selector ≠ selector

/-- The step tells of something the user does now, other than typing; it is no second choice in the same field. -/
structure OfNow (step : Step) (r : Recorder) : Prop where
  user : step.kind.isSynthetic = false
  kind : step.kind ≠ .fill
  time : step.timestamp = r.now
  choice : step.kind = .select → step.selector.isSome = true ∧ NotChosen step.selector r

/-- A step is added for the user, if the recorder is recording. -/
lemma addUserStep_runs [hC : Admits C may] (r : Recorder) (step : Step) (hk : step.kind.isSynthetic = false)
    (ht : step.timestamp = r.now)
    (hf : step.kind = .fill → ∀ s ∈ r.steps, s.kind = .fill → s.selector ≠ step.selector)
    (hn : step.kind = .select → NotChosen step.selector r) :
    C.Runs (fun s => s = r ∧ Calm r) (addUserStep step) fun added s =>
      Calm s ∧ s.steps = if added then r.steps ++ [step] else r.steps := by
  rintro s hs ⟨rfl, hc⟩
  cases hrec : s.isRecording with
  | false =>
    rw [addUserStep_idle hrec]
    refine ⟨C.refl s, fun b hb => ?_⟩
    obtain rfl : false = b := by simpa using hb
    exact ⟨hc, rfl⟩
  | true =>
    obtain ⟨a, h, hr⟩ := isRecording_iff.1 hrec
    have hsteps : s.steps = a.session.steps := by simp [steps, h]
    obtain ⟨notices, h₁, h₂⟩ := addUserStep_run h hr step
    rw [h₁]
    refine ⟨hC.deed hs ⟨.acted notices h hr (hc a h) hk ht (fun hkf => hsteps ▸ hf hkf) fun hks => hsteps ▸ hn hks,
      by rw [h]; rfl, .inr ?_, le_rfl⟩, fun b hb => ?_⟩
    · rw [hsteps]
      refine idleWaits_concat (beq_eq_false_iff_ne.2 fun e => ?_) _
      rw [e] at hk
      cases hk
    obtain rfl := h₂ b hb
    refine ⟨fun b hb => ?_, by simp [steps, h, Active.withSteps]⟩
    obtain rfl := Option.some.inj hb
    exact hc a h

lemma record_runs [Admits C may] (l : Option Location) (step : Step) :
    C.Runs (fun s => Calm s ∧ OfNow step s) (record l step) fun _ => Calm := by
  -- what is said of the element changes neither the kind of the step nor its time
  have hrecord : ∀ described : Step, described.kind = step.kind → described.timestamp = step.timestamp →
      (step.selector.isSome = true → described.selector = step.selector) →
      C.Runs (fun s => Calm s ∧ OfNow step s) (discard (addUserStep described)) fun _ => Calm := by
    rintro described hkind htime hselector s hs ⟨hc, hnow⟩
    refine Course.Runs.discard ((addUserStep_runs s described (hkind ▸ hnow.user) (htime.trans hnow.time) (fun hf => ?_)
      fun hs => ?_).weaken fun _ _ hQ => hQ.1) s hs ⟨rfl, hc⟩
    · exact absurd (hkind.symm.trans hf) hnow.kind
    · obtain ⟨hsome, hchoice⟩ := hnow.choice (hkind.symm.trans hs)
      exact (hselector hsome).symm ▸ hchoice
  cases l with
  | none => exact hrecord step rfl rfl fun _ => rfl
  | some l =>
    refine hrecord (describe l step) rfl rfl fun hsome => ?_
    obtain ⟨selector, hselector⟩ := Option.isSome_iff_exists.1 hsome
    simp [describe, hselector]

lemma stepNow_run (kind : StepKind) (r : Recorder) :
    (stepNow kind).run r = (.ok { kind, timestamp := r.now }, r) := rfl

/-- A step of the time it is is recorded where no text waits. -/
lemma recordNow_runs [Admits C may] {P : Recorder → Prop} (hP : ∀ s, P s → Calm s) (l : Option Location)
    (kind : StepKind) (f : Step → Step) (hk : kind.isSynthetic = false) (hn : kind ≠ .fill)
    (hf : ∀ s, (f s).kind = s.kind ∧ (f s).timestamp = s.timestamp)
    (hc : kind = .select → ∃ selector, (∀ s, (f s).selector = some selector) ∧ ∀ s, P s → NotChosen (some selector) s) :
    C.Runs P (stepNow kind >>= fun step => record l (f step)) fun _ _ => True := by
  refine .bind_still (fun _ => rfl) fun r step hs => (record_runs l _).mono ?_ fun _ _ _ => trivial
  rintro s - ⟨rfl, hs'⟩
  rw [stepNow_run] at hs
  obtain rfl := Except.ok.inj hs
  refine ⟨hP s hs', by rw [(hf _).1]; exact hk, by rw [(hf _).1]; exact hn, (hf _).2, fun hkind => ?_⟩
  obtain ⟨selector, hselector, hnew⟩ := hc ((hf _).1.symm.trans hkind)
  rw [hselector]
  exact ⟨rfl, hnew s hs'⟩

/-! ### Controls -/

/-- The newest step takes another choice. -/
lemma rechoose_runs [hC : Admits C may] (r : Recorder) {position : Nat} {last : Step}
    (hn : r.newest? = some (position, last)) (hk : last.kind = .select) (value : Option String) :
    C.Runs (fun s => s = r ∧ Calm s) (change position fun step => { step with value })
      fun _ _ => True := by
  rintro s hs ⟨rfl, hc⟩
  cases h : s.active with
  | none => simp [newest?, steps, h] at hn
  | some a =>
    obtain ⟨steps, hsteps, rfl⟩ := newest?_eq_some h hn
    have hlast : a.session.steps[steps.length]? = some last := by simp [hsteps]
    obtain ⟨notices, hrun⟩ := change_run h hlast fun step => { step with value }
    have hset : a.session.steps.set steps.length { last with value } = steps ++ [{ last with value }] := by
      rw [hsteps, List.set_append_right _ _ le_rfl]
      simp
    rw [hrun, hset]
    refine ⟨hC.deed hs ⟨.rechosen notices value h (hc a h) hsteps hk, by rw [h]; rfl, .inr ?_, le_rfl⟩, fun _ _ =>
      trivial⟩
    rw [steps_of_active h, hsteps, idleWaits_concat (by simp [hk])]
    exact idleWaits_concat (by simp [hk]) steps

lemma recordChoice_runs [Admits C may] (p : Page) (l : Location) : Stays C (recordChoice p l) := by
  unfold recordChoice
  refine .bind (recordAllWaiting_runs p) fun _ => .bind_get fun r => ?_
  dsimp only
  split
  · rename_i position last hn
    obtain ⟨hn, habout⟩ := Option.filter_eq_some_iff.1 hn
    have hk : last.kind = .select := by
      simp only [isAbout, Bool.and_eq_true, beq_iff_eq] at habout
      exact habout.1
    exact .ite (fun _ => rechoose_runs r hn hk _) fun _ => .pure fun _ _ _ => trivial
  · rename_i hn
    refine recordNow_runs (fun _ h => h.2) _ _ _ rfl (by decide) (fun s => ⟨rfl, rfl⟩) fun _ => ⟨_, fun _ => rfl, ?_⟩
    rintro s ⟨rfl, -⟩ last hlast hk hselector
    refine Option.filter_eq_none_iff.1 hn (s.steps.length - 1, last) ?_ ?_
    · rw [newest?, Option.mem_def.1 hlast, Option.map_some]
    · simp [isAbout, hk, hselector]

lemma recordBox_runs [Admits C may] (p : Page) (l : Location) : Stays C (recordBox p l) := by
  unfold recordBox
  refine .bind (recordAllWaiting_runs p) fun _ => ?_
  split
  · exact recordNow_runs (fun _ h => h) _ _ _ rfl nofun (fun s => ⟨rfl, rfl⟩) nofun
  · exact recordNow_runs (fun _ h => h) _ _ _ rfl nofun (fun s => ⟨rfl, rfl⟩) nofun

lemma recordRadio_runs [Admits C may] (p : Page) (l : Location) : Stays C (recordRadio p l) := by
  unfold recordRadio
  exact .bind (recordAllWaiting_runs p) fun _ =>
    recordNow_runs (fun _ h => h) _ _ _ rfl nofun (fun s => ⟨rfl, rfl⟩) nofun

/-! ### Forms -/

/-- The selectors of all steps that have given a field its value are among those known. -/
def Knows (known : List String) (r : Recorder) : Prop :=
  ∀ step ∈ r.steps, step.kind.givesValue = true → ∀ s, step.selector = some s → s ≠ "" → s ∈ known

lemma snapshot?_eq_some {l : Location} {selector : String} {now : Int} {step : Step}
    (h : snapshot? l selector now = some step) :
    step.kind.isSynthetic = false ∧ step.timestamp = now ∧ step.selector = some selector := by
  unfold snapshot? at h
  dsimp only at h
  split at h <;> (try split at h) <;> first
    | (cases h; exact ⟨rfl, rfl, rfl⟩)
    | cases h

/-- The fields that are recorded with a form are those that no step has filled. -/
lemma recordFields_runs [Admits C may] (known : List String) (fields : List Location) :
    C.Runs (fun s => Calm s ∧ Knows known s) (recordFields known fields) fun _ => Calm := by
  induction fields generalizing known with
  | nil => exact .pure fun _ _ h => h.1
  | cons l rest ih =>
    unfold recordFields
    dsimp only
    refine .bind_still (fun s => by rw [leavesAlone_run]) fun r own _ => ?_
    refine .ite (fun _ => (ih known).strengthen fun _ _ h => h.2) fun hskip => .bind_get fun r' => ?_
    split
    · rename_i step hstep
      obtain ⟨hk, ht, hsel⟩ := snapshot?_eq_some hstep
      have hunknown : Locator.quick l ∉ known := fun hmem => hskip (by simp [hmem])
      rintro s hs ⟨rfl, -, hc, hkn⟩
      have hfresh : ∀ t ∈ s.steps, t.kind.givesValue = true → t.selector ≠ step.selector :=
        fun t ht hg hts => hunknown (hkn t ht hg _ (hts.trans hsel) (Locator.quick_ne_empty l))
      refine Course.Runs.bind (addUserStep_runs s step hk ht (fun _ t ht hf => hfresh t ht (by rw [hf]; rfl))
        fun _ t ht hc => hfresh t (List.mem_of_getLast? ht) (by rw [hc]; rfl)) (fun added => ?_) s hs ⟨rfl, hc⟩
      refine (ih _).strengthen ?_
      rintro t - ⟨hc, hsteps⟩
      refine ⟨hc, fun u hu hf sel hus hne => ?_⟩
      cases added with
      | false => exact hkn u (by simpa [hsteps] using hu) hf sel hus hne
      | true =>
        rw [hsteps, if_pos rfl] at hu
        rw [if_pos rfl]
        rcases List.mem_append.1 hu with hu | hu
        · exact List.mem_cons_of_mem _ (hkn u hu hf sel hus hne)
        · obtain rfl := List.mem_singleton.1 hu
          obtain rfl : Locator.quick l = sel := Option.some.inj (hsel.symm.trans hus)
          exact List.mem_cons_self
    · exact (ih known).strengthen fun _ _ h => h.2.2

lemma recordForm_runs [Admits C may] (form : Location) : C.Runs Calm (recordForm form) fun _ => Calm := by
  unfold recordForm
  refine .bind_get fun r => (recordFields_runs _ (formFields form)).strengthen ?_
  rintro s - ⟨rfl, hc⟩
  refine ⟨hc, fun step hstep hg sel hsel hne => List.mem_filterMap.2 ⟨step, hstep, ?_⟩⟩
  simp [hg, hsel, nonempty?, hne]

/-! ### Clicks, submits and keys -/

lemma onClick_runs [Admits C may] (p : Page) (event : Page.Event) : Stays C (onClick p event) := by
  unfold onClick
  refine .bind_still (fun s => by rw [accepted?_run]) fun r l? _ => ?_
  cases l? with
  | none => exact .pure fun _ _ _ => trivial
  | some l =>
    dsimp only
    refine .ite (fun _ => .pure fun _ _ _ => trivial) fun _ => ?_
    refine .bind ((recordAllWaiting_runs p).strengthen fun _ _ _ => trivial) fun _ => .ite (fun _ => ?_) fun _ => ?_
    · have hlast : C.Runs Calm (stepNow .submit >>= fun step =>
          record (some l) { step with label := nonempty? (some (Text.strip l.textContent)) }) fun _ _ => True :=
        recordNow_runs (fun _ h => h) _ _ _ rfl nofun (fun s => ⟨rfl, rfl⟩) nofun
      split
      · exact .bind (recordForm_runs _) fun _ => hlast
      · exact hlast
    · exact recordNow_runs (fun _ h => h) _ _ _ rfl nofun (fun s => ⟨rfl, rfl⟩) nofun

lemma onSubmit_runs [Admits C may] (p : Page) (event : Page.Event) : Stays C (onSubmit p event) := by
  unfold onSubmit
  refine .bind_still (fun s => by rw [accepted?_run]) fun r l? _ => ?_
  cases l? with
  | none => exact .pure fun _ _ _ => trivial
  | some form =>
    dsimp only
    refine .bind ((recordAllWaiting_runs p).strengthen fun _ _ _ => trivial) fun _ => .bind_get fun r => ?_
    refine .ite (fun _ => .pure fun _ _ _ => trivial) fun _ => ?_
    refine .bind ((recordForm_runs form).strengthen fun _ _ h => h.2) fun _ => ?_
    exact recordNow_runs (fun _ h => h) _ _ _ rfl nofun (fun s => ⟨rfl, rfl⟩) nofun

lemma onKeyDown_runs [Admits C may] (p : Page) (event : Page.Event) : Stays C (onKeyDown p event) := by
  unfold onKeyDown
  refine .bind_get fun r => .ite (fun _ => .pure fun _ _ _ => trivial) fun _ => ?_
  have hlast : ∀ {P : Recorder → Prop} (l : Option Location), C.Runs P (recordAllWaiting p >>= fun _ =>
      stepNow .pressKey >>= fun step => record l { step with key := event.key }) fun _ _ => True := fun l =>
    .bind ((recordAllWaiting_runs p).strengthen fun _ _ _ => trivial) fun _ =>
      recordNow_runs (fun _ h => h) _ _ _ rfl nofun (fun s => ⟨rfl, rfl⟩) nofun
  dsimp only
  split
  · refine .bind_still (fun s => by rw [leavesAlone_run]) fun r own _ => ?_
    exact .ite (fun _ => .pure fun _ _ _ => trivial) fun _ => hlast _
  · exact hlast _

lemma recordPage_runs [Admits C may] (p : Page) (kind : StepKind) (f : Step → Step) (hk : kind.isSynthetic = false)
    (hn : kind ≠ .fill) (hc : kind ≠ .select) (hf : ∀ s, (f s).kind = s.kind ∧ (f s).timestamp = s.timestamp) :
    Stays C (recordPage p kind f) := by
  unfold recordPage
  refine .bind_get fun r => .ite (fun _ => .pure fun _ _ _ => trivial) fun _ => ?_
  refine .bind ((recordAllWaiting_runs p).strengthen fun _ _ _ => trivial) fun _ => ?_
  exact recordNow_runs (fun _ h => h) _ _ _ hk hn (fun s => hf _) fun e => absurd e hc

/-! ### All events -/

/-- The element is a field for text, and is not left alone. -/
def takesText (config : Config) (l : Location) : Bool :=
  controlKind? l.tag == some .text && match isOwn config l with
    | .ok own => !own
    | .error _ => false

/-- The text that an event gives a field, if it does: the selector of the field, and the text at the time it is. -/
def heardText? (r : Recorder) (p : Page) (event : Page.Event) : Option (String × Typed) :=
  if r.isRecording && event.type == "input" then
    ((event.target.element?.bind p.forest.locate?).filter (takesText r.config)).map fun l =>
      (Locator.quick l, ⟨l.tag.id, l.value, r.clock.now⟩)
  else none

lemma takesText_iff {config : Config} {l : Location} :
    takesText config l = true ↔ isOwn config l = .ok false ∧ controlKind? l.tag = some .text := by
  unfold takesText
  rcases isOwn config l with _ | _ | _ <;> simp

lemma heardText?_eq_some {event : Page.Event} {selector : String} {typed : Typed} :
    heardText? r p event = some (selector, typed) ↔ r.isRecording = true ∧ event.type = "input" ∧
      ∃ l, event.target.element?.bind p.forest.locate? = some l ∧ takesText r.config l = true ∧
        selector = Locator.quick l ∧ typed = ⟨l.tag.id, l.value, r.clock.now⟩ := by
  unfold heardText?
  split
  · rename_i h
    simp only [Bool.and_eq_true, beq_iff_eq] at h
    simp only [h.1, h.2, Option.map_eq_some_iff, Option.filter_eq_some_iff, Prod.mk.injEq, true_and]
    exact exists_congr fun l => ⟨fun ⟨⟨h₁, h₂⟩, h₃, h₄⟩ => ⟨h₁, h₂, h₃.symm, h₄.symm⟩,
      fun ⟨h₁, h₂, h₃, h₄⟩ => ⟨⟨h₁, h₂⟩, h₃.symm, h₄.symm⟩⟩
  · rename_i h
    simp only [Bool.and_eq_true, beq_iff_eq] at h
    exact ⟨nofun, fun ⟨h₁, h₂, _⟩ => absurd ⟨h₁, h₂⟩ h⟩

/-- The recorder with a text that waits. -/
def keepText (r : Recorder) (selector : String) (typed : Typed) : Recorder :=
  match r.active with
  | none => r
  | some a => { r with
      clock := (a.inputs.schedule r.clock r.clock.now (.input selector) selector typed).2
      active := some { a with
        inputs := (a.inputs.schedule r.clock r.clock.now (.input selector) selector typed).1 } }

lemma awaitText_run (l : Location) (r : Recorder) :
    (awaitText l).run r = (.ok ⟨⟩, keepText r (Locator.quick l) ⟨l.tag.id, l.value, r.clock.now⟩) := by
  cases h : r.active <;> simp [awaitText, keepText, h]

/-- An event that gives a field a text keeps it, and does nothing else. -/
lemma hear_text {event : Page.Event} {selector : String} {typed : Typed}
    (h : heardText? r p event = some (selector, typed)) :
    (hear p event).run r = (.ok ⟨⟩, keepText r selector typed) := by
  obtain ⟨hrec, htype, l, hl, htakes, rfl, rfl⟩ := heardText?_eq_some.1 h
  obtain ⟨hown, hkind⟩ := takesText_iff.1 htakes
  have hacc : (accepted? p event).run r = (.ok (some l), r) :=
    Prod.ext (accepted?_eq_some.2 ⟨hrec, hl, hown⟩) (by rw [accepted?_run])
  rw [hear, htype]
  show (onInput p event).run r = _
  rw [onInput, Course.run_bind, hacc]
  simp only [hkind]
  exact awaitText_run l r

lemma onInput_runs [Admits C may] (event : Page.Event) (ht : event.type = "input") :
    C.Runs (fun s => heardText? s p event = none) (onInput p event) fun _ _ => True := by
  unfold onInput
  refine .bind_still (fun s => by rw [accepted?_run]) fun r l? hl => ?_
  cases l? with
  | none => exact .pure fun _ _ _ => trivial
  | some l =>
    dsimp only
    split
    · exact (recordChoice_runs p l).strengthen fun _ _ _ => trivial
    · exact (recordBox_runs p l).strengthen fun _ _ _ => trivial
    · exact (recordRadio_runs p l).strengthen fun _ _ _ => trivial
    · -- the event would have given a text
      rename_i hkind
      rintro s - ⟨rfl, hnone⟩
      obtain ⟨hrec, hloc, hown⟩ := accepted?_eq_some.1 hl
      rw [heardText?_eq_some.2 ⟨hrec, ht, l, hloc, takesText_iff.2 ⟨hown, hkind⟩, rfl, rfl⟩] at hnone
      cases hnone
    · exact .pure fun _ _ _ => trivial

lemma onChange_runs [Admits C may] (p : Page) (event : Page.Event) : Stays C (onChange p event) := by
  unfold onChange
  refine .bind_still (fun s => by rw [accepted?_run]) fun r l? _ => ?_
  cases l? with
  | none => exact .pure fun _ _ _ => trivial
  | some l =>
    exact .ite (fun _ => (recordChoice_runs p l).strengthen fun _ _ _ => trivial) fun _ => .pure fun _ _ _ => trivial

/-- **Every other event is recorded by moves.** -/
lemma hear_runs [Admits C may] (p : Page) (event : Page.Event) :
    C.Runs (fun s => heardText? s p event = none) (hear p event) fun _ _ => True := by
  have hpage : ∀ (kind : StepKind) (f : Step → Step), kind.isSynthetic = false → kind ≠ .fill → kind ≠ .select →
      (∀ s, (f s).kind = s.kind ∧ (f s).timestamp = s.timestamp) →
      C.Runs (fun s => heardText? s p event = none) (recordPage p kind f) fun _ _ => True :=
    fun kind f hk hn hc hf => (recordPage_runs p kind f hk hn hc hf).strengthen fun _ _ _ => trivial
  unfold hear
  split
  · exact onInput_runs event ‹_›
  · exact (onChange_runs p event).strengthen fun _ _ _ => trivial
  · exact (onClick_runs p event).strengthen fun _ _ _ => trivial
  · exact (onSubmit_runs p event).strengthen fun _ _ _ => trivial
  · exact (onKeyDown_runs p event).strengthen fun _ _ _ => trivial
  · exact hpage .navigate _ rfl nofun nofun fun s => ⟨rfl, rfl⟩
  · exact hpage .waitForUrl _ rfl nofun nofun fun s => ⟨rfl, rfl⟩
  · exact hpage .waitForUrl _ rfl nofun nofun fun s => ⟨rfl, rfl⟩
  · exact .pure fun _ _ _ => trivial

end Recorder

end PageTape
