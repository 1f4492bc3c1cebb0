import PageTape.Proofs.Recorder.Origin
import PageTape.Proofs.Recorder.Silent

/-!
# What is written into a recording

While a signal is obeyed, all that fills a field in the recording comes from one of two places: from a text that waits,
which is recorded on the page that the signal brings, or from a field of a form on that page, which is captured as it
is.  `Writes` tells of each thing that is written, `Written` of any number of them.  What has been written can be read
off afterwards: a step that was added and fills a field is the one of a text that waited, or describes a field of a form
(`Written.added`).  All programs of a recorder write so (`hear_writes`, `advance_writes`, `settle_writes`).
-/

namespace PageTape.Recorder

open Dom (Location)

variable {p : Page} {W : List (String × Typed)} {steps steps' : List Step} {r : Recorder} {α : Type}

/-! ### Steps that are written -/

/-- The element is a field of a form on a page. -/
def InForm (p : Page) (l : Location) : Prop :=
  ∃ id m form, p.forest.locate? id = some m ∧ (form = m ∨ Css.closest? [Locator.named "form"] m = some form) ∧
    l ∈ formFields form

/-- **The step describes a field as it is.** -/
structure Describes (l : Location) (step : Step) : Prop where
  selector : step.selector = some (Locator.quick l)
  value : step.value = some l.value
  smartSelectors : step.smartSelectors = some (Locator.smart l)
  label : step.label = Locator.label? l
  required : step.required = some l.tag.isRequired

/-- **One thing that is written into a recording** on a page, while texts wait. -/
inductive Writes (p : Page) (W : List (String × Typed)) : List Step → List Step → Prop
  /-- a text is recorded -/
  | take {steps steps' : List Step} {selector : String} {typed : Typed} (hw : (selector, typed) ∈ W)
      (h : TakesOn p selector typed steps steps') : Writes p W steps steps'
  /-- a field of a form is captured, for which no text has waited -/
  | capture {steps : List Step} {step : Step} {l : Location} {now : Int} (hl : InForm p l)
      (hfree : ∀ typed, (Locator.quick l, typed) ∉ W) (h : snapshot? l (Locator.quick l) now = some step) :
      Writes p W steps (steps ++ [step])
  /-- a step is added that fills no field -/
  | other {steps : List Step} {step : Step} (h : step.kind ≠ .fill) : Writes p W steps (steps ++ [step])
  /-- the newest step takes another choice -/
  | rechoose {steps : List Step} {last : Step} (value : Option String) (h : last.kind = .select) :
      Writes p W (steps ++ [last]) (steps ++ [{ last with value }])

/-- Any number of things are written. -/
abbrev Written (p : Page) (W : List (String × Typed)) : List Step → List Step → Prop :=
  Relation.ReflTransGen (Writes p W)

/-- **Where a step comes from that fills a field**: it is the one of a text that waited, or describes a field of a form
for which none did. -/
def Accounted (p : Page) (W : List (String × Typed)) (step : Step) : Prop :=
  (∃ selector typed, (selector, typed) ∈ W ∧ step = fillStep p selector typed) ∨
    ∃ l, InForm p l ∧ (∀ typed, (Locator.quick l, typed) ∉ W) ∧ Describes l step

/-- What is captured of a field that is filled describes it. -/
lemma snapshot?_describes {l : Location} {now : Int} {step : Step} (h : snapshot? l (Locator.quick l) now = some step)
    (hfill : step.kind = .fill) : Describes l step := by
  unfold snapshot? at h
  dsimp only at h
  split at h <;> (try split at h) <;> first
    | (cases h; exact ⟨rfl, rfl, rfl, rfl, rfl⟩)
    | (cases h; cases hfill)
    | cases h

/-- Recording a text a second time changes nothing about its step. -/
lemma fillStep_retaken (p : Page) (selector : String) (typed : Typed) :
    { fillStep p selector typed with value := some typed.value, timestamp := stampOf typed.since } =
      fillStep p selector typed := by
  unfold fillStep
  dsimp only
  split <;> rfl

/-- The step of a field takes only the text of that field. -/
lemma Accounted.take (hW : ∀ selector typed typed', (selector, typed) ∈ W → (selector, typed') ∈ W → typed = typed')
    {step : Step} {selector : String} {typed : Typed} (h : Accounted p W step) (hw : (selector, typed) ∈ W)
    (habout : isAbout .fill selector step = true) :
    Accounted p W { step with value := some typed.value, timestamp := stampOf typed.since } := by
  rcases h with ⟨key, text, hmem, rfl⟩ | ⟨l, -, hfree, hdescribes⟩
  · have hkey : (fillStep p key text).selector = some key := (fills_fillStep p ⟨key, text.since, 0, text⟩).2.1
    simp only [isAbout, Bool.and_eq_true, beq_iff_eq, hkey, Option.some.injEq] at habout
    obtain ⟨-, rfl⟩ := habout
    obtain rfl := hW key text typed hmem hw
    rw [fillStep_retaken]
    exact .inl ⟨key, text, hmem, rfl⟩
  · simp only [isAbout, Bool.and_eq_true, beq_iff_eq, hdescribes.selector, Option.some.injEq] at habout
    obtain ⟨-, rfl⟩ := habout
    exact absurd hw (hfree typed)

/-- What is written is the newest step, new or in the place of another one; if it fills a field it is accounted for, or
the other one is not. -/
lemma Writes.eq_append (hW : ∀ selector typed typed', (selector, typed) ∈ W → (selector, typed') ∈ W → typed = typed')
    (h : Writes p W steps steps') : ∃ init last, steps' = init ++ [last] ∧
      ((steps = init ∧ (last.kind = .fill → Accounted p W last)) ∨ ∃ old, steps = init ++ [old] ∧
        (last.kind = .fill → old.kind = .fill ∧ (Accounted p W old → Accounted p W last))) := by
  cases h with
  | @take _ _ selector typed hw h =>
    cases h with
    | update init last habout =>
      exact ⟨init, _, rfl, .inr ⟨last, rfl, fun hfill => ⟨hfill, fun hold => hold.take hW hw habout⟩⟩⟩
    | append _ hnew => exact ⟨steps, _, rfl, .inl ⟨rfl, fun _ => .inl ⟨selector, typed, hw, rfl⟩⟩⟩
  | @capture _ step l now hl hfree hstep =>
    exact ⟨steps, step, rfl, .inl ⟨rfl, fun hfill => .inr ⟨l, hl, hfree, snapshot?_describes hstep hfill⟩⟩⟩
  | @other _ step hkind => exact ⟨steps, step, rfl, .inl ⟨rfl, fun hfill => absurd hfill hkind⟩⟩
  | @rechoose init last value hkind =>
    exact ⟨init, _, rfl, .inr ⟨last, rfl, fun hfill => absurd (hkind.symm.trans hfill) nofun⟩⟩

/-- **Every step that has been added and fills a field is accounted for.** -/
theorem Written.added (hW : ∀ selector typed typed', (selector, typed) ∈ W → (selector, typed') ∈ W → typed = typed')
    (h : Written p W steps steps') : steps.length ≤ steps'.length ∧ ∀ i step, steps.length ≤ i →
      steps'[i]? = some step → step.kind = .fill → Accounted p W step := by
  induction h with
  | refl =>
    refine ⟨le_rfl, fun i step hi hstep => ?_⟩
    rw [List.getElem?_eq_none hi] at hstep
    cases hstep
  | tail _ hwrites ih =>
    obtain ⟨hlength, hadded⟩ := ih
    obtain ⟨init, last, rfl, ⟨rfl, hlast⟩ | ⟨old, rfl, hlast⟩⟩ := hwrites.eq_append hW
    · refine ⟨hlength.trans (by simp), fun i step hi hstep hfill => ?_⟩
      rcases getElem?_concat hstep with hstep | ⟨-, rfl⟩
      · exact hadded i step hi hstep hfill
      · exact hlast hfill
    · refine ⟨by simpa using hlength, fun i step hi hstep hfill => ?_⟩
      rcases getElem?_concat hstep with hstep | ⟨rfl, rfl⟩
      · have hlt := (List.getElem?_eq_some_iff.1 hstep).1
        exact hadded i step hi (by rw [List.getElem?_append_left hlt, hstep]) hfill
      · obtain ⟨hold, haccounted⟩ := hlast hfill
        exact haccounted (hadded init.length old hi (by simp) hold)

/-! ### Programs that write -/

/-- **The course of a recorder on a page**: what is recorded is written, and no text waits that did not. -/
def writing (p : Page) (W : List (String × Typed)) : Course Recorder where
  holds r := r.held ⊆ W
  leads r r' := r'.held ⊆ r.held ∧ Written p W r.steps r'.steps
  refl _ := ⟨List.Subset.refl _, .refl⟩
  trans h h' := ⟨List.Subset.trans h'.1 h.1, h.2.trans h'.2⟩
  keeps h hr := List.Subset.trans h.1 hr

/-- A step is added by the user or by the recorder itself, if the recorder is recording. -/
lemma addUserStep_writing (r : Recorder) {step : Step} (h : ∀ steps, Writes p W steps (steps ++ [step])) :
    (writing p W).leads r ((addUserStep step).run r).2 := by
  cases hrec : r.isRecording with
  | false =>
    rw [addUserStep_idle hrec]
    exact (writing p W).refl r
  | true =>
    obtain ⟨a, ha, hr⟩ := isRecording_iff.1 hrec
    obtain ⟨notices, hrun, -⟩ := addUserStep_run ha hr step
    rw [hrun]
    refine ⟨by rw [held_eq rfl, held_eq ha]; exact List.Subset.refl _, ?_⟩
    rw [steps_of_active ha, steps_of_active rfl]
    exact .single (h _)

instance : AllowsNotes (writing p W) where
  same h := ⟨h.held ▸ List.Subset.refl _, h.steps ▸ .refl⟩
  add r step hk := by
    obtain ⟨-, hrun⟩ | ⟨a, notices, ha, -, hrun⟩ := add_cases step r <;> rw [hrun]
    · exact (writing p W).refl r
    · refine ⟨by rw [held_eq rfl, held_eq ha]; exact List.Subset.refl _, ?_⟩
      rw [steps_of_active ha, steps_of_active rfl]
      exact .single (.other fun hfill => by rw [hfill] at hk; cases hk)

/-- A text that waits is recorded. -/
lemma recordText_writing (r : Recorder) {selector : String} {typed : Typed} (hw : (selector, typed) ∈ W) :
    (writing p W).leads r ((recordText p selector typed).run r).2 := by
  cases hrec : r.isRecording with
  | false =>
    unfold recordText
    rw [Course.run_bind, Course.run_get]
    simp only [hrec, Bool.not_false, if_true]
    exact (writing p W).refl r
  | true =>
    obtain ⟨a, ha, hr⟩ := isRecording_iff.1 hrec
    obtain ⟨steps, notices, htakes, hrun⟩ := recordText_takes p ha hr selector typed
    rw [hrun]
    refine ⟨by rw [held_eq rfl, held_eq ha]; exact List.Subset.refl _, ?_⟩
    rw [steps_of_active ha, steps_of_active rfl]
    exact .single (.take hw htakes)

/-- The entry of a key is among those that wait. -/
lemma mem_held_of_find? {a : Active} (h : r.active = some a) {selector : String} {w : Waiting String Typed}
    (hw : a.inputs.find? selector = some w) : (selector, w.payload) ∈ r.held := by
  rw [held_eq h]
  have hkey : (w.key == selector) = true := List.find?_some (p := fun v : Waiting String Typed => v.key == selector) hw
  exact List.mem_map.2 ⟨w, List.mem_of_find?_eq_some hw, by rw [beq_iff_eq.1 hkey]⟩

/-- Of the texts that wait some are taken out, or their timers set again. -/
lemma leads_inputs {a : Active} (h : r.active = some a) {inputs : Debouncer String Typed} {clock : Clock Alarm}
    (hinputs : (inputs.waiting.map fun w => (w.key, w.payload)) ⊆ a.inputs.waiting.map fun w => (w.key, w.payload)) :
    (writing p W).leads r { r with clock, active := some { a with inputs } } := by
  refine ⟨?_, by rw [steps_of_active h]; exact .refl⟩
  rw [held_eq rfl, held_eq h]
  exact hinputs

lemma drop_subset (inputs : Debouncer String Typed) (selector : String) :
    ((inputs.drop selector).waiting.map fun w => (w.key, w.payload)) ⊆ inputs.waiting.map fun w => (w.key, w.payload) :=
  List.map_subset _ List.filter_sublist.subset

lemma recordWaiting_stays (selector : String) : Stays (writing p W) (recordWaiting p selector) := by
  unfold recordWaiting
  refine Course.Runs.bind (Q := fun typed _ => ∀ text ∈ typed, (selector, text) ∈ W) (fun r hr _ => ?_) fun typed => ?_
  · unfold takeText
    rw [Course.run_modifyGet]
    cases ha : r.active with
    | none => exact ⟨(writing p W).refl r, fun typed h => by cases h; exact nofun⟩
    | some a =>
      dsimp only [Debouncer.take?]
      cases hw : a.inputs.find? selector with
      | none => exact ⟨(writing p W).refl r, fun typed h => by cases h; exact nofun⟩
      | some w =>
        refine ⟨leads_inputs ha (drop_subset _ _), fun typed h => ?_⟩
        cases h
        rintro text ⟨⟩
        exact hr (mem_held_of_find? ha hw)
  · cases typed with
    | none => exact .pure fun _ _ _ => trivial
    | some typed => exact fun r _ hW => ⟨recordText_writing r (hW typed rfl), fun _ _ => trivial⟩

lemma recordAllWaiting_stays (p : Page) : Stays (writing p W) (recordAllWaiting p) := by
  unfold recordAllWaiting
  refine .get fun r => ?_
  split
  · exact .forM (I := fun _ _ => True) (fun w _ => recordWaiting_stays w.key) _
  · exact .pure _

/-- The timer of a text goes off: the text is recorded, or the timer set again. -/
lemma wakeText_stays (selector : String) : Stays (writing p W) (wakeText p selector) := by
  unfold wakeText
  refine Course.Runs.bind (Q := fun typed _ => ∀ text ∈ typed, (selector, text) ∈ W) (fun r hr _ => ?_) fun typed => ?_
  · rw [Course.run_modifyGet]
    cases ha : r.active with
    | none => exact ⟨(writing p W).refl r, fun typed h => by cases h; exact nofun⟩
    | some a =>
      dsimp only [Debouncer.wake]
      cases hw : a.inputs.find? selector with
      | none => exact ⟨leads_inputs ha (List.Subset.refl _), fun typed h => by cases h; exact nofun⟩
      | some w =>
        dsimp only
        split
        · refine ⟨leads_inputs ha (drop_subset _ _), fun typed h => ?_⟩
          cases h
          rintro text ⟨⟩
          exact hr (mem_held_of_find? ha hw)
        · refine ⟨leads_inputs ha ?_, fun typed h => by cases h; exact nofun⟩
          intro text htext
          obtain ⟨v, hv, rfl⟩ := List.mem_map.1 htext
          obtain ⟨u, hu, rfl⟩ := List.mem_map.1 hv
          refine List.mem_map.2 ⟨u, hu, ?_⟩
          split <;> rfl
  · cases typed with
    | none => exact .pure fun _ _ _ => trivial
    | some typed => exact fun r _ hW => ⟨recordText_writing r (hW typed rfl), fun _ _ => trivial⟩

/-! ### What the user does -/

/-- A step of the time it is is recorded. -/
lemma recordNow_stays (l : Option Location) {kind : StepKind} {f : Step → Step} (hk : kind ≠ .fill)
    (hf : ∀ s, (f s).kind = s.kind) : Stays (writing p W) (stepNow kind >>= fun step => record l (f step)) := by
  refine .get fun r => .discard (Stays.of_leads fun r => addUserStep_writing r fun _ => .other ?_)
  cases l with
  | none => exact fun h => hk ((hf _).symm.trans h)
  | some l => exact fun h => hk ((hf _).symm.trans h)

lemma recordChoice_stays (p : Page) (l : Location) : Stays (writing p W) (recordChoice p l) := by
  unfold recordChoice
  refine .bind (recordAllWaiting_stays p) fun _ => Course.Runs.bind_get fun r => ?_
  dsimp only
  split
  · rename_i position last hn
    obtain ⟨hn, habout⟩ := Option.filter_eq_some_iff.1 hn
    have hkind : last.kind = .select := by
      simp only [isAbout, Bool.and_eq_true, beq_iff_eq] at habout
      exact habout.1
    refine .ite (fun _ => ?_) fun _ => .pure fun _ _ _ => trivial
    rintro s - ⟨rfl, -⟩
    refine ⟨?_, fun _ _ => trivial⟩
    cases ha : s.active with
    | none => simp [newest?, Recorder.steps, ha] at hn
    | some a =>
      obtain ⟨init, hsteps, rfl⟩ := newest?_eq_some ha hn
      have hlast : a.session.steps[init.length]? = some last := by simp [hsteps]
      obtain ⟨notices, hrun⟩ := change_run ha hlast fun step => { step with value := some l.value }
      have hset : a.session.steps.set init.length { last with value := some l.value } =
          init ++ [{ last with value := some l.value }] := by
        rw [hsteps, List.set_append_right _ _ le_rfl]
        simp
      rw [hrun, hset]
      refine ⟨by rw [held_eq rfl, held_eq ha]; exact List.Subset.refl _, ?_⟩
      rw [steps_of_active ha, steps_of_active rfl, hsteps]
      exact .single (.rechoose _ hkind)
  · exact .strengthen (fun _ _ _ => trivial) (recordNow_stays _ (by decide) fun _ => rfl)

lemma recordBox_stays (p : Page) (l : Location) : Stays (writing p W) (recordBox p l) := by
  refine .bind (recordAllWaiting_stays p) fun _ => recordNow_stays (some l) ?_ fun _ => rfl
  split <;> decide

lemma recordRadio_stays (p : Page) (l : Location) : Stays (writing p W) (recordRadio p l) :=
  .bind (recordAllWaiting_stays p) fun _ => recordNow_stays (some l) (by decide) fun _ => rfl

/-- An event whose element takes no text. -/
lemma onInput_stays (p : Page) (event : Page.Event) (ht : event.type = "input") :
    (writing p W).Runs (fun s => heardText? s p event = none) (onInput p event) fun _ _ => True := by
  unfold onInput
  refine .bind_still (fun s => by rw [accepted?_run]) fun r l? hl => ?_
  cases l? with
  | none => exact .pure fun _ _ _ => trivial
  | some l =>
    dsimp only
    split
    · exact (recordChoice_stays p l).strengthen fun _ _ _ => trivial
    · exact (recordBox_stays p l).strengthen fun _ _ _ => trivial
    · exact (recordRadio_stays p l).strengthen fun _ _ _ => trivial
    · -- the event would have given a text
      rename_i hkind
      rintro s - ⟨rfl, hnone⟩
      obtain ⟨hrec, hloc, hown⟩ := accepted?_eq_some.1 hl
      rw [heardText?_eq_some.2 ⟨hrec, ht, l, hloc, takesText_iff.2 ⟨hown, hkind⟩, rfl, rfl⟩] at hnone
      cases hnone
    · exact .pure fun _ _ _ => trivial

lemma onChange_stays (p : Page) (event : Page.Event) : Stays (writing p W) (onChange p event) := by
  unfold onChange
  refine .bind (.of_still fun s => by rw [accepted?_run]) fun l? => ?_
  cases l? with
  | none => exact .pure _
  | some l => exact .ite (recordChoice_stays p l) (.pure _)

/-! ### Forms -/

/-- All texts have been recorded. -/
def AllFilled (W : List (String × Typed)) (r : Recorder) : Prop :=
  ∀ selector typed, (selector, typed) ∈ W → ∃ step ∈ r.steps, isAbout .fill selector step = true

/-- Of the texts some wait, and the others have been recorded. -/
def FilledBut (W : List (String × Typed)) (ws : List (Waiting String Typed)) (r : Recorder) : Prop :=
  (∃ a, r.active = some a ∧ a.inputs.waiting = ws) ∧ ∀ selector typed, (selector, typed) ∈ W →
    (∃ w ∈ ws, w.key = selector) ∨ ∃ step ∈ r.steps, isAbout .fill selector step = true

/-- The text that has waited longest is recorded. -/
lemma recordWaiting_fills (p : Page) (w : Waiting String Typed) (rest : List (Waiting String Typed)) :
    (course {}).Runs (FilledBut W (w :: rest)) (recordWaiting p w.key) fun _ => FilledBut W rest := by
  rintro r hl ⟨⟨a, ha, hw⟩, hfilled⟩
  have hruns := recordWaiting_runs (C := course {}) p w rest r hl ⟨a, ha, hw⟩
  refine ⟨hruns.1, fun u hu => ⟨hruns.2 u hu, fun selector typed hmem => ?_⟩⟩
  obtain ⟨-, steps, notices, htakes, hrun⟩ := recordWaiting_run p hl ha hw
  rw [hrun, steps_of_active rfl]
  rcases hfilled selector typed hmem with ⟨v, hv, rfl⟩ | ⟨step, hstep, habout⟩
  · rcases List.mem_cons.1 hv with rfl | hv
    · exact .inr (htakes.exists_fill (.inl rfl))
    · exact .inl ⟨v, hv, rfl⟩
  · rw [steps_of_active ha] at hstep
    exact .inr (htakes.exists_fill (.inr ⟨step, hstep, habout⟩))

/-- **When all texts that waited have been recorded**, there is a step for the field of each. -/
lemma recordAllWaiting_fills (p : Page) : (writing p W).Runs (fun r => r.Linked ∧ r.held = W) (recordAllWaiting p)
    fun _ => AllFilled W := by
  have hfills : (course {}).Runs (fun r => r.held = W) (recordAllWaiting p) fun _ => AllFilled W := by
    unfold recordAllWaiting
    refine .bind_get fun r => ?_
    split
    · rename_i a ha
      refine (Course.Runs.forM (recordWaiting_fills (W := W) p) a.inputs.waiting).mono ?_ fun _ s h selector typed hmem => ?_
      · rintro s - ⟨rfl, rfl⟩
        refine ⟨⟨a, ha, rfl⟩, fun selector typed hmem => .inl ?_⟩
        rw [held_eq ha] at hmem
        obtain ⟨w, hw, heq⟩ := List.mem_map.1 hmem
        exact ⟨w, hw, congrArg Prod.fst heq⟩
      · exact (h.2 selector typed hmem).resolve_left (by simp)
    · rename_i ha
      refine .pure ?_
      rintro s - ⟨rfl, rfl⟩ selector typed hmem
      simp [held, texts, ha] at hmem
  exact fun r hr h => ⟨(recordAllWaiting_stays p).leads hr trivial, (hfills r h.1 h.2).2⟩

lemma recordFields_stays (known : List String) (fields : List Location) (hfields : ∀ l ∈ fields, InForm p l)
    (hknown : ∀ selector typed, selector ≠ "" → (selector, typed) ∈ W → selector ∈ known) :
    Stays (writing p W) (recordFields known fields) := by
  induction fields generalizing known with
  | nil => exact .pure _
  | cons l rest ih =>
    obtain ⟨hl, hrest⟩ := List.forall_mem_cons.1 hfields
    unfold recordFields
    dsimp only
    refine Course.Runs.bind_still (fun s => by rw [leavesAlone_run]) fun r own _ => .strengthen (fun _ _ _ => trivial) ?_
    refine Course.Runs.ite (fun _ => ih known hrest hknown) fun hskip => Stays.get fun r => ?_
    split
    · rename_i step hstep
      -- the field is not among those known, of which are all for which a text has waited
      have hfree : ∀ typed, (Locator.quick l, typed) ∉ W := fun typed hmem =>
        hskip (by simp [hknown _ _ (Locator.quick_ne_empty l) hmem])
      refine .bind (.of_leads fun s => addUserStep_writing s fun _ => .capture hl hfree hstep) fun added =>
        ih _ hrest fun selector typed hne hmem => ?_
      split
      · exact List.mem_cons_of_mem _ (hknown selector typed hne hmem)
      · exact hknown selector typed hne hmem
    · exact ih known hrest hknown

lemma recordForm_stays {form : Location} (h : ∀ l ∈ formFields form, InForm p l) :
    (writing p W).Runs (AllFilled W) (recordForm form) fun _ _ => True := by
  refine .bind_get fun r => ?_
  rintro s hs ⟨rfl, hfilled⟩
  refine recordFields_stays _ _ h (fun selector typed hne hmem => ?_) s hs trivial
  obtain ⟨step, hstep, habout⟩ := hfilled selector typed hmem
  obtain ⟨hkind, hselector⟩ := isAbout_iff.1 habout
  refine List.mem_filterMap.2 ⟨step, hstep, ?_⟩
  simp [hkind, StepKind.givesValue, hselector, nonempty?, hne]

lemma onClick_writes (p : Page) (event : Page.Event) :
    (writing p W).Runs (fun r => r.Linked ∧ r.held = W) (onClick p event) fun _ _ => True := by
  unfold onClick
  refine .bind_still (fun s => by rw [accepted?_run]) fun r l? hl => .strengthen (fun _ _ h => h.2) ?_
  cases l? with
  | none => exact .pure fun _ _ _ => trivial
  | some l =>
    obtain ⟨id, -, hid⟩ := Option.bind_eq_some_iff.1 (accepted?_eq_some.1 hl).2.1
    dsimp only
    refine .ite (fun _ => .pure fun _ _ _ => trivial) fun _ => .bind (recordAllWaiting_fills p) fun _ => .ite (fun _ => ?_)
      fun _ => .strengthen (fun _ _ _ => trivial) (recordNow_stays _ (by decide) fun _ => rfl)
    have hlast : Stays (writing p W) (stepNow .submit >>= fun step =>
        record (some l) { step with label := nonempty? (some (Text.strip l.textContent)) }) :=
      recordNow_stays _ (by decide) fun _ => rfl
    split
    · rename_i form hform
      exact .bind (recordForm_stays fun k hk => ⟨id, l, form, hid, .inr hform, hk⟩) fun _ => hlast
    · exact hlast.strengthen fun _ _ _ => trivial

lemma onSubmit_writes (p : Page) (event : Page.Event) :
    (writing p W).Runs (fun r => r.Linked ∧ r.held = W) (onSubmit p event) fun _ _ => True := by
  unfold onSubmit
  refine .bind_still (fun s => by rw [accepted?_run]) fun r l? hl => .strengthen (fun _ _ h => h.2) ?_
  cases l? with
  | none => exact .pure fun _ _ _ => trivial
  | some form =>
    obtain ⟨id, -, hid⟩ := Option.bind_eq_some_iff.1 (accepted?_eq_some.1 hl).2.1
    refine .bind (recordAllWaiting_fills p) fun _ => .bind_get fun r => .ite (fun _ => .pure fun _ _ _ => trivial)
      fun _ => .strengthen (fun _ _ h => h.2) ?_
    refine .bind (recordForm_stays fun k hk => ⟨id, form, form, hid, .inl rfl, hk⟩) fun _ => ?_
    exact recordNow_stays (some form) (by decide) fun _ => rfl

/-! ### All events -/

lemma onKeyDown_stays (p : Page) (event : Page.Event) : Stays (writing p W) (onKeyDown p event) := by
  have hlast : ∀ l : Option Location, Stays (writing p W) (recordAllWaiting p >>= fun _ =>
      stepNow .pressKey >>= fun step => record l { step with key := event.key }) := fun l =>
    .bind (recordAllWaiting_stays p) fun _ => recordNow_stays l (by decide) fun _ => rfl
  unfold onKeyDown
  refine .get fun r => .ite (.pure _) ?_
  dsimp only
  split
  · exact .bind (.of_still fun s => by rw [leavesAlone_run]) fun own => .ite (.pure _) (hlast _)
  · exact hlast _

lemma recordPage_stays (p : Page) {kind : StepKind} {f : Step → Step} (hk : kind ≠ .fill)
    (hf : ∀ s, (f s).kind = s.kind) : Stays (writing p W) (recordPage p kind f) :=
  .get fun _ => .ite (.pure _) (.bind (recordAllWaiting_stays p) fun _ => recordNow_stays none hk fun _ => hf _)

/-- **Every event is recorded so**, unless it gives a text. -/
theorem hear_writes (p : Page) (event : Page.Event) : (writing p W).Runs
    (fun s => heardText? s p event = none ∧ s.Linked ∧ s.held = W) (hear p event) fun _ _ => True := by
  have loosen : ∀ {act : Act Unit}, Stays (writing p W) act → (writing p W).Runs
      (fun s => heardText? s p event = none ∧ s.Linked ∧ s.held = W) act fun _ _ => True :=
    fun h => h.strengthen fun _ _ _ => trivial
  unfold hear
  split
  · exact (onInput_stays p event ‹_›).strengthen fun _ _ h => h.1
  · exact loosen (onChange_stays p event)
  · exact (onClick_writes p event).strengthen fun _ _ h => h.2
  · exact (onSubmit_writes p event).strengthen fun _ _ h => h.2
  · exact loosen (onKeyDown_stays p event)
  · exact loosen (recordPage_stays p (by decide) fun _ => rfl)
  · exact loosen (recordPage_stays p (by decide) fun _ => rfl)
  · exact loosen (recordPage_stays p (by decide) fun _ => rfl)
  · exact loosen (.pure _)

/-! ### Time -/

lemma goOff_stays (p : Page) (alarm : Alarm) : Stays (writing p W) (goOff p alarm) := by
  cases alarm with
  | input selector => exact wakeText_stays selector
  | mutations => exact wakeMutations_stays p
  | idle => exact wakeIdle_stays

lemma setClock_stays (f : Recorder → Clock Alarm) :
    Stays (writing p W) (modify fun r : Recorder => { r with clock := f r }) :=
  .modify fun r => (SameRecord.refl r).clock _

lemma runDue_stays (p : Page) (target : Rat) (n : Nat) : Stays (writing p W) (runDue p target n) := by
  induction n with
  | zero => exact .pure _
  | succ n ih =>
    refine .get fun r => ?_
    split
    · exact .pure _
    · exact .bind (setClock_stays _) fun _ => .bind (goOff_stays p _) fun _ => ih

lemma advanceTo_stays (p : Page) (target : Rat) : Stays (writing p W) (advanceTo p target) :=
  .get fun _ => .bind (runDue_stays p target _) fun _ => setClock_stays _

lemma runTimers_stays (p : Page) (n : Nat) : Stays (writing p W) (runTimers p n) := by
  induction n with
  | zero => exact .pure _
  | succ n ih =>
    refine .get fun r => ?_
    dsimp only
    split
    · exact .pure _
    · exact .bind (advanceTo_stays p _) fun _ => ih

/-- **While time passes** texts are recorded so. -/
theorem advance_writes (p : Page) (ms : Rat) : Stays (writing p W) (advance p ms) := .get fun _ => advanceTo_stays p _

theorem runAll_writes (p : Page) : Stays (writing p W) (runAll p) := .get fun _ => runTimers_stays p _

/-! ### Breaks and ends -/

theorem pause_writes (p : Page) : Stays (writing p W) (pause p) :=
  .get fun _ => .ite (.bind (recordAllWaiting_stays p) fun _ =>
    .bind (.modify fun r => .changeActive r (fun _ => rfl) fun _ => rfl) fun _ => .get fun _ => .pure _) (.pure _)

/-- **Before a session ends** what waits is recorded so. -/
theorem settle_writes (p : Page) : Stays (writing p W) (recordAllWaiting p >>= fun _ => noteUnsettled) :=
  .bind (recordAllWaiting_stays p) fun _ => noteUnsettled_stays

end PageTape.Recorder
