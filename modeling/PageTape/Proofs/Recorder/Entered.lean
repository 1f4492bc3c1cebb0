import PageTape.Proofs.Recorder.Faults
import PageTape.Proofs.Recorder.Written

/-!
# What is recorded of a control that has been given a value

* `Enters l r r'` — no option is chosen and no text filled in but those that were before, those that waited, and the
  value that the control `l` has;
* `hear_enters` — so it is when the recorder hears `input` or `change` of that control;
* `hear_chooses`, `hear_keeps` — and the value is recorded, of a select at once, while a text waits until then
  (`recordWaiting_kept`).
-/

namespace PageTape.Recorder

open Dom (Location)

variable {l : Location} {p : Page} {r r' s : Recorder} {step : Step}

/-- The step tells of a control that it has the value that it has. -/
def TellsOf (l : Location) (step : Step) : Prop :=
  step.selector = some (Locator.quick l) ∧ step.value = some l.value

/-- **Nothing is recorded of values** but those that have been or wait to be recorded, and the value of a control. -/
structure Enters (l : Location) (r r' : Recorder) : Prop where
  isRecording : r'.isRecording = r.isRecording
  chosen : ∀ (i : Nat) step, r'.steps[i]? = some step → step.kind = .select → r.steps[i]? = some step ∨ TellsOf l step
  filled : ∀ (i : Nat) step, r'.steps[i]? = some step → step.kind = .fill → r.steps[i]? = some step ∨ TellsOf l step ∨
    ∃ kept ∈ r.held, step.selector = some kept.1 ∧ step.value = some kept.2.value
  kept : ∀ kept ∈ r'.held, kept ∈ r.held ∨ (kept.1 = Locator.quick l ∧ kept.2.value = l.value)

namespace Enters

lemma refl (l : Location) (r : Recorder) : Enters l r r :=
  ⟨rfl, fun _ _ h _ => .inl h, fun _ _ h _ => .inl h, fun _ h => .inl h⟩

lemma trans (h : Enters l r s) (h' : Enters l s r') : Enters l r r' where
  isRecording := h'.isRecording.trans h.isRecording
  chosen i step hstep hk := (h'.chosen i step hstep hk).elim (h.chosen i step · hk) .inr
  filled i step hstep hk := by
    rcases h'.filled i step hstep hk with hold | htells | ⟨kept, hkept, hselector, hvalue⟩
    · exact h.filled i step hold hk
    · exact .inr (.inl htells)
    · rcases h.kept kept hkept with hkept | ⟨hkey, htext⟩
      · exact .inr (.inr ⟨kept, hkept, hselector, hvalue⟩)
      · exact .inr (.inl ⟨hkey ▸ hselector, htext ▸ hvalue⟩)
  kept kept hkept := (h'.kept kept hkept).elim (h.kept kept) .inr

/-- Neither the steps change nor do more texts wait. -/
lemma of_steps (hrec : r'.isRecording = r.isRecording) (hsteps : r'.steps = r.steps) (hheld : r'.held ⊆ r.held) :
    Enters l r r' where
  isRecording := hrec
  chosen _ _ h _ := .inl (hsteps ▸ h)
  filled _ _ h _ := .inl (hsteps ▸ h)
  kept _ h := .inl (hheld h)

/-- The newest step is new, or in the place of another one. -/
lemma of_concat (init : List Step) (step : Step) (hrec : r'.isRecording = r.isRecording) (hinit : init <+: r.steps)
    (hsteps : r'.steps = init ++ [step]) (hheld : r'.held ⊆ r.held) (hchosen : step.kind = .select → TellsOf l step)
    (hfilled : step.kind = .fill → ∃ kept ∈ r.held, step.selector = some kept.1 ∧ step.value = some kept.2.value) :
    Enters l r r' := by
  have hcases : ∀ (i : Nat) s, r'.steps[i]? = some s → r.steps[i]? = some s ∨ s = step := by
    intro i s hs
    rw [hsteps] at hs
    rcases getElem?_concat hs with hs | ⟨-, rfl⟩
    · obtain ⟨rest, hrest⟩ := hinit
      rw [← hrest, List.getElem?_append_left (List.getElem?_eq_some_iff.1 hs).1]
      exact .inl hs
    · exact .inr rfl
  refine ⟨hrec, fun i s hs hk => ?_, fun i s hs hk => ?_, fun kept h => .inl (hheld h)⟩
  · obtain hold | rfl := hcases i s hs
    · exact .inl hold
    · exact .inr (hchosen hk)
  · obtain hold | rfl := hcases i s hs
    · exact .inl hold
    · exact .inr (.inr (hfilled hk))

end Enters

/-- The course of a recorder that is told of the value of a control. -/
def entering (l : Location) : Course Recorder where
  holds _ := True
  leads := Enters l
  refl := .refl l
  trans := .trans
  keeps _ h := h

/-! ### Texts that waited -/

/-- A text is taken out, and recorded if the recorder is recording. -/
lemma recordText_enters (p : Page) {selector : String} {typed : Typed} (hheld : (selector, typed) ∈ r.held)
    (hrec : s.isRecording = r.isRecording) (hsteps : s.steps = r.steps) (hkept : s.held ⊆ r.held) :
    Enters l r ((recordText p selector typed).run s).2 := by
  cases h : s.isRecording with
  | false =>
    have hsame : ((recordText p selector typed).run s).2 = s := by
      unfold recordText
      rw [Course.run_bind, Course.run_get]
      simp only [h, Bool.not_false, if_true]
      rfl
    rw [hsame]
    exact .of_steps hrec hsteps hkept
  | true =>
    obtain ⟨a, ha, hr⟩ := isRecording_iff.1 h
    obtain ⟨steps, notices, htakes, hrun⟩ := recordText_takes p ha hr selector typed
    rw [hrun]
    have hrec' : Recorder.isRecording { s with
        active := some (a.withSteps steps), lastUserActionAt := stampOf typed.since, notices } = r.isRecording :=
      (isRecording_iff.2 ⟨a.withSteps steps, rfl, hr⟩).trans (h.symm.trans hrec)
    have hheld' : Recorder.held { s with
        active := some (a.withSteps steps), lastUserActionAt := stampOf typed.since, notices } ⊆ r.held := by
      rw [held_eq rfl]
      rwa [held_eq ha] at hkept
    have hbefore : a.session.steps = r.steps := (steps_of_active ha).symm.trans hsteps
    rw [hbefore] at htakes
    generalize hr' : r.steps = before at htakes
    cases htakes with
    | update init last habout =>
      simp only [isAbout, Bool.and_eq_true, beq_iff_eq] at habout
      exact .of_concat init { last with value := some typed.value, timestamp := stampOf typed.since } hrec'
        (hr' ▸ List.prefix_append init [last]) rfl hheld'
        (fun hk => absurd (habout.1.symm.trans hk) (by decide)) fun _ => ⟨_, hheld, habout.2, rfl⟩
    | append _ hnew =>
      have hfills := fills_fillStep p ⟨selector, typed.since, 0, typed⟩
      exact .of_concat before (fillStep p selector typed) hrec' (hr' ▸ List.prefix_rfl) rfl hheld'
        (fun hk => absurd (hfills.1.symm.trans hk) (by decide)) fun _ => ⟨_, hheld, hfills.2.1, hfills.2.2.1⟩

lemma recordWaiting_enters (p : Page) (selector : String) : Stays (entering l) (recordWaiting p selector) :=
  .of_leads fun r => by
    unfold recordWaiting takeText
    rw [Course.run_bind, Course.run_modifyGet]
    cases ha : r.active with
    | none => exact Enters.refl l r
    | some a =>
      dsimp only [Debouncer.take?]
      cases hw : a.inputs.find? selector with
      | none => exact Enters.refl l r
      | some w =>
        refine recordText_enters p (mem_held_of_find? ha hw) ?_ ?_ ?_
        · simp [Recorder.isRecording, ha]
        · simp [Recorder.steps, ha]
        · rw [held_eq ha, held_eq rfl]
          exact drop_subset a.inputs selector

lemma recordAllWaiting_enters (p : Page) : Stays (entering l) (recordAllWaiting p) := by
  unfold recordAllWaiting
  refine .get fun r => ?_
  split
  · exact Course.Runs.forM (I := fun _ _ => True) (fun w _ => recordWaiting_enters p w.key) _
  · exact .pure _

/-! ### Controls -/

/-- The newest step chooses what a select has chosen. -/
def HasChosen (l : Location) (r : Recorder) : Prop :=
  ∃ step, r.steps.getLast? = some step ∧ step.kind = .select ∧ TellsOf l step

/-- The text of a field waits to be recorded. -/
def HasKept (l : Location) (r : Recorder) : Prop := ∃ typed, (Locator.quick l, typed) ∈ r.held ∧ typed.value = l.value

/-- A step of a user is added to a recording. -/
lemma addUserStep_enters (h : r.isRecording = true) (hk : step.kind ≠ .fill)
    (hchosen : step.kind = .select → TellsOf l step) :
    Enters l r ((addUserStep step).run r).2 ∧ ((addUserStep step).run r).2.steps = r.steps ++ [step] := by
  obtain ⟨a, ha, hr⟩ := isRecording_iff.1 h
  obtain ⟨notices, hrun, -⟩ := addUserStep_run ha hr step
  have hsteps : Recorder.steps { r with
      active := some (a.withSteps (a.session.steps ++ [step])), lastUserActionAt := step.timestamp, notices } =
        r.steps ++ [step] := by
    rw [steps_of_active ha]
    rfl
  rw [hrun]
  refine ⟨.of_concat r.steps step
    ((isRecording_iff.2 ⟨a.withSteps (a.session.steps ++ [step]), rfl, hr⟩).trans h.symm)
    List.prefix_rfl hsteps ?_ hchosen fun hfill => absurd hfill hk, hsteps⟩
  rw [held_eq ha, held_eq rfl]
  exact List.Subset.refl _

/-- A step of the time it is is recorded of a control. -/
lemma recordNow_enters (kind : StepKind) (f : Step → Step) (hk : kind ≠ .fill) (hf : ∀ s, (f s).kind = s.kind)
    (hchosen : kind = .select → ∀ s, TellsOf l (f s)) :
    (entering l).Runs (fun r => r.isRecording = true) (stepNow kind >>= fun step => record (some l) (f step))
      fun _ r => kind = .select → HasChosen l r := by
  refine .bind_still (fun _ => rfl) fun r step hstep => Course.Runs.discard ?_
  rw [stepNow_run] at hstep
  obtain rfl := Except.ok.inj hstep
  rintro s - ⟨rfl, hrec⟩
  set step := describe l (f { kind, timestamp := s.now }) with hdef
  have hkind : step.kind = kind := (hf _)
  have htells : kind = .select → TellsOf l step := fun hselect => by
    obtain ⟨hselector, hvalue⟩ := hchosen hselect { kind, timestamp := s.now }
    exact ⟨by simp [hdef, describe, hselector], hvalue⟩
  obtain ⟨henters, hsteps⟩ := addUserStep_enters hrec (hkind ▸ hk) fun h => htells (hkind.symm.trans h)
  exact ⟨henters, fun _ _ hselect => ⟨step, by rw [hsteps]; simp, hkind.trans hselect, htells hselect⟩⟩

/-- **The value of a select is recorded**, by a new step or by the newest one. -/
lemma recordChoice_enters (p : Page) (l : Location) :
    (entering l).Runs (fun r => r.isRecording = true) (recordChoice p l) fun _ => HasChosen l := by
  unfold recordChoice
  refine Course.Runs.bind (Q := fun _ r => r.isRecording = true) (fun r hr hrec => ?_) fun _ =>
    Course.Runs.bind_get fun r => ?_
  · have henters := (recordAllWaiting_enters p).leads hr trivial
    exact ⟨henters, fun _ _ => henters.isRecording.trans hrec⟩
  dsimp only
  split
  · -- the newest step has chosen in the same select
    rename_i position last hn
    obtain ⟨hn, habout⟩ := Option.filter_eq_some_iff.1 hn
    simp only [isAbout, Bool.and_eq_true, beq_iff_eq] at habout
    rintro s - ⟨rfl, hrec⟩
    obtain ⟨a, ha, hr⟩ := isRecording_iff.1 hrec
    obtain ⟨init, hsteps, rfl⟩ := newest?_eq_some ha hn
    have hbefore : s.steps = init ++ [last] := (steps_of_active ha).trans hsteps
    split
    · set chosen : Step := { last with value := some l.value } with hchosen
      have hlast : a.session.steps[init.length]? = some last := by simp [hsteps]
      obtain ⟨notices, hrun⟩ := change_run ha hlast fun step => { step with value := some l.value }
      have hset : a.session.steps.set init.length chosen = init ++ [chosen] := by
        rw [hsteps, List.set_append_right _ _ le_rfl]
        simp
      rw [← hchosen, hset] at hrun
      rw [hrun]
      refine ⟨Enters.of_concat init chosen ((isRecording_iff.2 ⟨a.withSteps (init ++ [chosen]), rfl, hr⟩).trans hrec.symm)
        (hbefore ▸ List.prefix_append init [last]) rfl ?_ (fun _ => ⟨habout.2, rfl⟩)
        fun hfill => absurd (habout.1.symm.trans hfill) (by decide), fun _ _ => ⟨chosen, ?_, habout.1, habout.2, rfl⟩⟩
      · rw [held_eq ha, held_eq rfl]
        exact List.Subset.refl _
      · rw [steps_of_active rfl]
        simp [Active.withSteps]
    · rename_i hsame
      exact ⟨Enters.refl l s, fun _ _ => ⟨last, by simp [hbefore], habout.1, habout.2, by simpa using hsame⟩⟩
  · refine (recordNow_enters .select (fun step => { step with
      selector := some (Locator.quick l), value := some l.value, required := some l.tag.isRequired }) (by decide)
      (fun _ => rfl) fun _ _ => ⟨rfl, rfl⟩).mono ?_ fun _ _ h => h rfl
    rintro s - ⟨rfl, hrec⟩
    exact hrec

/-- **A text that waits gives its field the value** when it is recorded. -/
lemma recordWaiting_kept (hl : r.Linked) (h : HasKept l r) (p : Page) : ∃ step,
    ((recordWaiting p (Locator.quick l)).run r).2.steps.getLast? = some step ∧ step.kind = .fill ∧ TellsOf l step := by
  obtain ⟨typed, hheld, hvalue⟩ := h
  obtain ⟨w, hw, heq⟩ := List.mem_map.1 hheld
  obtain ⟨hkey, rfl⟩ := Prod.mk.inj heq
  obtain ⟨a, ha⟩ : ∃ a, r.active = some a := by
    cases ha : r.active with
    | none => simp [texts, ha] at hw
    | some a => exact ⟨a, rfl⟩
  rw [texts_eq ha] at hw
  have hactive := hl.active a ha
  have hrec : a.session.status = .recording := hactive.status.resolve_right fun hp => by
    rw [hactive.quiet hp] at hw
    cases hw
  obtain ⟨steps, notices, htakes, hrun⟩ := recordText_run p
    (r := { r with clock := r.clock.cancel w.timer, active := some { a with inputs := a.inputs.drop w.key } }) rfl hrec w
  obtain ⟨init, last, rfl, -, hfills⟩ := htakes.eq_append
  rw [← hkey]
  unfold recordWaiting
  rw [Course.run_bind, takeText_run ha (hactive.inputs.find?_eq hw)]
  dsimp only
  rw [hrun]
  refine ⟨last, ?_, hfills.1, hkey ▸ hfills.2.1, hfills.2.2.1.trans (congrArg some hvalue)⟩
  rw [steps_of_active rfl]
  simp [Active.withSteps]

/-- A text that waits from now on stands behind the others. -/
lemma held_keepText {a : Active} (ha : r.active = some a) (selector : String) (typed : Typed) :
    (keepText r selector typed).held =
      ((a.inputs.drop selector).waiting.map fun w => (w.key, w.payload)) ++ [(selector, typed)] := by
  rw [keepText_eq ha, held_eq rfl]
  dsimp only
  rw [Debouncer.waiting_schedule, List.map_append]
  rfl

/-- The text of a field waits from now on. -/
lemma awaitText_enters (l : Location) :
    (entering l).Runs (fun r => r.isRecording = true) (awaitText l) fun _ _ => True := by
  intro r _ hrec
  obtain ⟨a, ha, hr⟩ := isRecording_iff.1 hrec
  set typed : Typed := ⟨l.tag.id, l.value, r.clock.now⟩ with htyped
  have hheld := held_keepText ha (Locator.quick l) typed
  have hsteps : (keepText r (Locator.quick l) typed).steps = r.steps := by
    rw [keepText_eq ha, steps_of_active ha, steps_of_active rfl]
  have hrec' : (keepText r (Locator.quick l) typed).isRecording = r.isRecording := by
    rw [keepText_eq ha]
    simp [Recorder.isRecording, ha]
  rw [awaitText_run, ← htyped]
  refine ⟨⟨hrec', fun _ _ h _ => .inl (hsteps ▸ h), fun _ _ h _ => .inl (hsteps ▸ h), fun kept hkept => ?_⟩,
    fun _ _ => trivial⟩
  rw [hheld] at hkept
  rcases List.mem_append.1 hkept with hkept | hkept
  · rw [held_eq ha]
    exact .inl (drop_subset a.inputs _ hkept)
  · obtain rfl := List.mem_singleton.1 hkept
    exact .inr ⟨rfl, rfl⟩

/-! ### Events -/

section Events

variable {event : Page.Event} (htarget : event.target.element?.bind p.forest.locate? = some l)
include htarget

/-- What is done with an event of a control, if the recorder is at work and does not leave the control alone. -/
lemma accepted?_enters {f : Option Location → Act Unit} {Q : Recorder → Prop} (hnone : f none = pure ⟨⟩)
    (hsome : (entering l).Runs (fun r => r.isRecording = true) (f (some l)) fun _ => Q) (r : Recorder) :
    Enters l r ((accepted? p event >>= f).run r).2 ∧ (r.isRecording = true → isOwn r.config l = .ok false →
      ((accepted? p event >>= f).run r).1 = .ok ⟨⟩ → Q ((accepted? p event >>= f).run r).2) := by
  have hstill : ((accepted? p event).run r).2 = r := by rw [accepted?_run]
  rw [Course.run_bind]
  rcases hrun : (accepted? p event).run r with ⟨fault | l?, t⟩ <;> rw [hrun] at hstill <;> dsimp only at hstill ⊢ <;>
    subst hstill
  · exact ⟨.refl l t, fun _ _ hok => nomatch hok⟩
  · have hl? : ((accepted? p event).run t).1 = .ok l? := congrArg Prod.fst hrun
    cases l? with
    | none =>
      rw [hnone]
      refine ⟨.refl l t, fun hrec hown => ?_⟩
      rw [accepted?_eq_some.2 ⟨hrec, htarget, hown⟩] at hl?
      cases hl?
    | some m =>
      obtain ⟨hrec, hm, -⟩ := accepted?_eq_some.1 hl?
      obtain rfl : l = m := Option.some.inj (htarget.symm.trans hm)
      obtain ⟨henters, hQ⟩ := hsome t trivial hrec
      exact ⟨henters, fun _ _ => hQ ⟨⟩⟩

/-- What is recorded when the value of a control has changed: the choice in a select, while a text waits. -/
lemma onInput_enters (r : Recorder) : Enters l r ((onInput p event).run r).2 ∧ (r.isRecording = true →
    isOwn r.config l = .ok false → ((onInput p event).run r).1 = .ok ⟨⟩ →
      l.tag.lowerName = "select" → HasChosen l ((onInput p event).run r).2) := by
  refine accepted?_enters (Q := fun r => l.tag.lowerName = "select" → HasChosen l r) htarget rfl ?_ r
  have hcheck : ∀ (kind : StepKind) (f : Step → Step), kind ≠ .fill → kind ≠ .select → (∀ s, (f s).kind = s.kind) →
      (entering l).Runs (fun r => r.isRecording = true) (recordAllWaiting p >>= fun _ => stepNow kind >>= fun step =>
        record (some l) (f step)) fun _ _ => True := by
    intro kind f hfill hselect hf
    refine Course.Runs.bind (Q := fun _ r => r.isRecording = true) (fun r hr hrec => ?_) fun _ =>
      (recordNow_enters kind f hfill hf fun h => absurd h hselect).weaken fun _ _ _ => trivial
    have henters := (recordAllWaiting_enters p).leads hr trivial
    exact ⟨henters, fun _ _ => henters.isRecording.trans hrec⟩
  have hother : ∀ kind?, controlKind? l.tag = kind? → kind? ≠ some .choice → l.tag.lowerName ≠ "select" := by
    rintro _ rfl hne hs
    exact hne (by simp [controlKind?, hs])
  dsimp only
  split
  · exact (recordChoice_enters p l).weaken fun _ _ h _ => h
  · rename_i hkind
    refine (hcheck (if l.tag.isChecked then .check else .uncheck)
      (fun step => { step with required := some l.tag.isRequired }) ?_ ?_ fun _ => rfl).weaken
      fun _ _ _ hs => absurd hs (hother _ hkind nofun) <;> split <;> decide
  · rename_i hkind
    exact (hcheck .check (fun step => { step with value := some l.value, required := some l.tag.isRequired })
      (by decide) (by decide) fun _ => rfl).weaken fun _ _ _ hs => absurd hs (hother _ hkind nofun)
  · rename_i hkind
    exact (awaitText_enters l).weaken fun _ _ _ hs => absurd hs (hother _ hkind nofun)
  · rename_i hkind
    exact .pure fun _ _ _ hs => absurd hs (hother _ hkind nofun)

/-- What is recorded when it has changed for good: the choice in a select. -/
lemma onChange_enters (r : Recorder) : Enters l r ((onChange p event).run r).2 ∧ (r.isRecording = true →
    isOwn r.config l = .ok false → ((onChange p event).run r).1 = .ok ⟨⟩ →
      l.tag.lowerName = "select" → HasChosen l ((onChange p event).run r).2) := by
  refine accepted?_enters (Q := fun r => l.tag.lowerName = "select" → HasChosen l r) htarget rfl ?_ r
  refine .ite (fun _ => (recordChoice_enters p l).weaken fun _ _ h _ => h) fun hs => .pure fun _ _ _ h => ?_
  exact absurd (beq_iff_eq.2 h) hs

/-- **Nothing but the value that a control has is recorded of it** when it has changed. -/
theorem hear_enters (htype : event.type = "input" ∨ event.type = "change") (r : Recorder) :
    Enters l r ((hear p event).run r).2 := by
  unfold hear
  rcases htype with htype | htype <;> rw [htype]
  · exact (onInput_enters htarget r).1
  · exact (onChange_enters htarget r).1

/-- **The choice in a select is recorded** when it has changed, if no callback fails. -/
theorem hear_chooses (htype : event.type = "input" ∨ event.type = "change") (hs : l.tag.lowerName = "select")
    (hr : r.Reliable) (hrec : r.isRecording = true) (hown : isOwn r.config l = .ok false) :
    HasChosen l ((hear p event).run r).2 := by
  have hok : ((hear p event).run r).1 = .ok ⟨⟩ := by
    cases hresult : ((hear p event).run r).1 with
    | ok u => rfl
    | error fault => exact ((hear_faultless p event r hr).2 fault hresult).elim
  unfold hear at hok ⊢
  rcases htype with htype | htype <;> rw [htype] at hok ⊢
  · exact (onInput_enters htarget r).2 hrec hown hok hs
  · exact (onChange_enters htarget r).2 hrec hown hok hs

/-- **The text of a field waits** when it has changed. -/
theorem hear_keeps (htype : event.type = "input") (hkind : controlKind? l.tag = some .text)
    (hrec : r.isRecording = true) (hown : isOwn r.config l = .ok false) : HasKept l ((hear p event).run r).2 := by
  have htext := heardText?_eq_some.2 ⟨hrec, htype, l, htarget, takesText_iff.2 ⟨hown, hkind⟩, rfl, rfl⟩
  obtain ⟨a, ha, -⟩ := isRecording_iff.1 hrec
  rw [hear_text htext]
  exact ⟨⟨l.tag.id, l.value, r.clock.now⟩, by rw [held_keepText ha]; simp, rfl⟩

/-- Of a text nothing more is recorded when it has changed for good. -/
lemma hear_change (htype : event.type = "change") (hs : l.tag.lowerName ≠ "select") (r : Recorder) :
    ((hear p event).run r).2 = r := by
  have hchange : hear p event = onChange p event := by simp [hear, htype]
  rw [hchange]
  unfold onChange
  rw [Course.run_bind]
  have hstill : ((accepted? p event).run r).2 = r := by rw [accepted?_run]
  rcases hrun : (accepted? p event).run r with ⟨fault | l?, t⟩ <;> rw [hrun] at hstill
  · exact hstill
  · cases l? with
    | none => exact hstill
    | some m =>
      obtain ⟨-, hm, -⟩ := accepted?_eq_some.1 (congrArg Prod.fst hrun)
      obtain rfl : l = m := Option.some.inj (htarget.symm.trans hm)
      dsimp only
      rw [if_neg (by simpa using hs)]
      exact hstill

end Events

end PageTape.Recorder
