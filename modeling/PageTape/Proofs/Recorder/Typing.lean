import PageTape.Proofs.Recorder.Move

/-!
# Steps are added and texts recorded by moves

A program of a recorder is on its course if all that it does to the state is a number of moves, also where it fails
halfway.  Here this is shown of what records the texts that wait: each of them is recorded in its turn
(`recordWaiting_runs`), and then none waits (`recordAllWaiting_runs`).
-/

namespace PageTape.Recorder

variable {C : Course Recorder} {may : Leave} {p : Page} {r : Recorder} {a : Active}

/-- The texts that wait. -/
def texts (r : Recorder) : List (Waiting String Typed) := (r.active.map (·.inputs.waiting)).getD []

/-- No text waits. -/
def Calm (r : Recorder) : Prop := ∀ a, r.active = some a → a.inputs.waiting = []

lemma texts_eq (h : r.active = some a) : r.texts = a.inputs.waiting := by simp [texts, h]

lemma calm_iff : Calm r ↔ r.texts = [] := by
  unfold Calm texts
  cases r.active <;> simp

lemma isRecording_iff : r.isRecording = true ↔ ∃ a, r.active = some a ∧ a.session.status = .recording := by
  simp [isRecording, Option.any_eq_true]

/-! ### Steps -/

lemma tell_run (callback : Callback) (position : Nat) (step : Step) (r : Recorder) :
    ∃ notices, ((tell callback position step).run r).2 = { r with notices } := by
  unfold tell
  rw [Course.run_bind, Course.run_get]
  dsimp only
  split
  · exact ⟨r.notices, rfl⟩
  · exact ⟨_, rfl⟩
  · exact ⟨_, rfl⟩

/-- A step is added while recording. -/
lemma add_run (h : r.active = some a) (hr : a.session.status = .recording) (step : Step) :
    ∃ notices, ((add step).run r).2 =
        { r with active := some (a.withSteps (a.session.steps ++ [step])), notices } ∧
      ∀ b, ((add step).run r).1 = .ok b → b = true := by
  have hrec : r.isRecording = true := isRecording_iff.2 ⟨a, h, hr⟩
  have hsteps : r.changeSteps (· ++ [step]) = { r with active := some (a.withSteps (a.session.steps ++ [step])) } := by
    simp [changeSteps, changeActive, h, Active.withSteps]
  unfold add
  rw [Course.run_bind, Course.run_get]
  simp only [hrec, if_true, hsteps]
  rw [Course.run_bind, Course.run_set]
  dsimp only
  rw [Course.run_bind]
  obtain ⟨notices, ht⟩ := tell_run .added r.steps.length step
    { r with active := some (a.withSteps (a.session.steps ++ [step])) }
  rcases hx : (tell .added r.steps.length step).run _ with ⟨e | u, s⟩ <;> rw [hx] at ht
  · exact ⟨notices, ht, fun b hb => by cases hb⟩
  · exact ⟨notices, ht, fun b hb => by simpa using hb.symm⟩

lemma add_idle (h : r.isRecording = false) (step : Step) : (add step).run r = (.ok false, r) := by
  unfold add
  rw [Course.run_bind, Course.run_get]
  simp [h]

/-- A step is added, or nothing happens. -/
lemma add_cases (step : Step) (r : Recorder) : (r.isRecording = false ∧ (add step).run r = (.ok false, r)) ∨
    ∃ a notices, r.active = some a ∧ a.session.status = .recording ∧
      ((add step).run r).2 = { r with active := some (a.withSteps (a.session.steps ++ [step])), notices } := by
  cases hrec : r.isRecording with
  | false => exact .inl ⟨rfl, add_idle hrec step⟩
  | true =>
    obtain ⟨a, h, hr⟩ := isRecording_iff.1 hrec
    obtain ⟨notices, hrun, -⟩ := add_run h hr step
    exact .inr ⟨a, notices, h, hr, hrun⟩

lemma addUserStep_run (h : r.active = some a) (hr : a.session.status = .recording) (step : Step) :
    ∃ notices, ((addUserStep step).run r).2 =
        { r with
          active := some (a.withSteps (a.session.steps ++ [step]))
          lastUserActionAt := step.timestamp, notices } ∧
      ∀ b, ((addUserStep step).run r).1 = .ok b → b = true := by
  have hrec : r.isRecording = true := isRecording_iff.2 ⟨a, h, hr⟩
  unfold addUserStep
  rw [Course.run_bind, Course.run_get]
  simp only [hrec, if_true]
  rw [Course.run_bind, Course.run_modify]
  obtain ⟨notices, h₁, h₂⟩ := add_run (r := { r with lastUserActionAt := step.timestamp }) h hr step
  exact ⟨notices, h₁, h₂⟩

lemma addUserStep_idle (h : r.isRecording = false) (step : Step) : (addUserStep step).run r = (.ok false, r) := by
  unfold addUserStep
  rw [Course.run_bind, Course.run_get]
  simp only [h, Bool.false_eq_true, if_false]
  exact add_idle h step

lemma change_run {position : Nat} {step : Step} (h : r.active = some a)
    (hs : a.session.steps[position]? = some step) (f : Step → Step) :
    ∃ notices, ((change position f).run r).2 =
      { r with active := some (a.withSteps (a.session.steps.set position (f step))), notices } := by
  have hsteps : r.changeSteps (·.set position (f step)) =
      { r with active := some (a.withSteps (a.session.steps.set position (f step))) } := by
    simp [changeSteps, changeActive, h, Active.withSteps]
  have hr : r.steps[position]? = some step := by simpa [steps, h] using hs
  unfold change
  rw [Course.run_bind, Course.run_get]
  simp only [hr]
  rw [Course.run_bind, Course.run_modify]
  simp only [hsteps]
  exact tell_run _ _ _ _

/-- The newest step stands last. -/
lemma newest?_eq_some {n : Nat} {last : Step} (h : r.active = some a) (hn : r.newest? = some (n, last)) :
    ∃ steps, a.session.steps = steps ++ [last] ∧ n = steps.length := by
  simp only [newest?, steps, h, Option.map_some, Option.getD_some, Option.map_eq_some_iff, Prod.mk.injEq] at hn
  obtain ⟨s, hs, rfl, rfl⟩ := hn
  obtain ⟨steps, hsteps⟩ := List.getLast?_eq_some_iff.1 hs
  exact ⟨steps, hsteps, by simp [hsteps]⟩

/-! ### Texts -/

lemma fills_fillStep (p : Page) (w : Waiting String Typed) : Fills (fillStep p w.key w.payload) w := by
  unfold fillStep
  dsimp only
  split <;> exact ⟨rfl, rfl, rfl, rfl⟩

/-- **The steps once a text is recorded on a page**: the newest one takes it if it has filled the same field, else there
is one more, which describes the field as it then is on the page. -/
inductive TakesOn (p : Page) (selector : String) (typed : Typed) : List Step → List Step → Prop
  | update (steps : List Step) (last : Step) (h : isAbout .fill selector last = true) :
      TakesOn p selector typed (steps ++ [last])
        (steps ++ [{ last with value := some typed.value, timestamp := stampOf typed.since }])
  | append (steps : List Step) (hnew : ∀ last ∈ steps.getLast?, isAbout .fill selector last = false) :
      TakesOn p selector typed steps (steps ++ [fillStep p selector typed])

lemma TakesOn.takes {w : Waiting String Typed} {steps steps' : List Step}
    (h : TakesOn p w.key w.payload steps steps') : Takes w steps steps' := by
  cases h with
  | update steps last h => exact .update steps last h
  | append _ hnew => exact .append _ _ (fills_fillStep p w) hnew

/-- A text is recorded, whether the callbacks fail or not. -/
lemma recordText_takes (p : Page) (h : r.active = some a) (hr : a.session.status = .recording) (selector : String)
    (typed : Typed) :
    ∃ steps notices, TakesOn p selector typed a.session.steps steps ∧ ((recordText p selector typed).run r).2 =
      { r with active := some (a.withSteps steps), lastUserActionAt := stampOf typed.since, notices } := by
  have hrec : r.isRecording = true := isRecording_iff.2 ⟨a, h, hr⟩
  unfold recordText
  rw [Course.run_bind, Course.run_get]
  simp only [hrec, Bool.not_true, Bool.false_eq_true, if_false]
  split
  · -- the newest step has filled the same field
    rename_i position last hf
    obtain ⟨hn, habout⟩ := Option.filter_eq_some_iff.1 hf
    obtain ⟨steps, hsteps, rfl⟩ := newest?_eq_some h hn
    rw [Course.run_bind, Course.run_modify]
    have hlast : a.session.steps[steps.length]? = some last := by simp [hsteps]
    obtain ⟨notices, hc⟩ := change_run (r := { r with lastUserActionAt := stampOf typed.since }) h hlast
      fun step => { step with value := some typed.value, timestamp := stampOf typed.since }
    refine ⟨_, notices, ?_, hc⟩
    rw [hsteps, List.set_append_right _ _ le_rfl]
    simpa using TakesOn.update steps last habout
  · rename_i hf
    have hnew : ∀ last ∈ a.session.steps.getLast?, isAbout .fill selector last = false := by
      intro last hlast
      have hn : r.newest? = some (a.session.steps.length - 1, last) := by
        simp [newest?, Recorder.steps, h, Option.mem_def.1 hlast]
      simpa [hn, Option.filter_some] using hf
    obtain ⟨notices, hadd, -⟩ := addUserStep_run h hr (fillStep p selector typed)
    refine ⟨_, notices, .append _ hnew, ?_⟩
    rw [Course.run_discard]
    rw [(fills_fillStep p ⟨selector, typed.since, 0, typed⟩).2.2.2] at hadd
    exact hadd

/-- A text that was taken out is recorded, whether the callbacks fail or not. -/
lemma recordText_run (p : Page) (h : r.active = some a) (hr : a.session.status = .recording)
    (w : Waiting String Typed) :
    ∃ steps notices, Takes w a.session.steps steps ∧ ((recordText p w.key w.payload).run r).2 =
      { r with active := some (a.withSteps steps), lastUserActionAt := stampOf w.payload.since, notices } := by
  obtain ⟨steps, notices, hsteps, hrun⟩ := recordText_takes p h hr w.key w.payload
  exact ⟨steps, notices, hsteps.takes, hrun⟩

lemma takeText_run {w : Waiting String Typed} (h : r.active = some a) (hw : a.inputs.find? w.key = some w) :
    (takeText w.key).run r = (.ok (some w.payload), { r with
      clock := r.clock.cancel w.timer, active := some { a with inputs := a.inputs.drop w.key } }) := by
  simp [takeText, h, Debouncer.take?, hw]

/-- The text that has waited longest is recorded, whether the callbacks fail or not. -/
lemma recordWaiting_run (p : Page) (hl : r.Linked) (h : r.active = some a) {w : Waiting String Typed}
    {rest : List (Waiting String Typed)} (hw : a.inputs.waiting = w :: rest) :
    a.session.status = .recording ∧ ∃ steps notices, Takes w a.session.steps steps ∧
      ((recordWaiting p w.key).run r).2 = { r with
        clock := r.clock.cancel w.timer
        active := some { a.withSteps steps with inputs := a.inputs.drop w.key }
        lastUserActionAt := stampOf w.payload.since, notices } := by
  have ha := hl.active a h
  have hmem : w ∈ a.inputs.waiting := by simp [hw]
  have hrec : a.session.status = .recording := ha.status.resolve_right fun hp => by
    rw [ha.quiet hp] at hw
    cases hw
  obtain ⟨steps, notices, hsteps, hrun⟩ := recordText_run p
    (r := { r with clock := r.clock.cancel w.timer, active := some { a with inputs := a.inputs.drop w.key } })
    rfl hrec w
  refine ⟨hrec, steps, notices, hsteps, ?_⟩
  unfold recordWaiting
  rw [Course.run_bind, takeText_run h (ha.inputs.find?_eq hmem)]
  exact hrun

lemma recordWaiting_runs [hC : Admits C may] (p : Page) (w : Waiting String Typed)
    (rest : List (Waiting String Typed)) :
    C.Runs (fun s => ∃ a, s.active = some a ∧ a.inputs.waiting = w :: rest) (recordWaiting p w.key)
      fun _ s => ∃ a, s.active = some a ∧ a.inputs.waiting = rest := by
  rintro r hs ⟨a, h, hw⟩
  have hl := hC.linked hs
  obtain ⟨hrec, steps, notices, hsteps, hafter⟩ := recordWaiting_run p hl h hw
  rw [hafter]
  refine ⟨hC.deed hs ⟨.flushed notices h hrec hw hsteps, by rw [h]; rfl, .inr ?_, le_rfl⟩, fun _ _ =>
    ⟨_, rfl, (hl.active a h).inputs.drop_eq hw⟩⟩
  rw [steps_of_active h]
  exact hsteps.idleWaits

/-- **Every text that waits is recorded**, and then none does. -/
lemma recordAllWaiting_runs [Admits C may] (p : Page) :
    C.Runs (fun _ => True) (recordAllWaiting p) fun _ => Calm := by
  unfold recordAllWaiting
  refine .bind_get fun r => ?_
  split
  · rename_i a ha
    refine Course.Runs.mono (Course.Runs.forM (I := fun l s => ∃ a, s.active = some a ∧ a.inputs.waiting = l)
      (recordWaiting_runs p) a.inputs.waiting) ?_ ?_
    · rintro s - ⟨rfl, -⟩
      exact ⟨a, ha, rfl⟩
    · rintro - s ⟨b, hb, hw⟩ c hc
      obtain rfl : b = c := Option.some.inj (hb.symm.trans hc)
      exact hw
  · rename_i hn
    exact .pure fun s _ ⟨hs, _⟩ a ha => by rw [hs, hn] at ha; cases ha

end PageTape.Recorder
