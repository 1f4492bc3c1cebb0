import PageTape.Proofs.Recorder.Traffic

/-!
# A session moves on

* `heed_runs`, `noteFields_runs`, `noteLoaded_runs` — changes of the page;
* `pause_runs`, `resume_runs`, `addByHand_runs` and its kin — what is asked of the recorder while a session lasts.  When
  a session is paused no text waits;
* `goOff_leads` — the timer that is due first goes off, and no other is set.  So the timers that are due by a time can
  all go off (`runDue_runs`), and time passes by moves (`advanceTo_runs`).
-/

namespace PageTape.Recorder

variable {C : Course Recorder} {may : Leave} {p : Page} {r : Recorder} {a : Active} {c : Clock Alarm}
  {w : List (Waiting String Typed)}

/-! ### Changes of the page -/

lemma heed_runs [hC : Admits C may] (mutations : List Page.Mutation) : Stays C (heed mutations) := by
  refine .modify fun s hs _ => ⟨?_, trivial⟩
  split
  · exact C.refl s
  · rename_i a h
    split
    · refine hC.deed hs ⟨.heeded _ h, by rw [h]; rfl, .inr ?_, ?_⟩
      · rw [steps_of_active h]
        rfl
      · rw [Debouncer.schedule_now]
    · exact C.refl s

lemma newFields_run (fields : List Dom.Location) (r : Recorder) : ((newFields fields).run r).2 = r := by
  induction fields with
  | nil => rfl
  | cons l rest ih =>
    unfold newFields
    split
    · rw [Course.run_bind, leavesAlone_run]
      rcases isOwn r.config l with _ | own
      · rfl
      · dsimp only
        rw [Course.run_bind]
        rcases hr : (newFields rest).run r with ⟨_ | _, s⟩ <;> rw [hr] at ih <;> exact ih
    · exact ih

lemma noteNow_runs [Admits C may] (r : Recorder) (step : Step) (hk : step.kind.isSynthetic = true)
    (hn : (step.kind == .waitForNetworkIdle) = false) (ht : step.timestamp = r.now) :
    C.Runs (fun s => s = r ∧ s.clock = c) (discard <| add step) fun _ s => s.clock = c := by
  rintro s hs ⟨rfl, rfl⟩
  have h : C.Runs (fun u => (u.clock = s.clock ∧ u.texts = s.texts) ∧ step.timestamp = u.now)
      (discard <| add step) fun _ u => u.clock = s.clock := .discard ((note_runs step hk hn).weaken fun _ _ h => h.1)
  exact h s hs ⟨⟨rfl, rfl⟩, ht⟩

lemma noteFields_runs [Admits C may] (p : Page) (mutations : List Page.Mutation) :
    C.Runs (fun s => s.clock = c) (noteFields p mutations) fun _ s => s.clock = c := by
  unfold noteFields
  refine .bind_still (newFields_run _) fun _ fields _ => ?_
  cases fields with
  | nil => exact .pure fun _ _ h => h.2
  | cons first rest =>
    exact .bind_get fun r => (noteNow_runs r _ rfl rfl rfl).strengthen fun _ _ h => ⟨h.1, h.2.2⟩

lemma noteLoaded_runs [Admits C may] (p : Page) (mutations : List Page.Mutation) :
    C.Runs (fun s => s.clock = c) (noteLoaded p mutations) fun _ s => s.clock = c := by
  unfold noteLoaded
  split
  · exact .pure fun _ _ h => h
  · exact .bind_get fun r => noteNow_runs r _ rfl rfl rfl

/-! ### Asked of the recorder -/

/-- **When a session is paused no text waits.** -/
lemma pause_runs [hC : Admits C may] (p : Page) : C.Runs (fun _ => True) (pause p) fun _ => Calm := by
  unfold pause
  refine .bind_get fun r => .ite (fun _ => ?_) fun hrec => .pure fun s hs hsr a h => ?_
  · refine .bind ((recordAllWaiting_runs p).strengthen fun _ _ _ => trivial) fun _ => ?_
    refine .bind (Q := fun _ => Calm) (.modify fun s hs hc => ?_) fun _ => .bind_get fun _ => .pure fun _ _ h => h.2
    unfold setStatus changeActive
    cases h : s.active with
    | none =>
      rw [Option.map_none, ← h]
      exact ⟨C.refl s, hc⟩
    | some a =>
      refine ⟨hC.deed hs ⟨.paused h (hc a h), by rw [h]; rfl, .inr ?_, le_rfl⟩, fun b hb => ?_⟩
      · rw [steps_of_active h]
        rfl
      · obtain rfl := Option.some.inj hb
        exact hc a h
  · -- a session that is not recorded is paused already
    obtain ⟨rfl, -⟩ := hsr
    have hla := (hC.linked hs).active a h
    exact hla.quiet (hla.status.resolve_left fun hr => hrec (isRecording_iff.2 ⟨a, h, hr⟩))

lemma resume_runs [hC : Admits C may] : Stays C resume := by
  unfold resume
  refine .bind_get fun r => .ite (fun hr => ?_) fun _ => .pure fun _ _ _ => trivial
  refine .bind (Q := fun _ _ => True) (.modify fun s hs h => ?_) fun _ =>
    .bind_get fun _ => .pure fun _ _ _ => trivial
  obtain ⟨rfl, -⟩ := h
  refine ⟨?_, trivial⟩
  rw [beq_iff_eq] at hr
  unfold setStatus changeActive
  unfold status at hr
  cases h : s.active with
  | none =>
    rw [Option.map_none, ← h]
    exact C.refl s
  | some a =>
    rw [h] at hr
    refine hC.deed hs ⟨.resumed h hr, by rw [h]; rfl, .inr ?_, le_rfl⟩
    rw [steps_of_active h]
    rfl

/-! ### By hand -/

lemma changeSteps_leads [hC : Admits C may] (hm : may.edits = true) (hs : C.holds r) (f : List Step → List Step) :
    C.leads r (r.changeSteps f) := by
  unfold changeSteps changeActive
  cases h : r.active with
  | none =>
    rw [Option.map_none, ← h]
    exact C.refl r
  | some a =>
    exact hC.deed hs ⟨.edited (f a.session.steps) r.lastUserActionAt r.notices h hm, by rw [h]; rfl, .inl hm, le_rfl⟩

lemma tell_runs [hC : Admits C may] (callback : Callback) (position : Nat) (step : Step) :
    Stays C (tell callback position step) := by
  intro s hs _
  obtain ⟨notices, ht⟩ := tell_run callback position step s
  rw [ht]
  exact ⟨hC.deed hs ⟨.told s notices, rfl, .inr rfl, le_rfl⟩, fun _ _ => trivial⟩

lemma addByHand_runs [hC : Admits C may] (hm : may.edits = true) (p : Page) (d : Datum) :
    Stays C (addByHand p d) := by
  unfold addByHand
  refine .bind_get fun r => .ite (fun _ => .pure fun _ _ _ => trivial) fun _ => ?_
  split
  · exact .throw
  · refine .bind (Q := fun _ _ => True) ((recordAllWaiting_runs p).mono (fun _ _ _ => trivial) fun _ _ _ => trivial)
      fun _ s hs _ => ⟨?_, fun _ _ => trivial⟩
    cases hrec : s.isRecording with
    | false =>
      rw [addUserStep_idle hrec]
      exact C.refl s
    | true =>
      obtain ⟨a, h, hr⟩ := isRecording_iff.1 hrec
      obtain ⟨notices, hrun, -⟩ := addUserStep_run h hr ‹Step›
      rw [hrun]
      exact hC.deed hs ⟨.edited _ _ notices h hm, by rw [h]; rfl, .inl hm, le_rfl⟩

lemma change_runs [Admits C may] (hm : may.edits = true) (position : Nat) (f : Step → Step) :
    Stays C (change position f) := by
  unfold change
  refine .bind_get fun r => ?_
  split
  · exact .pure fun _ _ _ => trivial
  · exact .bind (.modify fun s hs _ => ⟨changeSteps_leads hm hs _, trivial⟩) fun _ => tell_runs _ _ _

lemma removeStep_runs [Admits C may] (hm : may.edits = true) (index : Int) : Stays C (removeStep index) := by
  unfold removeStep
  refine .bind_get fun r => ?_
  split
  · exact .pure fun _ _ _ => trivial
  · exact .bind (Q := fun _ _ => True) (.modify fun s hs _ => ⟨changeSteps_leads hm hs _, trivial⟩) fun _ =>
      .bind (tell_runs _ _ _) fun _ => .pure fun _ _ _ => trivial

lemma updateStep_runs [Admits C may] (hm : may.edits = true) (index : Int) (value : Option String)
    (waitTimeout : Option Int) : Stays C (updateStep index value waitTimeout) := by
  unfold updateStep
  refine .bind_get fun r => ?_
  split
  · exact .pure fun _ _ _ => trivial
  · exact .bind ((change_runs hm _ _).strengthen fun _ _ _ => trivial) fun _ => .pure fun _ _ _ => trivial

/-! ### Timers -/

lemma Linked.exists_active (hl : r.Linked) {t : Timer Alarm} (ht : t ∈ r.clock.timers) : ∃ a, r.active = some a := by
  cases h : r.active with
  | none =>
    rw [hl.free h] at ht
    cases ht
  | some a => exact ⟨a, rfl⟩

/-- The text of a timer that has gone off is taken out, and recorded. -/
lemma wakeText_taken (p : Page) (hl : r.Linked) {t : Timer Alarm} {k : String} (ht : t ∈ r.clock.timers)
    (hk : t.alarm = .input k) : ∃ a w, r.active = some a ∧ w ∈ a.inputs.waiting ∧ w.key = k ∧
      t = a.inputs.timerOf Alarm.input w ∧ (wakeText p k).run { r with clock := r.clock.ring t } =
        (recordText p k w.payload).run { r with
          clock := r.clock.ring t, active := some { a with inputs := a.inputs.drop w.key } } := by
  obtain ⟨a, ha⟩ := hl.exists_active ht
  have hla := hl.active a ha
  obtain ⟨w, hw, rfl, rfl⟩ := hla.inputs.timer_eq hl.sound ht hk
  refine ⟨a, w, ha, hw, rfl, rfl, ?_⟩
  unfold wakeText
  rw [Course.run_bind, Course.run_modifyGet]
  simp only [ha, Debouncer.wake, hla.inputs.find?_eq hw, Clock.ring_now,
    Debouncer.hasPassed_timerOf a.inputs Alarm.input w, if_true]

/-- The text of a timer that has gone off is recorded, whether the callbacks fail or not. -/
lemma wakeText_run (p : Page) (hl : r.Linked) {t : Timer Alarm} {s : String} (ht : t ∈ r.clock.timers)
    (ha : t.alarm = .input s) :
    ∃ a w steps notices, r.active = some a ∧ w ∈ a.inputs.waiting ∧ w.key = s ∧ t = a.inputs.timerOf Alarm.input w ∧
      a.session.status = .recording ∧ Takes w a.session.steps steps ∧
      ((wakeText p s).run { r with clock := r.clock.ring t }).2 = { r with
        clock := r.clock.ring t
        active := some { a.withSteps steps with inputs := a.inputs.drop w.key }
        lastUserActionAt := stampOf w.payload.since, notices } := by
  obtain ⟨a, w, h, hw, rfl, htw, htaken⟩ := wakeText_taken p hl ht ha
  have hla := hl.active a h
  have hrec : a.session.status = .recording := hla.status.resolve_right fun hp => by
    rw [hla.quiet hp] at hw
    cases hw
  obtain ⟨steps, notices, hsteps, hrun⟩ := recordText_run p
    (r := { r with clock := r.clock.ring t, active := some { a with inputs := a.inputs.drop w.key } }) rfl hrec w
  refine ⟨a, w, steps, notices, h, hw, rfl, htw, hrec, hsteps, ?_⟩
  rw [htaken]
  exact hrun

lemma wakeText_leads [hC : Admits C may] (p : Page) (hs : C.holds r) {t : Timer Alarm} {s : String}
    (ht : t ∈ r.clock.timers) (hfirst : ∀ u ∈ r.clock.timers, t.Ahead u) (ha : t.alarm = .input s) :
    C.leads r ((wakeText p s).run { r with clock := r.clock.ring t }).2 ∧
      ((wakeText p s).run { r with clock := r.clock.ring t }).2.clock = r.clock.ring t := by
  have hl := hC.linked hs
  obtain ⟨a, w, steps, notices, h, hw, -, rfl, hrec, hsteps, hafter⟩ := wakeText_run p hl ht ha
  rw [hafter]
  refine ⟨hC.deed hs ⟨.rung notices h hrec hw hfirst hsteps, by rw [h]; rfl, .inr ?_, hl.sound.ahead _ ht⟩, rfl⟩
  rw [steps_of_active h]
  exact hsteps.idleWaits

/-- The timer for the changes of the page has gone off: they are taken out, and looked at while recording. -/
lemma wakeMutations_run (p : Page) (hl : r.Linked) {t : Timer Alarm} (ht : t ∈ r.clock.timers)
    (ha : t.alarm = .mutations) :
    ∃ a w, r.active = some a ∧ w ∈ a.mutations.waiting ∧ t = a.mutations.timerOf (fun _ => Alarm.mutations) w ∧
      (wakeMutations p).run { r with clock := r.clock.ring t } =
        ExceptT.run (get >>= fun s : Recorder => if s.isRecording = true then
          noteFields p w.payload >>= fun _ => noteLoaded p w.payload else pure ()) { r with
            clock := r.clock.ring t
            active := some { a with mutations := a.mutations.drop w.key } } := by
  obtain ⟨a, h⟩ := hl.exists_active ht
  have hla := hl.active a h
  obtain ⟨w, hw, -, rfl⟩ := hla.mutations.timer_eq (k := ()) hl.sound ht ha
  refine ⟨a, w, h, hw, rfl, ?_⟩
  unfold wakeMutations
  rw [Course.run_bind, Course.run_modifyGet]
  simp only [h, Debouncer.wake, hla.mutations.find?_eq hw, Clock.ring_now,
    Debouncer.hasPassed_timerOf a.mutations (fun _ => Alarm.mutations) w, if_true]

/-- The changes of a timer that has gone off are looked at. -/
lemma wakeMutations_leads [hC : Admits C may] (p : Page) (hs : C.holds r) {t : Timer Alarm} (ht : t ∈ r.clock.timers)
    (hfirst : ∀ u ∈ r.clock.timers, t.Ahead u) (ha : t.alarm = .mutations) :
    C.leads r ((wakeMutations p).run { r with clock := r.clock.ring t }).2 ∧
      ∀ u, ((wakeMutations p).run { r with clock := r.clock.ring t }).1 = .ok u →
        ((wakeMutations p).run { r with clock := r.clock.ring t }).2.clock = r.clock.ring t := by
  have hl := hC.linked hs
  obtain ⟨a, w, h, hw, rfl, hafter⟩ := wakeMutations_run p hl ht ha
  have hsettled : C.leads r { r with
      clock := r.clock.ring (a.mutations.timerOf (fun _ => Alarm.mutations) w)
      active := some { a with mutations := a.mutations.drop w.key } } := by
    refine hC.deed hs ⟨.settled h hw hfirst, by rw [h]; rfl, .inr ?_, hl.sound.ahead _ ht⟩
    rw [steps_of_active h]
    rfl
  have hrest : C.Runs
      (fun s => s.clock = r.clock.ring (a.mutations.timerOf (fun _ => Alarm.mutations) w))
      (get >>= fun s : Recorder => if s.isRecording = true then
        noteFields p w.payload >>= fun _ => noteLoaded p w.payload else pure ())
      fun _ s => s.clock = r.clock.ring (a.mutations.timerOf (fun _ => Alarm.mutations) w) :=
    .bind_get fun s => .ite (fun _ => .bind ((noteFields_runs p _).strengthen fun _ _ h => h.2) fun _ =>
      noteLoaded_runs p _) fun _ => .pure fun _ _ h => h.2
  rw [hafter]
  obtain ⟨h₁, h₂⟩ := hrest _ (C.keeps hsettled hs) rfl
  exact ⟨C.trans hsettled h₁, h₂⟩

/-- The timer for an idle network has gone off, of which is taken note while recording. -/
lemma wakeIdle_run (hl : r.Linked) {t : Timer Alarm} (ht : t ∈ r.clock.timers) :
    ∃ a, r.active = some a ∧ wakeIdle.run { r with clock := r.clock.ring t } =
      ExceptT.run (get >>= fun s : Recorder => if s.isRecording = true then noteIdle else pure ()) { r with
        clock := r.clock.ring t, active := some { a with traffic := { a.traffic with idleTimer := none } } } := by
  obtain ⟨a, h⟩ := hl.exists_active ht
  refine ⟨a, h, ?_⟩
  unfold wakeIdle
  rw [Course.run_bind, Course.run_modify]
  simp only [changeTraffic, changeActive, h, Option.map_some]

/-- The network has been idle. -/
lemma wakeIdle_leads (hl : r.Linked) {t : Timer Alarm} (ht : t ∈ r.clock.timers)
    (hfirst : ∀ u ∈ r.clock.timers, t.Ahead u) (ha : t.alarm = .idle) :
    Path may r (wakeIdle.run { r with clock := r.clock.ring t }).2 ∧
      ∀ u, (wakeIdle.run { r with clock := r.clock.ring t }).1 = .ok u →
        (wakeIdle.run { r with clock := r.clock.ring t }).2.clock = r.clock.ring t := by
  obtain ⟨a, h, hafter⟩ := wakeIdle_run hl ht
  have hmove : Move may r { r with
      clock := r.clock.ring t, active := some { a with traffic := { a.traffic with idleTimer := none } } } :=
    .idleRung h ht ha hfirst
  have hrest : (course may).Runs (fun s => s.clock = r.clock.ring t)
      (get >>= fun s : Recorder => if s.isRecording = true then noteIdle else pure ())
      fun _ s => s.clock = r.clock.ring t := by
    refine .bind_get fun s => .ite (fun _ => ?_) fun _ => .pure fun _ _ h => h.2
    intro s hs ⟨_, hc⟩
    exact (noteIdle_runs.weaken fun _ _ h => h.1) s hs ⟨hc, rfl⟩
  rw [hafter]
  obtain ⟨h₁, h₂⟩ := hrest _ (hmove.linked hl) rfl
  exact ⟨.head hmove h₁, h₂⟩

/-- **The timer that is due first goes off**, and where this does not fail no other timer is touched. -/
lemma goOff_leads (may : Leave) (p : Page) (hl : r.Linked) {t : Timer Alarm} (ht : t ∈ r.clock.timers)
    (hfirst : ∀ u ∈ r.clock.timers, t.Ahead u) :
    Path may r ((goOff p t.alarm).run { r with clock := r.clock.ring t }).2 ∧
      ∀ u, ((goOff p t.alarm).run { r with clock := r.clock.ring t }).1 = .ok u →
        ((goOff p t.alarm).run { r with clock := r.clock.ring t }).2.clock = r.clock.ring t := by
  cases ha : t.alarm with
  | input s =>
    obtain ⟨h₁, h₂⟩ := wakeText_leads (C := course may) p hl ht hfirst ha
    exact ⟨h₁, fun _ _ => h₂⟩
  | mutations => exact wakeMutations_leads (C := course may) p hl ht hfirst ha
  | idle => exact wakeIdle_leads hl ht hfirst ha

/-- All timers that are due by a time go off, if as many may as are set. -/
lemma runDue_runs (p : Page) (target : Rat) (n : Nat) :
    (course may).Runs
      (fun s => s.clock.timers.length ≤ n ∧ (may.back = true ∨ s.clock.now ≤ target)) (runDue p target n)
      fun _ s => (∀ t ∈ s.clock.timers, target ≤ t.due) ∧ (may.back = true ∨ s.clock.now ≤ target) := by
  induction n with
  | zero =>
    refine .pure fun s _ ⟨hn, hb⟩ => ⟨fun t ht => ?_, hb⟩
    rw [List.length_eq_zero_iff.1 (Nat.le_zero.1 hn)] at ht
    cases ht
  | succ n ih =>
    unfold runDue
    refine .bind_get fun r => ?_
    split
    · rename_i hp
      refine .pure fun s _ ⟨hs, _, hb⟩ => ⟨fun t ht => ?_, hb⟩
      subst hs
      exact (Clock.popDue?_eq_none hp t ht).le
    · rename_i t c hp
      obtain ⟨ht, hfirst, hdue, rfl⟩ := Clock.popDue?_eq_some hp
      -- the timer is off the clock before its alarm is heard: the two are one move
      rintro s hl ⟨rfl, hn, hb⟩
      rw [Course.run_bind, Course.run_modify]
      dsimp only
      rw [Course.run_bind]
      obtain ⟨h₁, h₂⟩ := goOff_leads may p hl ht hfirst
      rcases hr : (goOff p t.alarm).run { s with clock := s.clock.ring t } with ⟨e | u, s'⟩ <;> rw [hr] at h₁ h₂
      · exact ⟨h₁, nofun⟩
      · have hc := h₂ u rfl
        have hlen : s'.clock.timers.length ≤ n := by
          rw [hc]
          have := Clock.length_cancel_lt ht
          show (s.clock.cancel t.seq).timers.length ≤ n
          omega
        obtain ⟨h₃, h₄⟩ := ih s' (h₁.linked hl) ⟨hlen, .inr (by rw [hc]; exact hdue)⟩
        exact ⟨h₁.trans h₃, h₄⟩

/-- **Time passes by moves**: no timer that is due before is left when the clock has come to a time. -/
lemma advanceTo_runs (p : Page) (target : Rat) :
    (course may).Runs (fun s => may.back = true ∨ s.clock.now ≤ target) (advanceTo p target) fun _ _ => True := by
  unfold advanceTo
  refine .bind_get fun r => .bind ((runDue_runs p target _).strengthen ?_) fun _ => .modify fun s _ ⟨hdue, hb⟩ => ?_
  · rintro s - ⟨rfl, hb⟩
    exact ⟨le_rfl, hb⟩
  · exact ⟨.single (.passed target hdue hb), trivial⟩

lemma advance_runs (p : Page) {ms : Rat} (hm : may.back = true ∨ 0 ≤ ms) : Moves may (advance p ms) := by
  unfold advance
  refine .bind_get fun r => (advanceTo_runs p _).strengthen ?_
  rintro s - ⟨rfl, -⟩
  exact hm.imp_right fun h => by linarith

lemma runTimers_runs (p : Page) (n : Nat) : Moves may (runTimers p n) := by
  induction n with
  | zero => exact .pure fun _ _ _ => trivial
  | succ n ih =>
    refine Course.Runs.bind_get fun r => ?_
    dsimp only
    split
    · exact .pure fun _ _ _ => trivial
    · refine .bind ((advanceTo_runs p _).strengthen ?_) fun _ => ih
      rintro s - ⟨rfl, -⟩
      exact .inr (le_max_left _ _)

lemma runAll_runs (p : Page) : Moves may (runAll p) :=
  .bind_get fun _ => (runTimers_runs p _).strengthen fun _ _ _ => trivial

end PageTape.Recorder
