import PageTape.Proofs.Recorder.Pass

/-!
# Time passes, timer by timer

As many timers may go off while time passes as are set when it begins to.  This bound never ends anything, since no
timer that goes off sets another one.

* `Rings` — a timer goes off: what it is for has waited for long enough, and the clock is left alone;
* `Sweeps`, `RunsOut` — time passes up to a time, or until no timer is set; there is no bound on the timers that go off;
* `Linked.advance_sweeps`, `Linked.runAll_runsOut` — that is what becomes of a recorder, and not more timers go off than
  were set;
* `Sweeps.sorted`, `RunsOut.sorted` — the timers go off in the order of time.
-/

namespace PageTape.Recorder

variable {p : Page} {r s : Recorder} {t : Timer Alarm} {result : Except Fault Unit × Recorder}

/-! ### The law -/

/-- It is too early for what a timer is for, so that the timer would be set again. -/
def TooEarly (r : Recorder) : Alarm → Prop
  | .input selector => ∃ a ∈ r.active, ∃ w ∈ a.inputs.find? selector,
      hasPassed w.since r.clock.now a.inputs.delay = false
  | .mutations => ∃ a ∈ r.active, ∃ w ∈ a.mutations.find? (), hasPassed w.since r.clock.now a.mutations.delay = false
  | .idle => False

/-- **A timer goes off** when it is due, which it is not before now.  What it is for has waited for long enough, and the
clock is left alone, also by a callback that fails. -/
structure Rings (p : Page) (t : Timer Alarm) (r : Recorder) (result : Except Fault Unit × Recorder) : Prop where
  due : r.clock.now ≤ t.due
  ripe : ¬ TooEarly { r with clock := r.clock.ring t } t.alarm
  run : (goOff p t.alarm).run { r with clock := r.clock.ring t } = result
  clock : result.2.clock = r.clock.ring t

/-- **Time passes up to a time**: at the given times timers go off, one after another, until none is due any more or
one fails. -/
inductive Sweeps (p : Page) (target : Rat) : List Rat → Recorder → Except Fault Unit × Recorder → Prop
  | finished {r : Recorder} (h : r.clock.popDue? target = none) :
      Sweeps p target [] r (.ok ⟨⟩, { r with clock := { r.clock with now := target } })
  | failed {r s : Recorder} {t : Timer Alarm} {c : Clock Alarm} {fault : Fault}
      (h : r.clock.popDue? target = some (t, c)) (hr : Rings p t r (.error fault, s)) :
      Sweeps p target [t.due] r (.error fault, s)
  | rung {r s : Recorder} {t : Timer Alarm} {c : Clock Alarm} {times : List Rat}
      {result : Except Fault Unit × Recorder} (h : r.clock.popDue? target = some (t, c))
      (hr : Rings p t r (.ok ⟨⟩, s)) (rest : Sweeps p target times s result) :
      Sweeps p target (t.due :: times) r result

/-- **Time passes until no timer is set**: time and again up to the time when the first one is due. -/
inductive RunsOut (p : Page) : List Rat → Recorder → Except Fault Unit × Recorder → Prop
  | finished {r : Recorder} (h : r.clock.timers = []) : RunsOut p [] r (.ok ⟨⟩, r)
  | failed {r s : Recorder} {t : Timer Alarm} {times : List Rat} {fault : Fault} (h : r.clock.earliest? = some t)
      (hs : Sweeps p (max r.clock.now t.due) times r (.error fault, s)) : RunsOut p times r (.error fault, s)
  | swept {r s : Recorder} {t : Timer Alarm} {times more : List Rat} {result : Except Fault Unit × Recorder}
      (h : r.clock.earliest? = some t) (hs : Sweeps p (max r.clock.now t.due) times r (.ok ⟨⟩, s))
      (rest : RunsOut p more s result) : RunsOut p (times ++ more) r result

/-! ### What a timer is for leaves the clock alone -/

/-- A program leaves the clock alone, whether it fails or not. -/
abbrev KeepsClock {α : Type} (act : Act α) : Prop :=
  (Course.still fun r : Recorder => r.clock).Runs (fun _ => True) act fun _ _ => True

lemma add_keepsClock (step : Step) : KeepsClock (add step) := fun r _ _ => by
  refine ⟨?_, fun _ _ => trivial⟩
  obtain ⟨-, hadd⟩ | ⟨a, notices, -, -, hadd⟩ := add_cases step r <;> rw [hadd] <;> rfl

lemma noteFields_keepsClock (p : Page) (mutations : List Page.Mutation) : KeepsClock (noteFields p mutations) := by
  refine .bind_still (newFields_run _) fun _ fields _ => ?_
  cases fields with
  | nil => exact .pure fun _ _ _ => trivial
  | cons first rest =>
    exact .bind_get fun _ => .discard ((add_keepsClock _).strengthen fun _ _ _ => trivial)

lemma noteLoaded_keepsClock (p : Page) (mutations : List Page.Mutation) : KeepsClock (noteLoaded p mutations) := by
  unfold noteLoaded
  split
  · exact .pure fun _ _ _ => trivial
  · exact .bind_get fun _ => .discard ((add_keepsClock _).strengthen fun _ _ _ => trivial)

lemma noteIdle_keepsClock : KeepsClock noteIdle := by
  unfold noteIdle
  refine .bind_get fun r => .ite (fun _ => .pure fun _ _ _ => trivial) fun _ => ?_
  refine .bind ((add_keepsClock _).strengthen fun _ _ _ => trivial) fun added => ?_
  exact .ite (fun _ => .modify fun _ _ _ => ⟨rfl, trivial⟩) fun _ => .pure fun _ _ _ => trivial

/-- A program that is only run while recording. -/
lemma KeepsClock.whenRecording {act : Act Unit} (h : KeepsClock act) :
    KeepsClock (get >>= fun s : Recorder => if s.isRecording = true then act else pure ()) :=
  .bind_get fun _ => .ite (fun _ => h.strengthen fun _ _ _ => trivial) fun _ => .pure fun _ _ _ => trivial

/-- **A timer that goes off sets no other one**, and takes none off the clock but itself, also where it fails. -/
theorem goOff_clock (p : Page) (hl : r.Linked) (ht : t ∈ r.clock.timers) :
    ((goOff p t.alarm).run { r with clock := r.clock.ring t }).2.clock = r.clock.ring t := by
  cases ha : t.alarm with
  | input selector =>
    obtain ⟨a, w, steps, notices, -, -, -, -, -, -, hafter⟩ := wakeText_run p hl ht ha
    rw [show goOff p (.input selector) = wakeText p selector from rfl, hafter]
  | mutations =>
    obtain ⟨a, w, -, -, -, hafter⟩ := wakeMutations_run p hl ht ha
    have hkeeps : KeepsClock (noteFields p w.payload >>= fun _ => noteLoaded p w.payload) :=
      .bind (noteFields_keepsClock p _) fun _ => noteLoaded_keepsClock p _
    rw [show goOff p .mutations = wakeMutations p from rfl, hafter]
    exact hkeeps.whenRecording.leads trivial trivial
  | idle =>
    obtain ⟨a, -, hafter⟩ := wakeIdle_run hl ht
    rw [show goOff p .idle = wakeIdle from rfl, hafter]
    exact noteIdle_keepsClock.whenRecording.leads trivial trivial

/-- **A timer never goes off too early.** -/
theorem Linked.not_tooEarly (hl : r.Linked) (ht : t ∈ r.clock.timers) :
    ¬ TooEarly { r with clock := r.clock.ring t } t.alarm := by
  intro hearly
  cases ha : t.alarm with
  | input selector =>
    rw [ha] at hearly
    obtain ⟨a, h, w, hw, hearly⟩ := hearly
    have hinputs := (hl.active a h).inputs
    obtain ⟨v, hv, rfl, rfl⟩ := hinputs.timer_eq hl.sound ht ha
    obtain rfl : v = w := Option.some.inj ((hinputs.find?_eq hv).symm.trans hw)
    have hpassed := Debouncer.hasPassed_timerOf a.inputs Alarm.input v
    rw [Clock.ring_now] at hearly
    rw [hpassed] at hearly
    cases hearly
  | mutations =>
    rw [ha] at hearly
    obtain ⟨a, h, w, hw, hearly⟩ := hearly
    have hmutations := (hl.active a h).mutations
    obtain ⟨v, hv, -, rfl⟩ := hmutations.timer_eq (k := ()) hl.sound ht ha
    obtain rfl : v = w := Option.some.inj ((hmutations.find?_eq hv).symm.trans hw)
    have hpassed := Debouncer.hasPassed_timerOf a.mutations (fun _ => Alarm.mutations) v
    rw [Clock.ring_now] at hearly
    rw [hpassed] at hearly
    cases hearly
  | idle =>
    rw [ha] at hearly
    exact hearly

lemma Linked.rings (p : Page) (hl : r.Linked) (ht : t ∈ r.clock.timers) :
    Rings p t r ((goOff p t.alarm).run { r with clock := r.clock.ring t }) where
  due := hl.sound.ahead t ht
  ripe := hl.not_tooEarly ht
  run := rfl
  clock := goOff_clock p hl ht

/-! ### Up to a time -/

/-- The bound does not end what happens up to a time. -/
lemma Linked.runDue_sweeps (p : Page) (target : Rat) (hl : r.Linked) {n : ℕ} (hn : r.clock.timers.length ≤ n) :
    ∃ times, times.length ≤ r.clock.timers.length ∧ Sweeps p target times r
      ((runDue p target n >>= fun _ => modify fun r : Recorder => { r with clock := { r.clock with now := target } }).run
        r) := by
  induction n generalizing r with
  | zero =>
    have ht := List.length_eq_zero_iff.1 (Nat.le_zero.1 hn)
    refine ⟨[], Nat.zero_le _, ?_⟩
    rw [Course.run_bind, runDue_of_timers_eq_nil p target ht]
    exact .finished (by simp only [Clock.popDue?, Clock.earliest?_eq_none.2 ht])
  | succ n ih =>
    rw [Course.run_bind, runDue_succ]
    cases hp : r.clock.popDue? target with
    | none => exact ⟨[], Nat.zero_le _, .finished hp⟩
    | some q =>
      obtain ⟨t, c⟩ := q
      obtain ⟨ht, -, -, rfl⟩ := Clock.popDue?_eq_some hp
      have hrings := hl.rings p ht
      dsimp only
      rw [Course.run_bind]
      rcases hgo : (goOff p t.alarm).run { r with clock := r.clock.ring t } with ⟨fault | u, s⟩ <;> rw [hgo] at hrings
      · exact ⟨[t.due], List.length_pos_of_mem ht, .failed hp hrings⟩
      · obtain ⟨hl', hlt⟩ := goOff_fewer hl hp hgo
        obtain ⟨times, hlen, hrest⟩ := ih hl' (by omega)
        rw [Course.run_bind] at hrest
        exact ⟨t.due :: times, by rw [List.length_cons]; omega, .rung hp hrings hrest⟩

lemma Linked.advanceTo_sweeps (p : Page) (target : Rat) (hl : r.Linked) :
    ∃ times, times.length ≤ r.clock.pending ∧ Sweeps p target times r ((advanceTo p target).run r) :=
  hl.runDue_sweeps p target le_rfl

/-- **Time passes up to a time**, and at most as many timers go off as were set. -/
theorem Linked.advance_sweeps (p : Page) (ms : Rat) (hl : r.Linked) :
    ∃ times, times.length ≤ r.clock.pending ∧ Sweeps p (r.clock.now + ms) times r ((advance p ms).run r) :=
  hl.advanceTo_sweeps p _

/-- Each timer that goes off is one less. -/
lemma Sweeps.fewer {target : Rat} {times : List Rat} {u : Unit} (h : Sweeps p target times r (.ok u, s)) :
    times.length + s.clock.timers.length ≤ r.clock.timers.length := by
  generalize hresult : ((.ok u, s) : Except Fault Unit × Recorder) = result at h
  induction h with
  | finished h =>
    cases hresult
    exact (Nat.zero_add _).le
  | failed h hr => cases hresult
  | @rung r s' t c times result h hr rest ih =>
    obtain ⟨ht, -⟩ := Clock.popDue?_eq_some h
    have hlt : (r.clock.ring t).timers.length < r.clock.timers.length := Clock.length_cancel_lt ht
    have hclock : s'.clock = r.clock.ring t := hr.clock
    have hle := ih hresult
    rw [hclock] at hle
    rw [List.length_cons]
    omega

/-! ### Until no timer is set -/

/-- The timer that is due first goes off by the time when it is due. -/
lemma Sweeps.ne_nil {target : Rat} {times : List Rat} (h : Sweeps p target times r result)
    (he : r.clock.earliest? = some t) (ht : t.due ≤ target) : times ≠ [] := by
  cases h with
  | finished h => simp [Clock.popDue?, he, ht] at h
  | failed | rung => exact List.cons_ne_nil _ _

/-- The bound does not end what happens until no timer is set. -/
lemma Linked.runTimers_runsOut (p : Page) (hl : r.Linked) {n : ℕ} (hn : r.clock.timers.length ≤ n) :
    ∃ times, times.length ≤ r.clock.timers.length ∧ RunsOut p times r ((runTimers p n).run r) := by
  induction n generalizing r with
  | zero => exact ⟨[], Nat.zero_le _, .finished (List.length_eq_zero_iff.1 (Nat.le_zero.1 hn))⟩
  | succ n ih =>
    unfold runTimers
    rw [Course.run_bind, Course.run_get]
    dsimp only
    cases he : r.clock.earliest? with
    | none => exact ⟨[], Nat.zero_le _, .finished (Clock.earliest?_eq_none.1 he)⟩
    | some t =>
      dsimp only
      obtain ⟨times, hlen, hsweeps⟩ := hl.advanceTo_sweeps p (max r.clock.now t.due)
      have hpath : Path anything r _ :=
        (advanceTo_runs p (max r.clock.now t.due)).leads hl (.inr (le_max_left _ _))
      rw [Course.run_bind]
      rcases hrun : (advanceTo p (max r.clock.now t.due)).run r with ⟨fault | u, s⟩ <;> rw [hrun] at hsweeps hpath
      · exact ⟨times, hlen, .failed he hsweeps⟩
      · have hsome := List.length_pos_of_ne_nil (hsweeps.ne_nil he (le_max_right _ _))
        have hfewer := hsweeps.fewer
        have hlinked : s.Linked := hpath.linked hl
        obtain ⟨more, hmore, hrest⟩ := ih hlinked (by omega)
        exact ⟨times ++ more, by rw [List.length_append]; omega, .swept he hsweeps hrest⟩

/-- **Time passes until no timer is set**, and at most as many timers go off as were set. -/
theorem Linked.runAll_runsOut (p : Page) (hl : r.Linked) :
    ∃ times, times.length ≤ r.clock.pending ∧ RunsOut p times r ((runAll p).run r) :=
  hl.runTimers_runsOut p le_rfl

/-! ### Time does not go back -/

/-- Timers go off in the order of time, at none that is past. -/
lemma Sweeps.sorted {target : Rat} {times : List Rat} (h : Sweeps p target times r result) :
    (r.clock.now :: times).Pairwise (· ≤ ·) ∧ ∀ time ∈ times, time ≤ target := by
  induction h with
  | finished h => simp
  | @failed r s t c fault h hr =>
    obtain ⟨-, -, hdue, -⟩ := Clock.popDue?_eq_some h
    simpa using ⟨hr.due, hdue⟩
  | @rung r s t c times result h hr rest ih =>
    obtain ⟨-, -, hdue, -⟩ := Clock.popDue?_eq_some h
    have hnow : s.clock.now = t.due := congrArg Clock.now hr.clock
    rw [hnow] at ih
    refine ⟨List.pairwise_cons.2 ⟨fun time htime => ?_, ih.1⟩, ?_⟩
    · rcases List.mem_cons.1 htime with rfl | htime
      · exact hr.due
      · exact hr.due.trans ((List.pairwise_cons.1 ih.1).1 time htime)
    · exact List.forall_mem_cons.2 ⟨hdue, ih.2⟩

/-- Unless one fails, it is that time in the end. -/
lemma Sweeps.now {target : Rat} {times : List Rat} {u : Unit} (h : Sweeps p target times r (.ok u, s)) :
    s.clock.now = target := by
  generalize hresult : ((.ok u, s) : Except Fault Unit × Recorder) = result at h
  induction h with
  | finished h =>
    cases hresult
    rfl
  | failed h hr => cases hresult
  | rung h hr rest ih => exact ih hresult

/-- Until no timer is set, timers go off in the order of time. -/
lemma RunsOut.sorted {times : List Rat} (h : RunsOut p times r result) : (r.clock.now :: times).Pairwise (· ≤ ·) := by
  induction h with
  | finished h => simp
  | failed h hs => exact hs.sorted.1
  | @swept r s t times more result h hs rest ih =>
    obtain ⟨hsorted, hle⟩ := hs.sorted
    rw [hs.now] at ih
    obtain ⟨hmore, hrest⟩ := List.pairwise_cons.1 ih
    rw [← List.cons_append, List.pairwise_append]
    refine ⟨hsorted, hrest, fun time htime later hlater => ?_⟩
    refine le_trans ?_ (hmore later hlater)
    rcases List.mem_cons.1 htime with rfl | htime
    · exact le_max_left _ _
    · exact hle time htime

end PageTape.Recorder
