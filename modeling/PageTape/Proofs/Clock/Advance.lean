import PageTape.Proofs.Clock.Split

/-!
# Advancing the clock

`advance` runs the timers that are due in order.  Their callbacks may set and cancel timers and may fail, but do not
advance the clock themselves (`State.Quiet`).

* `Changes` — what an event does to the timers and the time;
* `Swept` — the law of a clock that has been advanced: which timers have gone off, in which order and at which times, and
  what is left, also where a callback has failed.
-/

namespace PageTape.ClockProgram

/-! ### What an event does to the timers -/

/-- The timers that have gone off, in order. -/
def rung (ms : List Moment) : List (Timer Alarm) :=
  ms.filterMap fun m => match m.event with
    | .rings t _ => some t
    | _ => none

namespace Moment

/-- The numbers of the timers that are cancelled. -/
def cancelled (m : Moment) : List ℕ :=
  match m.event with
  | .performs (.cancel name) => (m.state.named.lookup name).toList
  | .performs (.schedule key _) | .performs (.drop key) | .flushes key _ =>
    ((m.state.debouncer.find? key).map (·.timer)).toList
  | .performs .dropAll => m.state.debouncer.waiting.map (·.timer)
  | _ => []

/-- What a timer is set for. -/
def set? (m : Moment) : Option Alarm :=
  match m.event with
  | .performs (.later _ _ callback) => some (.call callback)
  | .performs (.schedule key callback) => some (.wake key m.state.seen callback)
  | .rings t none => some t.alarm
  | _ => none

/-- The time afterwards. -/
def time (m : Moment) : Rat :=
  match m.event with
  | .rings t _ => t.due
  | .arrives target => target
  | _ => m.state.clock.now

end Moment

/-- The timers and the time after an event: a timer stays unless it goes off or is cancelled, and one that is set is not
due before. -/
structure Changes (m : Moment) (s' : State) : Prop where
  kept : ∀ t ∈ m.state.clock.timers, (t ∈ s'.clock.timers ↔ t.seq ∉ m.cancelled ∧ t ∉ rung [m])
  set : ∀ t ∈ s'.clock.timers, t ∉ m.state.clock.timers →
    m.state.clock.nextSeq ≤ t.seq ∧ m.time ≤ t.due ∧ m.set? = some t.alarm
  nextSeq : m.state.clock.nextSeq ≤ s'.clock.nextSeq
  now : s'.clock.now = m.time

variable {s s' : State} {e : Event} {t u : Timer Alarm} {c c' : Clock Alarm} {ms : List Moment} {m : Moment}

@[simp] lemma rung_snoc (ms : List Moment) (m : Moment) : rung (ms ++ [m]) = rung ms ++ rung [m] :=
  List.filterMap_append

/-- Timers have only gone. -/
lemma Changes.lost (hm : ∀ t, t ∈ s'.clock.timers ↔ t ∈ m.state.clock.timers ∧ t.seq ∉ m.cancelled ∧ t ∉ rung [m])
    (hn : s'.clock.nextSeq = m.state.clock.nextSeq) (ht : s'.clock.now = m.time) : Changes m s' where
  kept t hmem := (hm t).trans (and_iff_right hmem)
  set t hmem hnot := absurd ((hm t).1 hmem).1 hnot
  nextSeq := hn.ge
  now := ht

/-- Timers have gone, and one has been set. -/
lemma Changes.gained (hs : m.state.clock.Sound) {delay : Rat} {a : Alarm}
    (hm : ∀ t, t ∈ c.timers ↔ t ∈ m.state.clock.timers ∧ t.seq ∉ m.cancelled ∧ t ∉ rung [m])
    (hn : c.nextSeq = m.state.clock.nextSeq) (ht : c.now = m.time) (ha : m.set? = some a)
    (hc : s'.clock = (c.setTimer delay a).2) : Changes m s' where
  kept t hmem := by
    rw [hc, Clock.mem_setTimer, hm, and_iff_right hmem]
    refine or_iff_right ?_
    rintro rfl
    exact (hs.fresh _ hmem).ne hn
  set t hmem hnot := by
    rw [hc, Clock.mem_setTimer, hm] at hmem
    rcases hmem with rfl | hmem
    · refine ⟨hn.ge, ?_, ha⟩
      rw [← ht]
      show c.now ≤ c.now + _
      split <;> linarith
    · exact absurd hmem.1 hnot
  nextSeq := by
    rw [hc, ← hn]
    exact Nat.le_succ _
  now := by rw [hc, ← ht]; rfl

lemma Changes.congr {z : State} (h : Changes m z) (hc : s'.clock = z.clock) : Changes m s' :=
  ⟨hc ▸ h.kept, hc ▸ h.set, hc ▸ h.nextSeq, hc ▸ h.now⟩

lemma mem_cancelKey {d : Debouncer String Callback} {key : String} :
    t ∈ (d.cancel c key).2.timers ↔ t ∈ c.timers ∧ t.seq ∉ ((d.find? key).map (·.timer)).toList := by
  unfold Debouncer.cancel
  cases d.find? key <;> simp

lemma cancelKey_nextSeq (d : Debouncer String Callback) (c : Clock Alarm) (key : String) :
    (d.cancel c key).2.nextSeq = c.nextSeq := by
  unfold Debouncer.cancel
  cases d.find? key <;> rfl

/-- **What an event does to the timers and the time.** -/
theorem Step.changes (hs : Step s e s') (h : s.Sound) : Changes ⟨s, e⟩ s' := by
  have hsound : s.clock.Sound := Tidy.sound h
  have hring : ∀ {t tasks}, Ringing s t tasks → ∀ u, u ∈ (s.clock.ring t).timers ↔
      u ∈ s.clock.timers ∧ u.seq ∉ ([] : List ℕ) ∧ u ∉ [t] := by
    intro t tasks hr u
    rw [Clock.mem_ring]
    refine and_congr_right fun hu => ?_
    simp only [List.not_mem_nil, not_false_eq_true, true_and, List.mem_singleton]
    exact not_congr ⟨hsound.apart u hu t hr.mem, congrArg Timer.seq⟩
  have hall : ∀ u, u ∈ s.clock.timers ↔ u ∈ s.clock.timers ∧ u.seq ∉ ([] : List ℕ) ∧ u ∉ ([] : List (Timer Alarm)) := by
    simp
  cases hs with
  | performs c ht =>
    cases c with
    | later name delay cb => exact .gained (a := .call cb) hsound hall rfl rfl rfl rfl
    | schedule key cb =>
      refine .gained (a := .wake key s.seen cb) hsound (c := (s.debouncer.cancel s.clock key).2) (fun u => ?_)
        (cancelKey_nextSeq _ _ _) (s.debouncer.cancel_now s.clock key) rfl rfl
      rw [mem_cancelKey]
      exact and_congr_right fun _ => (and_iff_left List.not_mem_nil).symm
    | drop key =>
      refine .lost (fun u => ?_) (cancelKey_nextSeq _ _ _) (s.debouncer.cancel_now s.clock key)
      exact mem_cancelKey.trans (and_congr_right fun _ => (and_iff_left List.not_mem_nil).symm)
    | dropAll =>
      have hc : (s.debouncer.cancelAll s.clock).2.nextSeq = s.clock.nextSeq ∧
          (s.debouncer.cancelAll s.clock).2.now = s.clock.now :=
        List.foldlRecOn (motive := fun b : Clock Alarm => b.nextSeq = s.clock.nextSeq ∧ b.now = s.clock.now)
          s.debouncer.waiting _ ⟨rfl, rfl⟩ fun _ hb _ _ => hb
      refine .lost (fun u => ?_) hc.1 hc.2
      refine Debouncer.mem_cancelAll.trans (and_congr_right fun _ => ?_)
      simp [Moment.cancelled, rung, eq_comm]
    | cancel name =>
      unfold State.perform
      dsimp only
      cases hl : s.named.lookup name with
      | none =>
        refine .lost (fun u => ?_) rfl rfl
        simp [Moment.cancelled, hl, rung]
      | some n =>
        refine .lost (fun u => ?_) rfl rfl
        simp [Moment.cancelled, hl, rung]
    | advance | runAll | flush | flushAll | isPending | skew | fail => exact .lost hall rfl rfl
  | @flushes key keys rest w ht hw =>
    refine Changes.congr (z := { s with clock := s.clock.cancel w.timer }) (.lost (fun u => ?_) rfl rfl)
      (call_clock _ _)
    simp [Moment.cancelled, hw, rung]
  | @skips key keys rest ht hw =>
    refine .lost (fun u => ?_) rfl rfl
    simp [Moment.cancelled, hw, rung]
  | @calls t tasks cb hr ha =>
    exact Changes.congr (z := { s with clock := s.clock.ring t }) (.lost (hring hr) rfl rfl) (call_clock _ _)
  | @wakes t tasks key since cb hr ha hp =>
    exact Changes.congr (z := { s with clock := s.clock.ring t }) (.lost (hring hr) rfl rfl) (call_clock _ _)
  | renews hr ha hp => exact .gained hsound (hring hr) rfl rfl rfl rfl
  | arrives | flushed | ranAll => exact .lost hall rfl rfl

/-! ### What becomes of a timer -/

/-- A timer is on the clock at some point. -/
def Seen (ms : List Moment) (s : State) (t : Timer Alarm) : Prop :=
  t ∈ s.clock.timers ∨ ∃ m ∈ ms, t ∈ m.state.clock.timers

/-- A timer is cancelled while it is on the clock. -/
def Cancelled (ms : List Moment) (t : Timer Alarm) : Prop :=
  ∃ m ∈ ms, t ∈ m.state.clock.timers ∧ t.seq ∈ m.cancelled

/-- Every timer that has been on the clock is there still, or has gone off, or was cancelled, and only one of these. -/
structure Accounted (ms : List Moment) (s : State) : Prop where
  fresh : ∀ t, Seen ms s t → t.seq < s.clock.nextSeq
  seen : ∀ t ∈ rung ms, Seen ms s t
  rungGone : ∀ t ∈ rung ms, t ∉ s.clock.timers
  cancelledGone : ∀ t, Cancelled ms t → t ∉ s.clock.timers
  apart : ∀ t ∈ rung ms, ¬ Cancelled ms t
  queued : ∀ t, Seen ms s t → t ∈ s.clock.timers ∨ t ∈ rung ms ∨ Cancelled ms t

lemma mem_rung_single (h : t ∈ rung [m]) : ∃ called, m.event = .rings t called := by
  unfold rung at h
  cases he : m.event with
  | rings u called =>
    obtain rfl : t = u := by simpa [he] using h
    exact ⟨called, rfl⟩
  | performs | flushes | arrives | ends => simp [he] at h

/-- The timer that goes off is on the clock, and none is ahead of it. -/
lemma Step.ringing {called : Option Callback} (hs : Step s (.rings t called) s') : ∃ tasks, Ringing s t tasks := by
  cases hs with
  | calls hr | wakes hr | renews hr => exact ⟨_, hr⟩

lemma Cancelled.snoc (h : Cancelled (ms ++ [m]) t) :
    Cancelled ms t ∨ t ∈ m.state.clock.timers ∧ t.seq ∈ m.cancelled := by
  obtain ⟨x, hx, h⟩ := h
  rcases List.mem_append.1 hx with hx | hx
  · exact .inl ⟨x, hx, h⟩
  · exact .inr (List.mem_singleton.1 hx ▸ h)

namespace Accounted

lemma start (h : s.Sound) : Accounted [] s where
  fresh t ht := by
    rcases ht with ht | ⟨m, hm, -⟩
    · exact (Tidy.sound h).fresh t ht
    · cases hm
  seen := nofun
  rungGone := nofun
  cancelledGone := by
    rintro t ⟨m, hm, -⟩
    cases hm
  apart := nofun
  queued t ht := ht.imp_right fun ⟨m, hm, _⟩ => nomatch hm

lemma snoc (h : Accounted ms s) (hsound : s.Sound) (hs : Step s e s') : Accounted (ms ++ [⟨s, e⟩]) s' := by
  have hc := hs.changes hsound
  -- a timer that has gone does not come back, since its number is not given again
  have hnew : ∀ t, t.seq < s.clock.nextSeq → t ∉ s.clock.timers → t ∉ s'.clock.timers :=
    fun t hlt hnot ht => absurd (hc.set t ht hnot).1 hlt.not_ge
  have hgone : ∀ t, t ∈ rung [⟨s, e⟩] → t ∈ s.clock.timers ∧ t ∉ s'.clock.timers := by
    intro t ht
    obtain ⟨called, he⟩ := mem_rung_single ht
    obtain rfl : e = .rings t called := he
    obtain ⟨tasks, hr⟩ := hs.ringing
    exact ⟨hr.mem, fun ht' => ((hc.kept t hr.mem).1 ht').2 ht⟩
  have hseen : ∀ t, Seen (ms ++ [⟨s, e⟩]) s' t → t ∈ s'.clock.timers ∨ Seen ms s t := by
    rintro t (ht | ⟨m, hm, ht⟩)
    · exact .inl ht
    · rcases List.mem_append.1 hm with hm | hm
      · exact .inr (.inr ⟨m, hm, ht⟩)
      · obtain rfl := List.mem_singleton.1 hm
        exact .inr (.inl ht)
  have hseen' : ∀ t, Seen ms s t → Seen (ms ++ [⟨s, e⟩]) s' t := by
    rintro t (ht | ⟨m, hm, ht⟩)
    · exact .inr ⟨_, List.mem_append_right _ List.mem_cons_self, ht⟩
    · exact .inr ⟨m, List.mem_append_left _ hm, ht⟩
  refine ⟨fun t ht => ?_, fun t ht => ?_, fun t ht => ?_, fun t ht => ?_, fun t ht hcan => ?_, fun t ht => ?_⟩
  · rcases hseen t ht with ht | ht
    · exact (Tidy.sound (hs.sound hsound)).fresh t ht
    · exact (h.fresh t ht).trans_le hc.nextSeq
  · rw [rung_snoc] at ht
    rcases List.mem_append.1 ht with ht | ht
    · exact hseen' t (h.seen t ht)
    · exact hseen' t (.inl (hgone t ht).1)
  · rw [rung_snoc] at ht
    rcases List.mem_append.1 ht with ht | ht
    · exact hnew t (h.fresh t (h.seen t ht)) (h.rungGone t ht)
    · exact (hgone t ht).2
  · rcases ht.snoc with ht | ⟨hmem, hcan⟩
    · obtain ⟨m, hm, hmem, -⟩ := id ht
      exact hnew t (h.fresh t (.inr ⟨m, hm, hmem⟩)) (h.cancelledGone t ht)
    · exact fun ht' => ((hc.kept t hmem).1 ht').1 hcan
  · rw [rung_snoc] at ht
    rcases List.mem_append.1 ht with ht | ht
    · rcases hcan.snoc with hcan | ⟨hmem, -⟩
      · exact h.apart t ht hcan
      · exact h.rungGone t ht hmem
    · rcases hcan.snoc with hcan | ⟨-, hcan⟩
      · exact h.cancelledGone t hcan (hgone t ht).1
      · obtain ⟨called, he⟩ := mem_rung_single ht
        simp only at he
        simp [Moment.cancelled, he] at hcan
  · rw [rung_snoc, List.mem_append]
    rcases hseen t ht with ht | ht
    · exact .inl ht
    · rcases h.queued t ht with ht | ht | ⟨m, hm, ht⟩
      · by_cases hcan : t.seq ∈ (Moment.mk s e).cancelled
        · exact .inr (.inr ⟨_, List.mem_append_right _ List.mem_cons_self, ht, hcan⟩)
        · by_cases hr : t ∈ rung [⟨s, e⟩]
          · exact .inr (.inl (.inr hr))
          · exact .inl ((hc.kept t ht).2 ⟨hcan, hr⟩)
      · exact .inr (.inl (.inl ht))
      · exact .inr (.inr ⟨m, List.mem_append_left _ hm, ht⟩)

end Accounted

/-! ### Callbacks that leave the clock alone -/

mutual
/-- A command does not advance the clock, nor do those of its callback. -/
def Command.quiet : Command → Bool
  | .later _ _ callback | .schedule _ callback => callback.quiet
  | .advance _ | .runAll => false
  | .cancel _ | .drop _ | .dropAll | .flush _ | .flushAll | .isPending _ | .skew _ | .fail _ => true

/-- A callback does not advance the clock. -/
def Callback.quiet : Callback → Bool
  | .calling _ commands => allQuiet commands

/-- No command of a list advances the clock. -/
def allQuiet : List Command → Bool
  | [] => true
  | c :: rest => c.quiet && allQuiet rest
end

/-- A task does not advance the clock. -/
def Task.quiet : Task → Bool
  | .perform c => c.quiet
  | .flush _ => true
  | .advance _ | .runAll => false

/-- What a timer calls. -/
def Alarm.callback : Alarm → Callback
  | .call callback | .wake _ _ callback => callback

/-- No timer has a callback that advances the clock. -/
def State.Quiet (s : State) : Prop := ∀ t ∈ s.clock.timers, t.alarm.callback.quiet = true

lemma allQuiet_iff {cs : List Command} : allQuiet cs = true ↔ ∀ c ∈ cs, c.quiet = true := by
  induction cs with
  | nil => simp [allQuiet]
  | cons c cs ih => simp [allQuiet, ih]

/-- A callback that leaves the clock alone leaves only such tasks. -/
lemma call_quiet {cb : Callback} (hcb : cb.quiet = true) (hs : ∀ task ∈ s.tasks, task.quiet = true) :
    ∀ task ∈ (s.call cb).tasks, task.quiet = true := by
  cases cb with
  | calling name commands =>
    intro task ht
    rcases List.mem_append.1 ht with ht | ht
    · obtain ⟨c, hc, rfl⟩ := List.mem_map.1 ht
      exact allQuiet_iff.1 hcb c hc
    · exact hs task ht

lemma perform_quiet {c : Command} (hc : c.quiet = true) (hs : ∀ task ∈ s.tasks, task.quiet = true) :
    ∀ task ∈ (s.perform c).tasks, task.quiet = true := by
  cases c with
  | advance | runAll => cases hc
  | cancel name =>
    simp only [State.perform]
    split <;> exact hs
  | flush | flushAll => exact List.forall_mem_cons.2 ⟨rfl, hs⟩
  | later | schedule | drop | dropAll | isPending | skew => exact hs
  | fail message => exact fun _ ht => by cases ht

/-- Quiet timers stay quiet where no command advances the clock. -/
lemma Step.quiet (hs : Step s e s') (h : s.Sound) (hq : s.Quiet) (hc : ∀ c, e = .performs c → c.quiet = true) :
    s'.Quiet := by
  intro t hmem
  by_cases hold : t ∈ s.clock.timers
  · exact hq t hold
  · have hset := ((hs.changes h).set t hmem hold).2.2
    cases hs with
    | performs c htasks =>
      have hcq := hc c rfl
      cases c with
      | later | schedule =>
        rw [← Option.some.inj hset]
        exact hcq
      | cancel | advance | runAll | drop | dropAll | flush | flushAll | isPending | skew | fail => cases hset
    | renews hr ha hp =>
      rw [← Option.some.inj hset]
      exact hq _ hr.mem
    | flushes | skips | calls | wakes | arrives | flushed | ranAll => cases hset

/-- Quiet tasks leave quiet tasks, and meanwhile no timer goes off. -/
lemma Step.quiet_tasks (hs : Step s e s') (h : s.Sound) (hq : s.Quiet) (ht : ∀ task ∈ s.tasks, task.quiet = true) :
    s'.Quiet ∧ (∀ task ∈ s'.tasks, task.quiet = true) ∧ (∀ t called, e ≠ .rings t called) ∧
      ∀ target, e ≠ .arrives target := by
  have hhead : ∀ {task rest}, s.tasks = task :: rest → task.quiet = true ∧ ∀ task ∈ rest, task.quiet = true := by
    intro task rest h
    rw [h] at ht
    exact List.forall_mem_cons.1 ht
  refine ⟨hs.quiet h hq ?_, ?_⟩
  · rintro c rfl
    cases hs with
    | performs c h => exact (hhead h).1
  · cases hs with
    | performs c h => exact ⟨perform_quiet (hhead h).1 (hhead h).2, nofun, nofun⟩
    | flushes hk hw =>
      refine ⟨call_quiet ?_ (List.forall_mem_cons.2 ⟨rfl, (hhead hk).2⟩), nofun, nofun⟩
      obtain ⟨t, hm, -, ha⟩ := Tidy.exists_timer h (Debouncer.mem_of_find? hw).1
      have := hq t hm
      rwa [ha] at this
    | skips hk hw => exact ⟨List.forall_mem_cons.2 ⟨rfl, (hhead hk).2⟩, nofun, nofun⟩
    | flushed hk => exact ⟨(hhead hk).2, nofun, nofun⟩
    | calls hr | wakes hr | renews hr =>
      obtain ⟨-, -, ⟨_, _, hk, -⟩ | ⟨_, hk, -⟩⟩ := hr <;> cases (hhead hk).1
    | arrives hk | ranAll hk => cases (hhead hk).1

/-! ### What is noted -/

/-- The name under which a callback is noted. -/
def Callback.name : Callback → String
  | .calling name _ => name

lemma call_log (s : State) (cb : Callback) : (s.call cb).log = (cb.name, s.clock.now) :: s.log := by
  cases cb with
  | calling name commands => rfl

lemma perform_log (s : State) (c : Command) : (s.perform c).log = s.log := by
  cases c with
  | cancel name =>
    simp only [State.perform]
    split <;> rfl
  | later | advance | runAll | schedule | drop | dropAll | flush | flushAll | isPending | skew | fail => rfl

/-- What has been noted stays noted, and so is the callback of a timer that goes off, at its due time. -/
lemma Step.log (hs : Step s e s') : (∀ entry ∈ s.log, entry ∈ s'.log) ∧
    ∀ t cb, e = .rings t (some cb) → (cb.name, t.due) ∈ s'.log := by
  cases hs with
  | performs c =>
    rw [perform_log]
    exact ⟨fun _ h => h, nofun⟩
  | flushes =>
    rw [call_log]
    exact ⟨fun _ h => List.mem_cons_of_mem _ h, nofun⟩
  | calls | wakes =>
    rw [call_log]
    refine ⟨fun _ h => List.mem_cons_of_mem _ h, ?_⟩
    rintro t cb ⟨⟩
    exact List.mem_cons_self
  | skips | renews | arrives | flushed | ranAll => exact ⟨fun _ h => h, nofun⟩

/-! ### A clock that is advanced -/

/-- An alarm leaves quiet tasks. -/
lemma goOff_quiet {a : Alarm} (ha : a.callback.quiet = true) (ht : s.tasks = []) :
    ∀ task ∈ (s.goOff a).tasks, task.quiet = true := by
  have hnil : ∀ {s : State}, s.tasks = [] → ∀ task ∈ s.tasks, task.quiet = true := fun h => h ▸ nofun
  cases a with
  | call cb => exact call_quiet ha (hnil ht)
  | wake key since cb =>
    unfold State.goOff State.ring
    dsimp only
    split
    · exact call_quiet ha (hnil ht)
    · exact hnil ht

/-- How far a clock is that is advanced to a time: it is to be, or it is on its way while something else may be done
before, or it has not come so far for a failure, or it has arrived.  Unless a timer has gone off, nothing else is to be
done and nothing has failed. -/
inductive Stage (target : Rat) (rang : Prop) : State → Prop
  | asked {s : State} (hf : s.failure = none) (ht : s.tasks = [.perform (.advance (target - s.clock.now))]) :
    Stage target rang s
  | onWay {s : State} (hf : s.failure = none) (ht : ∀ task ∈ s.tasks, task.quiet = true) (hr : s.tasks ≠ [] → rang) :
    Stage target rang (s.over [.advance target])
  | failed {s : State} (hf : s.failure ≠ none) (ht : s.tasks = []) (hr : rang) : Stage target rang s
  | arrived {s : State} (hf : s.failure = none) (ht : s.tasks = []) (hn : s.clock.now = target)
    (hd : ∀ u ∈ s.clock.timers, target < u.due) : Stage target rang s

lemma Stage.mono {target : Rat} {p q : Prop} (h : Stage target p s) (hpq : p → q) : Stage target q s := by
  cases h with
  | asked hf ht => exact .asked hf ht
  | onWay hf ht hr => exact .onWay hf ht fun hne => hpq (hr hne)
  | failed hf ht hr => exact .failed hf ht (hpq hr)
  | arrived hf ht hn hd => exact .arrived hf ht hn hd

/-- What happens next on the way: nothing that concerns the time, or a timer goes off that is due, or the clock
arrives. -/
lemma Stage.next {target : Rat} {rang : Prop} (hstage : Stage target rang s) (h : s.Sound) (hq : s.Quiet)
    (hs : s.step? = some (e, s')) : s'.Quiet ∧
    ((Moment.mk s e).time = s.clock.now ∧ rung [⟨s, e⟩] = [] ∧ Stage target rang s' ∧
        (s'.tasks ≠ [] ∨ s'.failure ≠ none) ∨
      (∃ t called, e = .rings t called ∧ t.due ≤ target ∧ Stage target True s' ∧
        (s'.tasks ≠ [] ∨ s'.failure ≠ none)) ∨
      e = .arrives target ∧ s'.failure = none ∧ s'.tasks = [] ∧ s'.clock.now = target ∧
        ∀ u ∈ s'.clock.timers, target < u.due) := by
  cases hstage with
  | asked hf ht =>
    have hs' : s.step? = some (.performs (.advance (target - s.clock.now)),
        ({ s with tasks := [] } : State).over [.advance target]) := by
      rw [over_of_none (s := { s with tasks := [] }) hf]
      simp only [State.step?, ht, State.perform, State.todo, List.nil_append, add_sub_cancel]
    obtain ⟨rfl, rfl⟩ : _ ∧ _ := by simpa using hs'.symm.trans hs
    refine ⟨?_, .inl ⟨rfl, rfl, ?_, .inl (over_tasks_ne_nil hf (List.cons_ne_nil _ _))⟩⟩
    · intro t hmem
      rw [over_clock] at hmem
      exact hq t hmem
    · exact .onWay hf (fun _ ht => by cases ht) fun hne => absurd rfl hne
  | @onWay z hf ht hr =>
    rw [over_clock]
    have hz : z.Sound := over_sound.1 h
    have hzq : z.Quiet := by
      intro t hmem
      exact hq t (by rwa [over_clock])
    by_cases hne : z.tasks = []
    · -- a timer goes off, or the clock arrives
      have hstep := step?_eq_some hs
      rw [step?_advance hf hne] at hs
      cases hp : z.clock.popDue? target with
      | none =>
        rw [hp] at hs
        obtain ⟨rfl, rfl⟩ : _ ∧ _ := by simpa using hs
        exact ⟨hzq, .inr (.inr ⟨rfl, hf, hne, rfl, Clock.popDue?_eq_none hp⟩)⟩
      | some p =>
        obtain ⟨t, clock⟩ := p
        obtain ⟨hmem, hfirst, hd, rfl⟩ := Clock.popDue?_eq_some hp
        rw [hp] at hs
        obtain ⟨rfl, rfl⟩ : _ ∧ _ := by simpa using hs
        have htasks := goOff_quiet (s := { z with clock := z.clock.ring t }) (hzq t hmem) hne
        refine ⟨hstep.quiet h hq (fun _ hc => by cases hc), .inr (.inl ⟨t, _, rfl, hd, ?_⟩)⟩
        have hf' := (goOff_failure { z with clock := z.clock.ring t } t.alarm).trans hf
        exact ⟨.onWay hf' htasks fun _ => trivial, .inl (over_tasks_ne_nil hf' (List.cons_ne_nil _ _))⟩
    · -- something else is done before
      rw [step?_over hf hne] at hs
      obtain ⟨⟨e', z'⟩, hz', hs⟩ := Option.map_eq_some_iff.1 hs
      obtain ⟨rfl, rfl⟩ : e' = e ∧ z'.over _ = s' := by simpa using hs
      have hstep := step?_eq_some hz'
      obtain ⟨hq', ht', hring, harr⟩ := hstep.quiet_tasks hz hzq ht
      refine ⟨fun t hmem => hq' t (by rwa [over_clock] at hmem), .inl ⟨?_, ?_, ?_⟩⟩
      · cases e' with
        | rings t called => exact absurd rfl (hring t called)
        | arrives target => exact absurd rfl (harr target)
        | performs | flushes | ends => exact over_clock z _ ▸ rfl
      · cases e' with
        | rings t called => exact absurd rfl (hring t called)
        | performs | flushes | ends | arrives => rfl
      · rcases hstep.failure with hf' | ⟨hn, hf'⟩
        · exact ⟨.onWay (hf'.trans hf) ht' fun _ => hr hne,
            .inl (over_tasks_ne_nil (hf'.trans hf) (List.cons_ne_nil _ _))⟩
        · rw [over_of_failure hf']
          exact ⟨.failed hf' hn (hr hne), .inr hf'⟩
  | failed hf ht => rw [step?_eq_none.2 ht] at hs; cases hs
  | arrived hf ht => rw [step?_eq_none.2 ht] at hs; cases hs

/-- What happens as a clock is advanced to a time, also where that fails and is taken up again. -/
inductive Sweep (target : Rat) (s₀ : State) : List Moment → State → Prop
  | order : Sweep target s₀ [] (s₀.order (.advance (target - s₀.clock.now)))
  | snoc {ms : List Moment} {s s' : State} {e : Event} (h : Sweep target s₀ ms s) (hs : s.step? = some (e, s')) :
    Sweep target s₀ (ms ++ [⟨s, e⟩]) s'
  | again {ms : List Moment} {s : State} (h : Sweep target s₀ ms s) (hf : s.failure ≠ none) :
    Sweep target s₀ ms (s.order (.advance (target - s.clock.now)))

/-- What holds at every moment as a clock is advanced. -/
structure Sweep.Law (target : Rat) (ms : List Moment) (s : State) : Prop where
  sound : s.Sound
  quiet : s.Quiet
  stage : Stage target (rung ms ≠ []) s
  accounted : Accounted ms s
  early : s.clock.now ≤ target
  ordered : (rung ms).Pairwise fun t u => t.before u = true
  past : ∀ t ∈ rung ms, t.due ≤ s.clock.now ∧ ∀ u ∈ s.clock.timers, t.before u = true
  last : s.tasks ≠ [] ∨ s.failure ≠ none → ∀ t ∈ (rung ms).getLast?, s.clock.now = t.due
  onTime : ∀ a m b, ms = a ++ m :: b → ∀ t ∈ (rung a).getLast?, m.state.clock.now = t.due
  noted : ∀ m ∈ ms, ∀ t cb, m.event = .rings t (some cb) → (cb.name, t.due) ∈ s.log

variable {s₀ : State} {target : Rat}

lemma Sweep.Law.order (hs : s.Sound) (hq : s.Quiet) (hn : s.clock.now ≤ target) :
    Sweep.Law target [] (s.order (.advance (target - s.clock.now))) where
  sound := hs.order _
  quiet := hq
  stage := .asked rfl rfl
  accounted := .start (hs.order _)
  early := hn
  ordered := .nil
  past _ ht := absurd ht List.not_mem_nil
  last _ _ ht := absurd ht (Option.not_mem_none _)
  onTime a m b h := by simp at h
  noted _ hm := absurd hm List.not_mem_nil

lemma Sweep.Law.again (h : Sweep.Law target ms s) (hf : s.failure ≠ none) :
    Sweep.Law target ms (s.order (.advance (target - s.clock.now))) where
  sound := h.sound
  quiet := h.quiet
  stage := .asked rfl rfl
  accounted := ⟨h.accounted.fresh, h.accounted.seen, h.accounted.rungGone, h.accounted.cancelledGone,
    h.accounted.apart, h.accounted.queued⟩
  early := h.early
  ordered := h.ordered
  past := h.past
  last _ := h.last (.inr hf)
  onTime := h.onTime
  noted := h.noted

/-- A timer that has gone off comes before those that are still on the clock, and so before the ones that are set. -/
lemma before_of_changes (hc : Changes m s') (hd : t.due ≤ m.time) (hn : t.seq < m.state.clock.nextSeq)
    (hold : ∀ u ∈ m.state.clock.timers, u ∈ s'.clock.timers → t.before u = true) :
    ∀ u ∈ s'.clock.timers, t.before u = true := by
  intro u hu
  by_cases hmem : u ∈ m.state.clock.timers
  · exact hold u hmem hu
  · obtain ⟨hseq, hdue, -⟩ := hc.set u hu hmem
    exact Timer.before_iff.2 ((hd.trans hdue).lt_or_eq.imp_right fun e => ⟨e, hn.trans_le hseq⟩)

namespace Sweep.Law

lemma onTime_snoc (h : Sweep.Law target ms s) (hbusy : s.tasks ≠ []) (e : Event) :
    ∀ a m b, ms ++ [⟨s, e⟩] = a ++ m :: b → ∀ t ∈ (rung a).getLast?, m.state.clock.now = t.due := by
  intro a m b hab
  rcases List.eq_nil_or_concat b with rfl | ⟨b, x, rfl⟩
  · obtain ⟨rfl, rfl⟩ : ms = a ∧ ⟨s, e⟩ = m := by simpa using hab
    exact h.last (.inl hbusy)
  · rw [List.concat_eq_append, ← List.cons_append, ← List.append_assoc] at hab
    exact h.onTime a m b (List.append_inj_left' hab rfl)

lemma noted_snoc (h : Sweep.Law target ms s) (hstep : Step s e s') :
    ∀ m ∈ ms ++ [⟨s, e⟩], ∀ t cb, m.event = .rings t (some cb) → (cb.name, t.due) ∈ s'.log := by
  intro m hm t cb he
  rcases List.mem_append.1 hm with hm | hm
  · exact hstep.log.1 _ (h.noted m hm t cb he)
  · obtain rfl := List.mem_singleton.1 hm
    exact hstep.log.2 t cb he

/-- A timer that had gone off before stays before the others while time does not go back. -/
lemma past_next (h : Sweep.Law target ms s) (hc : Changes ⟨s, e⟩ s') (hle : s.clock.now ≤ (Moment.mk s e).time) :
    ∀ t ∈ rung ms, t.due ≤ s'.clock.now ∧ ∀ u ∈ s'.clock.timers, t.before u = true := by
  intro t ht
  obtain ⟨hd, hb⟩ := h.past t ht
  have hseq : t.seq < s.clock.nextSeq := h.accounted.fresh t (h.accounted.seen t ht)
  exact ⟨hc.now ▸ hd.trans hle, before_of_changes hc (hd.trans hle) hseq fun u hu _ => hb u hu⟩

/-- The timer that goes off is before all that are left. -/
lemma before_left {called : Option Callback} {tasks : List Task} (h : s.Sound) (hring : Ringing s t tasks)
    (hc : Changes ⟨s, .rings t called⟩ s') : ∀ u ∈ s'.clock.timers, t.before u = true := by
  refine before_of_changes hc le_rfl ((Tidy.sound h).fresh t hring.mem) fun u hu hleft => ?_
  refine (hring.first u hu).before fun hsame => ?_
  obtain rfl := (Tidy.sound h).apart t hring.mem u hu hsame
  exact ((hc.kept t hu).1 hleft).2 (by simp [rung])

lemma snoc (h : Sweep.Law target ms s) (hs : s.step? = some (e, s')) : Sweep.Law target (ms ++ [⟨s, e⟩]) s' := by
  have hstep := step?_eq_some hs
  have hc := hstep.changes h.sound
  obtain ⟨hq', hnext⟩ := h.stage.next h.sound h.quiet hs
  have hacc := h.accounted.snoc h.sound hstep
  have hbusy : s.tasks ≠ [] := fun ht => by
    rw [step?_eq_none.2 ht] at hs
    cases hs
  have honTime := h.onTime_snoc hbusy e
  have hnoted := h.noted_snoc hstep
  rcases hnext with ⟨ht, hr, hstage, -⟩ | ⟨t, called, rfl, hd, hstage, -⟩ | ⟨rfl, hf, hn, hnow, hdue⟩
  · have hrung : rung (ms ++ [⟨s, e⟩]) = rung ms := by rw [rung_snoc, hr, List.append_nil]
    refine ⟨hstep.sound h.sound, hq', ?_, hacc, ?_, ?_, ?_, fun _ => ?_, honTime, hnoted⟩
    · rwa [hrung]
    · rw [hc.now, ht]
      exact h.early
    · rw [hrung]
      exact h.ordered
    · rw [hrung]
      exact h.past_next hc ht.ge
    · rw [hrung, hc.now, ht]
      exact h.last (.inl hbusy)
  · obtain ⟨tasks, hring⟩ := hstep.ringing
    have hrung : rung (ms ++ [⟨s, .rings t called⟩]) = rung ms ++ [t] := rung_snoc _ _
    have hnow : s'.clock.now = t.due := hc.now
    have hlater : s.clock.now ≤ t.due := (Tidy.sound h.sound).ahead t hring.mem
    refine ⟨hstep.sound h.sound, hq', ?_, hacc, ?_, ?_, ?_, fun _ => ?_, honTime, hnoted⟩
    · rw [hrung]
      exact hstage.mono fun _ => by simp
    · exact hnow.trans_le hd
    · rw [hrung]
      refine List.pairwise_append.2 ⟨h.ordered, List.pairwise_singleton _ _, fun u hu v hv => ?_⟩
      obtain rfl := List.mem_singleton.1 hv
      exact (h.past u hu).2 v hring.mem
    · rw [hrung]
      intro u hu
      rcases List.mem_append.1 hu with hu | hu
      · exact h.past_next hc hlater u hu
      · obtain rfl := List.mem_singleton.1 hu
        exact ⟨hnow.ge, before_left h.sound hring hc⟩
    · rw [hrung, List.getLast?_concat]
      rintro u ⟨⟩
      exact hnow
  · have hrung : rung (ms ++ [⟨s, .arrives target⟩]) = rung ms := (rung_snoc _ _).trans (List.append_nil _)
    refine ⟨hstep.sound h.sound, hq', .arrived hf hn hnow hdue, hacc, hnow.le, ?_, ?_, ?_, honTime, hnoted⟩
    · rw [hrung]
      exact h.ordered
    · rw [hrung]
      exact h.past_next hc h.early
    · rintro (hne | hne)
      · exact absurd hn hne
      · exact absurd hf hne

end Sweep.Law

lemma Sweep.law (h : Sweep target s₀ ms s) (hs : s₀.Sound) (hq : s₀.Quiet) (hn : s₀.clock.now ≤ target) :
    Sweep.Law target ms s := by
  induction h with
  | order => exact .order hs hq hn
  | snoc _ hstep ih => exact ih.snoc hstep
  | again _ hf ih => exact ih.again hf

lemma Sweep.after (h : Sweep target s₀ ms s) (n : ℕ) : Sweep target s₀ (ms ++ s.moments n) (s.after n) := by
  induction n generalizing ms s with
  | zero => simpa [State.moments, State.after] using h
  | succ n ih =>
    unfold State.moments State.after
    cases hs : s.step? with
    | none => simpa using h
    | some p => simpa using ih (h.snoc hs)

/-- The law of a clock that has been advanced to a time.  Timers have gone off in order, each once, and the time was the
due time of the last of them at every moment until the next one, and when its callback was noted; they are the timers that
are due, at whatever point they were set, and are not cancelled.  Where nothing has failed, the clock has arrived and no
timer is due; else it stands at the due time of the last timer, and every other one is still on it. -/
structure Swept (target : Rat) (ms : List Moment) (s : State) : Prop where
  ordered : (rung ms).Pairwise fun t u => t.before u = true
  onTime : ∀ a m b, ms = a ++ m :: b → ∀ t ∈ (rung a).getLast?, m.state.clock.now = t.due
  noted : ∀ m ∈ ms, ∀ t cb, m.event = .rings t (some cb) → (cb.name, t.due) ∈ s.log
  due : ∀ t ∈ rung ms, Seen ms s t ∧ t.due ≤ target ∧ ¬ Cancelled ms t
  queued : ∀ t, Seen ms s t → ¬ Cancelled ms t → t ∉ rung ms → t ∈ s.clock.timers
  arrived : s.failure = none → s.clock.now = target ∧ (∀ t ∈ s.clock.timers, target < t.due) ∧
    ∀ t, t ∈ rung ms ↔ Seen ms s t ∧ t.due ≤ target ∧ ¬ Cancelled ms t
  failed : s.failure ≠ none → s.clock.now ≤ target ∧ ∃ t, (rung ms).getLast? = some t ∧ s.clock.now = t.due

lemma Sweep.Law.swept (h : Sweep.Law target ms s) (ht : s.tasks = []) : Swept target ms s where
  ordered := h.ordered
  onTime := h.onTime
  noted := h.noted
  due t hr := ⟨h.accounted.seen t hr, (h.past t hr).1.trans h.early, h.accounted.apart t hr⟩
  queued t hs hc hr := (h.accounted.queued t hs).resolve_right fun h => h.elim hr hc
  arrived hf := by
    have hstage := h.stage
    cases hstage with
    | asked _ htasks => rw [ht] at htasks; cases htasks
    | onWay hz => exact absurd ht (over_tasks_ne_nil hz nofun)
    | failed hf' => exact absurd hf hf'
    | arrived _ _ hn hd =>
      refine ⟨hn, hd, fun t => ⟨fun hr => ?_, fun ⟨hs, hle, hc⟩ => ?_⟩⟩
      · exact ⟨h.accounted.seen t hr, (h.past t hr).1.trans h.early, h.accounted.apart t hr⟩
      · rcases h.accounted.queued t hs with hq | hr | hc'
        · exact absurd hle (hd t hq).not_ge
        · exact hr
        · exact absurd hc' hc
  failed hf := by
    refine ⟨h.early, ?_⟩
    have hstage := h.stage
    cases hstage with
    | asked hf' => exact absurd hf' hf
    | onWay hz => exact absurd ht (over_tasks_ne_nil hz nofun)
    | failed _ _ hr =>
      have hlast := List.getLast?_eq_some_getLast hr
      exact ⟨_, hlast, h.last (.inr hf) _ hlast⟩
    | arrived hf' => exact absurd hf' hf

/-- **A clock that is advanced runs what is due**, also where it takes up what a failure has left. -/
theorem obey_advance_swept (hs : s.Sound) (hq : s.Quiet) {ms : Rat} (hm : 0 ≤ ms) :
    Swept (s.clock.now + ms) (s.story (.advance ms)) (s.obey (.advance ms)) ∧
    ((s.obey (.advance ms)).failure ≠ none → ∀ rest, rest = s.clock.now + ms - (s.obey (.advance ms)).clock.now →
      Swept (s.clock.now + ms) (s.story (.advance ms) ++ (s.obey (.advance ms)).story (.advance rest))
        ((s.obey (.advance ms)).obey (.advance rest))) := by
  have hle : s.clock.now ≤ s.clock.now + ms := le_add_of_nonneg_right hm
  have horder : Sweep (s.clock.now + ms) s [] (s.order (.advance ms)) := by
    have horder : Sweep (s.clock.now + ms) s [] (s.order (.advance (s.clock.now + ms - s.clock.now))) := .order
    rwa [add_sub_cancel_left] at horder
  have hsweep : Sweep (s.clock.now + ms) s (s.story (.advance ms)) (s.obey (.advance ms)) := horder.after _
  have hlaw := hsweep.law hs hq hle
  refine ⟨hlaw.swept (obey_rests hs _), ?_⟩
  rintro hf rest rfl
  exact (((hsweep.again hf).after _).law hs hq hle).swept (obey_rests hlaw.sound _)

end PageTape.ClockProgram
