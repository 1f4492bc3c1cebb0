import PageTape.Proofs.Clock.Debounce
import Mathlib.Algebra.Order.BigOperators.Group.List

/-!
# Commands come to an end

Every event leaves less work to be done, or as much work and less slack: fewer keys to be flushed, fewer timers that will
go off too early, fewer times to be reached (`Step.progress`).  Slack grows by no more than the work, and so what a
command sets going is over after as many events as `State.obey` allows for (`obey_rests`).
-/

namespace PageTape.ClockProgram

variable {s s' : State} {e : Event} {t : Timer Alarm}

/-! ### Work and slack -/

/-- How often a task can do something that leaves as much work as before. -/
def Task.slack : Task → ℕ
  | .flush keys => keys.length + 1
  | .advance _ => 1
  | .perform _ | .runAll => 0

/-- A timer of the debouncer that will be too early counts twice: as itself, and for the time it may have to reach. -/
def slackOf (skew delay : Rat) (t : Timer Alarm) : ℕ :=
  match t.alarm with
  | .wake _ since _ => if hasPassed since (t.due - skew) delay then 0 else 2
  | .call _ => 0

/-- How many events there can be before there is less work. -/
def State.slack (s : State) : ℕ :=
  (s.tasks.map (·.slack)).sum + (s.clock.timers.map (slackOf s.skew s.debouncer.delay)).sum

lemma sum_le_of_sublist {α : Type} {l l' : List α} (h : l.Sublist l') (f : α → ℕ) : (l.map f).sum ≤ (l'.map f).sum :=
  (h.map f).sum_le_sum fun _ _ => Nat.zero_le _

/-- A timer that is taken off leaves the others. -/
lemma sum_cancel_add_le {α : Type} {c : Clock α} {t : Timer α} (ht : t ∈ c.timers) (f : Timer α → ℕ) :
    ((c.cancel t.seq).timers.map f).sum + f t ≤ (c.timers.map f).sum := by
  obtain ⟨l₁, l₂, hl⟩ := List.append_of_mem ht
  have h₁ := sum_le_of_sublist (l₁.filter_sublist (p := (·.seq != t.seq))) f
  have h₂ := sum_le_of_sublist (l₂.filter_sublist (p := (·.seq != t.seq))) f
  simp only [Clock.cancel, hl, List.filter_append, List.filter_cons, bne_self_eq_false, Bool.false_eq_true, if_false,
    List.map_append, List.sum_append, List.map_cons, List.sum_cons]
  omega

@[simp] lemma Alarm.size_call (cb : Callback) : (Alarm.call cb).size = cb.size + 2 := rfl

@[simp] lemma Alarm.size_wake (key : String) (since : Rat) (cb : Callback) :
    (Alarm.wake key since cb).size = cb.size + 2 := rfl

/-- The timers are work, and there is at most as much slack as work in them. -/
lemma sum_slackOf_le (l : List (Timer Alarm)) (skew delay : Rat) :
    (l.map (slackOf skew delay)).sum ≤ (l.map (·.alarm.size)).sum := by
  refine List.sum_le_sum fun t _ => ?_
  unfold slackOf
  split
  · rename_i ha
    rw [ha, Alarm.size]
    split <;> omega
  · exact Nat.zero_le _

/-- There is at most as much to flush as there is work in the timers. -/
lemma State.Sound.waiting_le (h : s.Sound) : s.debouncer.waiting.length ≤ (s.clock.timers.map (·.alarm.size)).sum := by
  have hlen := h.oneToOne.same.length_eq
  rw [List.length_map] at hlen
  rw [hlen]
  refine (List.length_filterMap_le _ _).trans ?_
  have hone : ∀ l : List (Timer Alarm), l.length ≤ (l.map (·.alarm.size)).sum := by
    intro l
    induction l with
    | nil => exact le_rfl
    | cons t l ih =>
      have : 1 ≤ t.alarm.size := by cases t.alarm <;> simp [Alarm.size]
      simp only [List.length_cons, List.map_cons, List.sum_cons]
      omega
  exact hone _

/-! ### Progress -/

/-- The tasks that a callback leaves are no more than those before it and its commands. -/
lemma call_tasks_le (s : State) (cb : Callback) :
    ((s.call cb).tasks.map (·.size)).sum ≤ cb.size + (s.tasks.map (·.size)).sum ∧
      ((s.call cb).tasks.map (·.slack)).sum ≤ (s.tasks.map (·.slack)).sum := by
  have hsize : ∀ cs : List Command, ((cs.map Task.perform).map (·.size)).sum = sizeAll cs := by
    intro cs
    induction cs with
    | nil => rfl
    | cons c cs ih => rw [sizeAll, ← ih]; rfl
  have hslack : ∀ cs : List Command, ((cs.map Task.perform).map (·.slack)).sum = 0 := by
    intro cs
    induction cs with
    | nil => rfl
    | cons c cs ih => rw [List.map_cons, List.map_cons, List.sum_cons, ih]; rfl
  cases cb with
  | calling name commands =>
    show ((commands.map Task.perform ++ s.tasks).map _).sum ≤ sizeAll commands + _ ∧
      ((commands.map Task.perform ++ s.tasks).map _).sum ≤ _
    rw [List.map_append, List.sum_append, List.map_append, List.sum_append, hsize, hslack, Nat.zero_add]
    exact ⟨le_rfl, le_rfl⟩

/-- The tasks as a timer goes off: there is as much work in them as before. -/
lemma Ringing.tasks_le {tasks : List Task} (hr : Ringing s t tasks) :
    (tasks.map (·.size)).sum = (s.tasks.map (·.size)).sum ∧
      (tasks.map (·.slack)).sum ≤ (s.tasks.map (·.slack)).sum + 1 := by
  obtain ⟨-, -, ⟨_, _, -, -, rfl⟩ | ⟨_, -, rfl⟩⟩ := hr
  · exact ⟨rfl, Nat.le_succ _⟩
  · refine ⟨?_, ?_⟩
    · rw [List.map_cons, List.sum_cons]
      exact Nat.zero_add _
    · rw [List.map_cons, List.sum_cons]
      exact (Nat.add_comm _ _).le

/-- A command that is performed leaves less work, and as much more slack as there was work at most. -/
lemma progress_perform (h : s.Sound) (c : Command) :
    (s.perform c).work < c.size + s.work ∧ (s.perform c).slack ≤ s.slack + (c.size + s.work) := by
  have hsub : ∀ {l : List (Timer Alarm)}, l.Sublist s.clock.timers →
      (l.map (·.alarm.size)).sum ≤ (s.clock.timers.map (·.alarm.size)).sum ∧
        (l.map (slackOf s.skew s.debouncer.delay)).sum ≤
          (s.clock.timers.map (slackOf s.skew s.debouncer.delay)).sum :=
    fun hl => ⟨sum_le_of_sublist hl _, sum_le_of_sublist hl _⟩
  cases c with
  | later name delay cb =>
    simp [State.perform, State.work, State.slack, Clock.setTimer, Command.size, Alarm.size, slackOf]
    omega
  | cancel name =>
    unfold State.perform
    dsimp only
    split
    · rename_i n hn
      obtain ⟨h₁, h₂⟩ := hsub (List.filter_sublist (l := s.clock.timers) (p := (·.seq != n)))
      simp only [State.work, State.slack, Clock.cancel, Command.size]
      omega
    · simp only [State.work, State.slack, Command.size]
      omega
  | schedule key cb =>
    obtain ⟨h₁, h₂⟩ := hsub (s.debouncer.cancel_sublist s.clock key)
    have hnew : slackOf s.skew s.debouncer.delay ⟨(s.debouncer.cancel s.clock key).2.now +
        (if s.debouncer.delay < 0 then 0 else s.debouncer.delay), (s.debouncer.cancel s.clock key).2.nextSeq,
        .wake key s.seen cb⟩ = 0 := by
      have hnow : (s.debouncer.cancel s.clock key).2.now = s.clock.now := s.debouncer.cancel_now s.clock key
      have hp : hasPassed s.seen (s.clock.now + (if s.debouncer.delay < 0 then 0 else s.debouncer.delay) - s.skew)
          s.debouncer.delay = true := by
        rw [hasPassed, decide_eq_true_iff, State.seen]
        split <;> linarith
      simp only [slackOf, hnow, hp, if_true]
    simp only [State.perform, State.put, State.work, State.slack, Command.size, Debouncer.schedule, Clock.setTimer,
      List.map_cons, List.sum_cons, Alarm.size_wake, Debouncer.cancel_delay, hnew]
    omega
  | drop key =>
    obtain ⟨h₁, h₂⟩ := hsub (s.debouncer.cancel_sublist s.clock key)
    simp only [State.perform, State.put, State.work, State.slack, Command.size, Debouncer.cancel_delay]
    omega
  | dropAll =>
    obtain ⟨h₁, h₂⟩ := hsub (s.debouncer.cancelAll_sublist s.clock)
    simp only [State.perform, State.put, State.work, State.slack, Command.size, Debouncer.cancelAll]
    simp only [Debouncer.cancelAll] at h₁ h₂
    omega
  | advance ms =>
    simp [State.perform, State.todo, State.work, State.slack, Command.size, Task.size, Task.slack]
    omega
  | runAll =>
    simp [State.perform, State.todo, State.work, State.slack, Command.size, Task.size, Task.slack]
    omega
  | flush key =>
    simp [State.perform, State.todo, State.work, State.slack, Command.size, Task.size, Task.slack]
    omega
  | flushAll =>
    have := h.waiting_le
    simp [State.perform, State.todo, State.work, State.slack, Command.size, Task.size, Task.slack]
    omega
  | isPending key =>
    simp only [State.perform, State.work, State.slack, Command.size]
    omega
  | skew ms =>
    have := sum_slackOf_le s.clock.timers ms s.debouncer.delay
    simp only [State.perform, State.work, State.slack, Command.size]
    omega
  | fail message =>
    simp only [State.perform, State.work, State.slack, Command.size, List.map_nil, List.sum_nil]
    omega

/-- **Every event makes progress**: there is less work after it, and no more slack than there was work and slack; or there
is no more work and less slack. -/
theorem Step.progress (hs : Step s e s') (h : s.Sound) :
    (s'.work < s.work ∧ s'.slack ≤ s.slack + s.work) ∨ (s'.work ≤ s.work ∧ s'.slack < s.slack) := by
  cases hs with
  | @performs c rest ht =>
    have hp := progress_perform (s := { s with tasks := rest }) h c
    have hwork : s.work = c.size + ({ s with tasks := rest } : State).work := by
      simp [State.work, ht, Task.size, Nat.add_assoc]
    have hslack : s.slack = ({ s with tasks := rest } : State).slack := by simp [State.slack, ht, Task.slack]
    rw [hwork, hslack]
    exact .inl hp
  | @flushes key keys rest w ht hw =>
    left
    obtain ⟨hm, rfl⟩ := Debouncer.mem_of_find? hw
    obtain ⟨t, hmem, hn, ha⟩ := Tidy.exists_timer h hm
    have h₁ := sum_cancel_add_le hmem (·.alarm.size)
    have h₂ := sum_cancel_add_le hmem (slackOf s.skew s.debouncer.delay)
    have h₃ := call_tasks_le { s with
      tasks := .flush keys :: rest, debouncer := s.debouncer.drop w.key, clock := s.clock.cancel w.timer } w.payload
    rw [hn] at h₁ h₂
    simp only [ha, Alarm.size_wake] at h₁
    simp only [State.work, State.slack, call_clock, call_skew, call_debouncer, ht, Debouncer.drop, List.map_cons,
      List.sum_cons, Task.size, Task.slack, List.length_cons] at h₃ ⊢
    omega
  | @skips key keys rest ht hw =>
    right
    simp [State.work, State.slack, ht, Task.size, Task.slack]
  | @calls t tasks cb hr ha =>
    left
    have h₁ := sum_cancel_add_le hr.mem (·.alarm.size)
    have h₂ := sum_cancel_add_le hr.mem (slackOf s.skew s.debouncer.delay)
    have h₃ := call_tasks_le { s with clock := s.clock.ring t, tasks } cb
    have h₄ := hr.tasks_le
    simp only [ha, Alarm.size_call] at h₁
    simp only [State.work, State.slack, call_clock, call_skew, call_debouncer, Clock.ring] at h₃ ⊢
    omega
  | @wakes t tasks key since cb hr ha _ =>
    left
    have h₁ := sum_cancel_add_le hr.mem (·.alarm.size)
    have h₂ := sum_cancel_add_le hr.mem (slackOf s.skew s.debouncer.delay)
    have h₃ := call_tasks_le { s with clock := s.clock.ring t, tasks, debouncer := s.debouncer.drop key } cb
    have h₄ := hr.tasks_le
    simp only [ha, Alarm.size_wake] at h₁
    simp only [State.work, State.slack, call_clock, call_skew, call_debouncer, Clock.ring, Debouncer.drop] at h₃ ⊢
    omega
  | @renews t tasks key since cb hr ha hearly =>
    right
    have h₁ := sum_cancel_add_le hr.mem (·.alarm.size)
    have h₂ := sum_cancel_add_le hr.mem (slackOf s.skew s.debouncer.delay)
    have h₄ := hr.tasks_le
    have hold : slackOf s.skew s.debouncer.delay t = 2 := by simp [slackOf, ha, hearly]
    have hnew : slackOf s.skew s.debouncer.delay ⟨(s.clock.ring t).now +
        (if s.debouncer.delay - (t.due - s.skew - since) < 0 then 0
          else s.debouncer.delay - (t.due - s.skew - since)), (s.clock.ring t).nextSeq, t.alarm⟩ = 0 := by
      have hlt : t.due - s.skew - since < s.debouncer.delay := by simpa [hasPassed] using hearly
      have hp : hasPassed since (t.due + (s.debouncer.delay - (t.due - s.skew - since)) - s.skew) s.debouncer.delay
          = true := by
        rw [hasPassed, decide_eq_true_iff]
        linarith
      simp only [slackOf, ha, Clock.ring_now, if_neg (not_lt.2 (sub_nonneg.2 hlt.le)), hp, if_true]
    rw [hold] at h₂
    simp only [State.work, State.slack, Clock.setTimer, Clock.ring, Debouncer.renew, List.map_cons, List.sum_cons]
      at h₁ h₂ hnew ⊢
    omega
  | arrives ht hd =>
    right
    simp [State.work, State.slack, ht, Task.size, Task.slack]
  | flushed ht =>
    right
    simp [State.work, State.slack, ht, Task.size, Task.slack]
  | ranAll ht hn =>
    left
    simp [State.work, State.slack, ht, Task.size, Task.slack]

/-! ### The end of a command -/

/-- How many events there can still be. -/
def State.measure (s : State) : ℕ := s.work * (s.work + 1) + s.slack

lemma Step.measure_lt (hs : Step s e s') (h : s.Sound) : s'.measure < s.measure := by
  unfold State.measure
  rcases hs.progress h with ⟨hw, hk⟩ | ⟨hw, hk⟩
  · have : s'.work * (s'.work + 1) + 2 * s.work ≤ s.work * (s.work + 1) := by nlinarith
    omega
  · have : s'.work * (s'.work + 1) ≤ s.work * (s.work + 1) := Nat.mul_le_mul hw (Nat.succ_le_succ hw)
    omega

lemma after_rests (h : s.Sound) {n : ℕ} (hn : s.measure ≤ n) : (s.after n).tasks = [] := by
  induction n generalizing s with
  | zero =>
    rw [State.after, ← step?_eq_none, Option.eq_none_iff_forall_ne_some]
    rintro ⟨e, s'⟩ hs
    have := (step?_eq_some hs).measure_lt h
    omega
  | succ n ih =>
    unfold State.after
    cases hs : s.step? with
    | none => exact step?_eq_none.1 hs
    | some p =>
      have := (step?_eq_some hs).measure_lt h
      exact ih ((step?_eq_some hs).sound h) (by omega)

/-- There are at most as many events of a command as are allowed for. -/
lemma order_measure_le (s : State) (c : Command) :
    (s.order c).measure ≤ (s.order c).work * ((s.order c).work + 2) := by
  have h₁ := sum_slackOf_le s.clock.timers s.skew s.debouncer.delay
  have h₂ : (s.order c).slack = (s.clock.timers.map (slackOf s.skew s.debouncer.delay)).sum := by
    simp [State.slack, State.order, Task.slack]
  have h₃ : (s.order c).work = c.size + (s.clock.timers.map (·.alarm.size)).sum := by
    simp [State.work, State.order, Task.size]
  unfold State.measure
  nlinarith

/-- **Every command comes to an end.** -/
theorem obey_rests (h : s.Sound) (c : Command) : (s.obey c).tasks = [] :=
  after_rests (h.order c) (order_measure_le s c)

end PageTape.ClockProgram
