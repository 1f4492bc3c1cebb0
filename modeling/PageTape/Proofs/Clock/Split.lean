import PageTape.Proofs.Clock.Settle

/-!
# Advancing the clock in two parts

* `step?_over` — a program goes on in the same way whatever else is to be done later (`State.over`), until it has come to
  its end;
* `obey_advance_split` — to advance the clock at once, or to advance it half-way first, leaves the same state.
-/

namespace PageTape.ClockProgram

variable {s s' z t : State} {e : Event} {below : List Task}

/-! ### What is to be done later -/

/-- A state with more to be done, after everything else and unless something fails. -/
def State.over (s : State) (below : List Task) : State :=
  match s.failure with
  | none => { s with tasks := s.tasks ++ below }
  | some _ => s

lemma over_of_none (hf : s.failure = none) : s.over below = { s with tasks := s.tasks ++ below } := by
  rw [State.over, hf]

lemma over_of_failure (hf : s.failure ≠ none) : s.over below = s := by
  obtain ⟨message, hf⟩ := Option.ne_none_iff_exists'.1 hf
  rw [State.over, hf]

@[simp] lemma over_clock (s : State) (below : List Task) : (s.over below).clock = s.clock := by
  unfold State.over
  split <;> rfl

lemma over_sound : (s.over below).Sound ↔ s.Sound := by
  unfold State.over
  split <;> exact Iff.rfl

lemma over_tasks_ne_nil (hf : s.failure = none) (hb : below ≠ []) : (s.over below).tasks ≠ [] := by
  rw [over_of_none hf]
  exact List.append_ne_nil_of_right_ne_nil _ hb

lemma call?_over (hf : s.failure = none) (called : Option Callback) :
    (s.over below).call? called = (s.call? called).over below := by
  obtain ⟨_, _, _, _, _, tasks, _⟩ := s
  cases hf
  cases called with
  | none => rfl
  | some cb =>
    cases cb with
    | calling name commands => simp [State.over, State.call?, State.call]

lemma perform_over (hf : s.failure = none) (c : Command) : (s.over below).perform c = (s.perform c).over below := by
  obtain ⟨_, _, named, _, _, _, _⟩ := s
  cases hf
  cases c with
  | cancel name =>
    simp only [State.over, State.perform]
    cases named.lookup name <;> rfl
  | later | advance | runAll | schedule | drop | dropAll | flush | flushAll | isPending | skew | fail => rfl

lemma take_over (hf : s.failure = none) (key : String) :
    (s.over below).take key = ((s.take key).1, (s.take key).2.over below) := by
  obtain ⟨clock, debouncer, _, _, _, _, _⟩ := s
  cases hf
  simp only [State.over, State.take]
  cases debouncer.take? clock key <;> rfl

lemma take_failure (s : State) (key : String) : (s.take key).2.failure = s.failure := by
  unfold State.take
  split <;> rfl

lemma ring_over (hf : s.failure = none) (a : Alarm) :
    (s.over below).ring a = ((s.ring a).1, (s.ring a).2.over below) := by
  obtain ⟨clock, debouncer, _, skew, _, _, _⟩ := s
  cases hf
  cases a with
  | call cb => rfl
  | wake key since cb =>
    cases hp : hasPassed since (clock.now - skew) debouncer.delay with
    | true => simp only [State.over, State.ring, State.seen, hp, if_true]
    | false => simp only [State.over, State.ring, State.seen, hp, Bool.false_eq_true, if_false]

lemma ring_failure (s : State) (a : Alarm) : (s.ring a).2.failure = s.failure := by
  cases a with
  | call cb => rfl
  | wake key since cb =>
    simp only [State.ring]
    split <;> rfl

/-- **What is to be done later does not matter to what happens before.** -/
theorem step?_over (hf : s.failure = none) (ht : s.tasks ≠ []) :
    (s.over below).step? = s.step?.map fun p => (p.1, p.2.over below) := by
  obtain ⟨clock, debouncer, named, skew, log, tasks, failure⟩ := s
  cases hf
  -- a timer goes off in a state of which only the tasks differ
  have hring : ∀ (clock : Clock Alarm) (tasks : List Task) (t : Timer Alarm),
      let z : State := ⟨clock, debouncer, named, skew, log, tasks, none⟩
      (Event.rings t ((z.over below).ring t.alarm).1,
          ((z.over below).ring t.alarm).2.call? ((z.over below).ring t.alarm).1) =
        (Event.rings t (z.ring t.alarm).1, ((z.ring t.alarm).2.call? (z.ring t.alarm).1).over below) := by
    intro clock tasks t z
    rw [ring_over rfl, call?_over (ring_failure z t.alarm)]
  obtain ⟨task, rest, rfl⟩ := List.exists_cons_of_ne_nil ht
  cases task with
  | perform c =>
    exact congrArg (fun s => some (Event.performs c, s))
      (perform_over (s := ⟨clock, debouncer, named, skew, log, rest, none⟩) rfl c)
  | flush keys =>
    cases keys with
    | nil => rfl
    | cons key keys =>
      let z : State := ⟨clock, debouncer, named, skew, log, .flush keys :: rest, none⟩
      show some (Event.flushes key ((z.over below).take key).1,
          ((z.over below).take key).2.call? ((z.over below).take key).1) =
        some (Event.flushes key (z.take key).1, ((z.take key).2.call? (z.take key).1).over below)
      rw [take_over rfl, call?_over (take_failure z key)]
  | advance target =>
    simp only [State.over, State.step?, List.cons_append]
    cases clock.popDue? target with
    | none => rfl
    | some p => exact congrArg some (hring p.2 (.advance target :: rest) p.1)
  | runAll =>
    simp only [State.over, State.step?, List.cons_append]
    cases clock.earliest? with
    | none => rfl
    | some t =>
      exact congrArg some (hring (clock.ring t) (.advance (clock.now + max 0 (t.due - clock.now)) :: .runAll :: rest) t)

/-- What an alarm brings about. -/
def State.goOff (s : State) (a : Alarm) : State := (s.ring a).2.call? (s.ring a).1

/-- What happens when the clock is on its way and nothing else is to be done before. -/
lemma step?_advance (hf : s.failure = none) (ht : s.tasks = []) (target : Rat) :
    (s.over [.advance target]).step? = match s.clock.popDue? target with
      | some (t, clock) => some (.rings t (({ s with clock } : State).ring t.alarm).1,
          (({ s with clock } : State).goOff t.alarm).over [.advance target])
      | none => some (.arrives target, { s with clock := { s.clock with now := target } }) := by
  obtain ⟨clock, debouncer, named, skew, log, tasks, failure⟩ := s
  cases hf
  cases ht
  simp only [State.over, State.step?, List.nil_append]
  cases clock.popDue? target with
  | none => rfl
  | some p =>
    let z : State := ⟨p.2, debouncer, named, skew, log, [], none⟩
    show some (Event.rings p.1 ((z.over [.advance target]).ring p.1.alarm).1,
        ((z.over [.advance target]).ring p.1.alarm).2.call? ((z.over [.advance target]).ring p.1.alarm).1) = _
    rw [ring_over rfl, call?_over (ring_failure z p.1.alarm)]
    rfl

lemma call?_failure (s : State) (called : Option Callback) : (s.call? called).failure = s.failure := by
  cases called with
  | none => rfl
  | some cb =>
    cases cb with
    | calling name commands => rfl

lemma goOff_failure (s : State) (a : Alarm) : (s.goOff a).failure = s.failure :=
  (call?_failure _ _).trans (ring_failure s a)

/-- An event leaves a program as it was, but for a failure, which ends everything. -/
lemma Step.failure (hs : Step s e s') : s'.failure = s.failure ∨ s'.tasks = [] ∧ s'.failure ≠ none := by
  cases hs with
  | performs c =>
    cases c with
    | cancel name =>
      left
      simp only [State.perform]
      split <;> rfl
    | later | advance | runAll | schedule | drop | dropAll | flush | flushAll | isPending | skew => exact .inl rfl
    | fail message => exact .inr ⟨rfl, Option.some_ne_none message⟩
  | flushes | calls | wakes => exact .inl (call?_failure _ (some _))
  | skips | renews | arrives | flushed | ranAll => exact .inl rfl

/-! ### The end of a command -/

/-- A program comes to its end in a state. -/
def Rests (s t : State) : Prop := ∃ n, s.after n = t ∧ t.tasks = []

lemma after_eq_self (ht : s.tasks = []) (n : ℕ) : s.after n = s := by
  cases n with
  | zero => rfl
  | succ n =>
    unfold State.after
    rw [step?_eq_none.2 ht]

lemma rests_self (ht : s.tasks = []) : Rests s t ↔ t = s := by
  constructor
  · rintro ⟨n, rfl, -⟩
    exact after_eq_self ht n
  · rintro rfl
    exact ⟨0, rfl, ht⟩

/-- A program comes to the same end after one event. -/
lemma rests_step (hs : s.step? = some (e, s')) : Rests s t ↔ Rests s' t := by
  constructor
  · rintro ⟨n, rfl, ht⟩
    cases n with
    | zero =>
      rw [State.after, ← step?_eq_none, hs] at ht
      cases ht
    | succ n =>
      unfold State.after at ht ⊢
      rw [hs] at ht ⊢
      exact ⟨n, rfl, ht⟩
  · rintro ⟨n, rfl, ht⟩
    refine ⟨n + 1, ?_, ht⟩
    rw [State.after, hs]

lemma Rests.unique {t' : State} (h : Rests s t) (h' : Rests s t') : t = t' := by
  obtain ⟨n, rfl, ht⟩ := h
  induction n generalizing s with
  | zero => exact ((rests_self ht).1 h').symm
  | succ n ih =>
    unfold State.after at ht ⊢
    cases hs : s.step? with
    | none => exact ((rests_self (step?_eq_none.1 hs)).1 h').symm
    | some p =>
      rw [hs] at ht
      exact ih ((rests_step hs).1 h') ht

lemma obey_sound (h : s.Sound) (c : Command) : (s.obey c).Sound := (leads_after _ _).sound (h.order c)

lemma rests_obey (h : s.Sound) (c : Command) : Rests (s.order c) (s.obey c) := ⟨_, rfl, obey_rests h c⟩

/-! ### Two parts -/

/-- What is on its way to a time has nothing else to do but come there. -/
lemma order_advance (s : State) (ms : Rat) : (s.order (.advance ms)).step? = some (.performs (.advance ms),
    ({ s with tasks := [], failure := none } : State).over [.advance (s.clock.now + ms)]) := rfl

/-- The time does not matter to a clock that is on its way: the next timer that goes off sets it, or the arrival. -/
lemma rests_withNow (hf : z.failure = none) (ht : z.tasks = []) (target now : Rat) :
    Rests (({ z with clock := { z.clock with now } } : State).over [.advance target]) t ↔
      Rests (z.over [.advance target]) t := by
  have hpop : ({ z.clock with now := now } : Clock Alarm).popDue? target = z.clock.popDue? target := rfl
  have hstep : (({ z with clock := { z.clock with now } } : State).over [.advance target]).step? =
      (z.over [.advance target]).step? := by
    refine (step?_advance (s := { z with clock := { z.clock with now } }) hf ht target).trans ?_
    dsimp only
    rw [hpop, step?_advance hf ht]
  obtain ⟨⟨e, s'⟩, hs⟩ : ∃ p, (z.over [.advance target]).step? = some p := by
    refine Option.ne_none_iff_exists'.1 fun hn => ?_
    exact over_tasks_ne_nil hf (List.cons_ne_nil (.advance target) []) (step?_eq_none.1 hn)
  rw [rests_step (hstep.trans hs), rests_step hs]

/-- On the way to a later time, a clock comes through an earlier one, unless something fails before. -/
lemma rests_earlier {a b : Rat} (hf : z.failure = none) (hab : a ≤ b) (h : Rests (z.over [.advance a]) t) :
    (t.failure ≠ none ∧ Rests (z.over [.advance b]) t) ∨
      t.failure = none ∧ t.clock.now = a ∧ ∀ u, Rests (t.over [.advance b]) u → Rests (z.over [.advance b]) u := by
  obtain ⟨n, rfl, ht⟩ := h
  induction n generalizing z with
  | zero => exact absurd ht (over_tasks_ne_nil hf nofun)
  | succ n ih =>
    -- the same event happens on the way to either time, and leaves what is to be done before the clock may arrive
    have hnext : ∀ {e : Event} {z' : State}, (z.over [.advance a]).step? = some (e, z'.over [.advance a]) →
        (z.over [.advance b]).step? = some (e, z'.over [.advance b]) → (z'.failure = none ∨ z'.tasks = []) →
        ((z.over [.advance a]).after (n + 1)).tasks = [] →
        (((z.over [.advance a]).after (n + 1)).failure ≠ none ∧
            Rests (z.over [.advance b]) ((z.over [.advance a]).after (n + 1))) ∨
          ((z.over [.advance a]).after (n + 1)).failure = none ∧ ((z.over [.advance a]).after (n + 1)).clock.now = a ∧
            ∀ u, Rests (((z.over [.advance a]).after (n + 1)).over [.advance b]) u → Rests (z.over [.advance b]) u := by
      intro e z' ha hb hz' ht
      have hafter : (z.over [.advance a]).after (n + 1) = (z'.over [.advance a]).after n := by rw [State.after, ha]
      rw [hafter] at ht ⊢
      simp only [rests_step hb]
      by_cases hf' : z'.failure = none
      · exact ih hf' ht
      · have hnil := hz'.resolve_left hf'
        simp only [over_of_failure hf']
        rw [after_eq_self hnil]
        exact .inl ⟨hf', (rests_self hnil).2 rfl⟩
    by_cases hne : z.tasks = []
    · cases hp : z.clock.popDue? a with
      | none =>
        have hs := step?_advance hf hne a
        rw [hp] at hs
        right
        have hafter : (z.over [.advance a]).after (n + 1) = { z with clock := { z.clock with now := a } } := by
          rw [State.after, hs]
          exact after_eq_self (s := { z with clock := { z.clock with now := a } }) hne n
        rw [hafter]
        exact ⟨hf, rfl, fun u hu => (rests_withNow hf hne b a).1 hu⟩
      | some p =>
        have ha := step?_advance hf hne a
        have hb := step?_advance hf hne b
        rw [hp] at ha
        rw [Clock.popDue?_of_le hp hab] at hb
        refine hnext ha hb ?_ ht
        exact .inl ((goOff_failure _ _).trans hf)
    · obtain ⟨⟨e, z'⟩, hz⟩ : ∃ p, z.step? = some p := by
        rw [← Option.ne_none_iff_exists', ne_eq, step?_eq_none]
        exact hne
      have hover : ∀ below, (z.over below).step? = some (e, z'.over below) := fun below => by rw [step?_over hf hne, hz]; rfl
      have ha := hover [.advance a]
      have hb := hover [.advance b]
      refine hnext ha hb ?_ ht
      rcases (step?_eq_some hz).failure with h | h
      · exact .inl (h.trans hf)
      · exact .inr h.1

/-- **To advance the clock half-way first makes no difference**: unless something fails on the first part, the second one
leaves the state that is left at once; and else what has failed at once is the same. -/
theorem obey_advance_split (h : s.Sound) (a : Rat) {b : Rat} (hb : 0 ≤ b) :
    ((s.obey (.advance a)).failure = none → (s.obey (.advance a)).obey (.advance b) = s.obey (.advance (a + b))) ∧
      ((s.obey (.advance a)).failure ≠ none → s.obey (.advance a) = s.obey (.advance (a + b))) := by
  have hfirst := (rests_step (order_advance s a)).1 (rests_obey h (.advance a))
  have hboth := (rests_step (order_advance s (a + b))).1 (rests_obey h (.advance (a + b)))
  rw [← add_assoc] at hboth
  have hcases := rests_earlier (z := { s with tasks := [], failure := none }) rfl
    (le_add_of_nonneg_right hb : s.clock.now + a ≤ s.clock.now + a + b) hfirst
  constructor
  · intro hf
    obtain ⟨hf', -⟩ | ⟨-, hnow, hrest⟩ := hcases
    · exact absurd hf hf'
    · have hsecond := (rests_step (order_advance (s.obey (.advance a)) b)).1 (rests_obey (obey_sound h _) (.advance b))
      have hsame : ({ s.obey (.advance a) with tasks := [], failure := none } : State) = s.obey (.advance a) := by
        rw [← obey_rests h (.advance a), ← hf]
      rw [hsame, hnow] at hsecond
      exact (hrest _ hsecond).unique hboth
  · intro hf
    obtain ⟨-, hrest⟩ | ⟨hf', -⟩ := hcases
    · exact hrest.unique hboth
    · exact absurd hf' hf

end PageTape.ClockProgram
