import PageTape.Clock.Program
import PageTape.Proofs.Clock.Timers
import Mathlib.Data.List.Perm.Basic

/-!
# One event of a clock program

* `Step` — all that an event can do, as rules; what happens next in a program is always one of them
  (`step?_eq_some`), and something does as long as there is something to be done (`step?_eq_none`);
* `State.Sound` — the clock is sound, and what is pending in the debouncer and the timers set for it are the same.  Every
  event and every new command keep this (`Sound.step`, `Sound.order`);
* `Leads`, `History` — the events of a command, and those of a program from its beginning.
-/

namespace PageTape.ClockProgram

/-- A timer is the next to go off, and what is to be done then: the clock is to be advanced at least as far as it, or all
timers are to go off. -/
structure Ringing (s : State) (t : Timer Alarm) (tasks : List Task) : Prop where
  mem : t ∈ s.clock.timers
  first : ∀ u ∈ s.clock.timers, t.Ahead u
  asked : (∃ target rest, s.tasks = .advance target :: rest ∧ t.due ≤ target ∧ tasks = s.tasks) ∨
    ∃ rest, s.tasks = .runAll :: rest ∧ tasks = .advance (s.clock.now + max 0 (t.due - s.clock.now)) :: s.tasks

/-- What an event does. -/
inductive Step (s : State) : Event → State → Prop
  | performs (c : Command) {rest : List Task} (ht : s.tasks = .perform c :: rest) :
    Step s (.performs c) ({ s with tasks := rest }.perform c)
  /-- a key that is pending is flushed -/
  | flushes {key : String} {keys : List String} {rest : List Task} {w : Waiting String Callback}
    (ht : s.tasks = .flush (key :: keys) :: rest) (hw : s.debouncer.find? key = some w) :
    Step s (.flushes key (some w.payload))
      ({ s with tasks := .flush keys :: rest, debouncer := s.debouncer.drop key, clock := s.clock.cancel w.timer }.call
        w.payload)
  /-- a key that is not pending is flushed -/
  | skips {key : String} {keys : List String} {rest : List Task} (ht : s.tasks = .flush (key :: keys) :: rest)
    (hw : s.debouncer.find? key = none) : Step s (.flushes key none) { s with tasks := .flush keys :: rest }
  /-- a timer with a callback of its own goes off -/
  | calls {t : Timer Alarm} {tasks : List Task} {cb : Callback} (hr : Ringing s t tasks) (ha : t.alarm = .call cb) :
    Step s (.rings t (some cb)) ({ s with clock := s.clock.ring t, tasks }.call cb)
  /-- a timer of the debouncer goes off when the delay has passed -/
  | wakes {t : Timer Alarm} {tasks : List Task} {key : String} {since : Rat} {cb : Callback}
    (hr : Ringing s t tasks) (ha : t.alarm = .wake key since cb)
    (hp : hasPassed since (t.due - s.skew) s.debouncer.delay = true) :
    Step s (.rings t (some cb))
      ({ s with clock := s.clock.ring t, tasks, debouncer := s.debouncer.drop key }.call cb)
  /-- a timer of the debouncer goes off too early -/
  | renews {t : Timer Alarm} {tasks : List Task} {key : String} {since : Rat} {cb : Callback}
    (hr : Ringing s t tasks) (ha : t.alarm = .wake key since cb)
    (hp : hasPassed since (t.due - s.skew) s.debouncer.delay = false) :
    Step s (.rings t none) { s with
      clock := ((s.clock.ring t).setTimer (s.debouncer.delay - (t.due - s.skew - since)) t.alarm).2, tasks
      debouncer := s.debouncer.renew ⟨key, since, s.clock.nextSeq, cb⟩ }
  | arrives {target : Rat} {rest : List Task} (ht : s.tasks = .advance target :: rest)
    (hd : ∀ u ∈ s.clock.timers, target < u.due) :
    Step s (.arrives target) { s with clock := { s.clock with now := target }, tasks := rest }
  /-- all keys are flushed -/
  | flushed {rest : List Task} (ht : s.tasks = .flush [] :: rest) : Step s .ends { s with tasks := rest }
  /-- no timer is set any more -/
  | ranAll {rest : List Task} (ht : s.tasks = .runAll :: rest) (hn : s.clock.timers = []) : Step s .ends { s with tasks := rest }

variable {s s' : State} {e : Event} {t u : Timer Alarm}

lemma step?_eq_none : s.step? = none ↔ s.tasks = [] := by
  unfold State.step?
  split
  · simp [*]
  all_goals simp only [*]
  all_goals try (split <;> simp)
  all_goals simp

/-- A timer that goes off, by its alarm. -/
lemma Step.of_ring {tasks : List Task} (hr : Ringing s t tasks) :
    Step s (.rings t (({ s with clock := s.clock.ring t, tasks } : State).ring t.alarm).1)
      ((({ s with clock := s.clock.ring t, tasks } : State).ring t.alarm).2.call?
        (({ s with clock := s.clock.ring t, tasks } : State).ring t.alarm).1) := by
  cases ha : t.alarm with
  | call cb => exact .calls hr ha
  | wake key since cb =>
    cases hp : hasPassed since (t.due - s.skew) s.debouncer.delay with
    | true =>
      simp only [State.ring, State.seen, Clock.ring_now, hp, if_true, State.call?]
      exact .wakes hr ha hp
    | false =>
      simp only [State.ring, State.seen, Clock.ring_now, hp, Bool.false_eq_true, if_false, State.call?]
      rw [← ha]
      exact .renews hr ha hp

/-- **What happens next is an event by the rules.** -/
theorem step?_eq_some (h : s.step? = some (e, s')) : Step s e s' := by
  unfold State.step? at h
  split at h
  · cases h
  · cases h
    exact .performs _ ‹_›
  · cases h
    exact .flushed ‹_›
  · rename_i key keys rest ht
    cases hw : s.debouncer.find? key with
    | none =>
      simp only [State.take, Debouncer.take?, hw, Option.map_none] at h
      cases h
      exact .skips ht hw
    | some w =>
      simp only [State.take, Debouncer.take?, hw, Option.map_some] at h
      cases h
      exact .flushes ht hw
  · rename_i target rest ht
    split at h
    · rename_i t c hp
      obtain ⟨hm, hfirst, hd, rfl⟩ := Clock.popDue?_eq_some hp
      cases h
      exact .of_ring ⟨hm, hfirst, .inl ⟨target, rest, ht, hd, rfl⟩⟩
    · rename_i hp
      cases h
      exact .arrives ht (Clock.popDue?_eq_none hp)
  · rename_i rest ht
    split at h
    · rename_i t he
      obtain ⟨hm, hfirst⟩ := Clock.earliest?_eq_some he
      cases h
      exact .of_ring ⟨hm, hfirst, .inr ⟨rest, ht, rfl⟩⟩
    · rename_i he
      cases h
      exact .ranAll ht (Clock.earliest?_eq_none.1 he)

/-! ### The debouncer and its timers -/

/-- The timers on the clock for the debouncer and what is pending in it are the same, and timers set under names are not
among them. -/
structure Tidy (c : Clock Alarm) (d : Debouncer String Callback) (named : List (String × ℕ)) : Prop where
  sound : c.Sound
  sorted : c.Sorted
  isSet : ∀ w ∈ d.waiting, ⟨w.timer, .wake w.key w.since w.payload⟩ ∈ c.timers.map fun t => (t.seq, t.alarm)
  isOwn : ∀ t ∈ c.timers, ∀ key since cb, t.alarm = .wake key since cb → ⟨key, since, t.seq, cb⟩ ∈ d.waiting
  keys : (d.waiting.map (·.key)).Nodup
  named : ∀ n ∈ named, n.2 < c.nextSeq ∧ ∀ w ∈ d.waiting, w.timer ≠ n.2

namespace Tidy

variable {c : Clock Alarm} {d : Debouncer String Callback} {named : List (String × ℕ)} {w v : Waiting String Callback}

lemma exists_timer (h : Tidy c d named) (hw : w ∈ d.waiting) :
    ∃ t ∈ c.timers, t.seq = w.timer ∧ t.alarm = .wake w.key w.since w.payload := by
  obtain ⟨t, ht, he⟩ := List.mem_map.1 (h.isSet w hw)
  exact ⟨t, ht, congrArg Prod.fst he, congrArg Prod.snd he⟩

lemma eq_of_key (h : Tidy c d named) (hw : w ∈ d.waiting) (hv : v ∈ d.waiting) (e : w.key = v.key) : w = v :=
  List.inj_on_of_nodup_map h.keys hw hv e

lemma timer_lt (h : Tidy c d named) (hw : w ∈ d.waiting) : w.timer < c.nextSeq := by
  obtain ⟨t, ht, hs, -⟩ := h.exists_timer hw
  exact hs ▸ h.sound.fresh t ht

/-- Timers that are not for the debouncer do not concern it. -/
lemma frame (h : Tidy c d named) {c' : Clock Alarm} (hs : c'.Sound) (ho : c'.Sorted) (hn : c.nextSeq ≤ c'.nextSeq)
    (ht : ∀ t key since cb, t.alarm = .wake key since cb → (t ∈ c'.timers ↔ t ∈ c.timers)) : Tidy c' d named where
  sound := hs
  sorted := ho
  isSet w hw := by
    obtain ⟨t, hm, he, ha⟩ := h.exists_timer hw
    exact List.mem_map.2 ⟨t, (ht t _ _ _ ha).2 hm, by rw [he, ha]⟩
  isOwn t hm key since cb ha := h.isOwn t ((ht t _ _ _ ha).1 hm) key since cb ha
  keys := h.keys
  named n hm := ⟨(h.named n hm).1.trans_le hn, (h.named n hm).2⟩

/-- A timer set under a name. -/
lemma later (h : Tidy c d named) (name : String) (delay : Rat) (cb : Callback) :
    Tidy (c.setTimer delay (.call cb)).2 d ((name, c.nextSeq) :: named) where
  __ := h.frame (h.sound.setTimer _ _) (h.sorted.setTimer h.sound _ _) (Nat.le_succ _) fun t key since cb ha => by
    rw [Clock.mem_setTimer]
    refine or_iff_right ?_
    rintro rfl
    cases ha
  named n hn := by
    rcases List.mem_cons.1 hn with rfl | hn
    · exact ⟨Nat.lt_succ_self _, fun w hw => (h.timer_lt hw).ne⟩
    · exact ⟨Nat.lt_succ_of_lt (h.named n hn).1, (h.named n hn).2⟩

/-- A timer taken off that is not for the debouncer. -/
lemma cancel_other (h : Tidy c d named) {n : ℕ} (hn : ∀ w ∈ d.waiting, w.timer ≠ n) : Tidy (c.cancel n) d named :=
  h.frame (h.sound.cancel n) (h.sorted.cancel n) le_rfl fun t key since cb ha =>
    Clock.mem_cancel.trans (and_iff_left_of_imp fun ht => hn _ (h.isOwn t ht key since cb ha))

/-- The clock at another time, before all timers that are set. -/
lemma goTo (h : Tidy c d named) {target : Rat} (hd : ∀ t ∈ c.timers, target ≤ t.due) :
    Tidy { c with now := target } d named :=
  h.frame (h.sound.goTo hd) h.sorted le_rfl fun _ _ _ _ _ => Iff.rfl

/-- A key taken out together with its timer. -/
lemma remove (h : Tidy c d named) (hw : w ∈ d.waiting) {c' : Clock Alarm} (hs : c'.Sound) (ho : c'.Sorted)
    (hn : c'.nextSeq = c.nextSeq) (hc' : ∀ t, t ∈ c'.timers ↔ t ∈ c.timers ∧ t.seq ≠ w.timer) :
    Tidy c' (d.drop w.key) named where
  sound := hs
  sorted := ho
  isSet v hv := by
    obtain ⟨hv, hk⟩ := Debouncer.mem_drop.1 hv
    obtain ⟨t, ht, he, ha⟩ := h.exists_timer hv
    refine List.mem_map.2 ⟨t, (hc' t).2 ⟨ht, fun hs => hk ?_⟩, by rw [he, ha]⟩
    obtain ⟨u, hu, hue, hua⟩ := h.exists_timer hw
    obtain rfl := h.sound.apart t ht u hu (hs.trans hue.symm)
    exact (Alarm.wake.inj (ha.symm.trans hua)).1
  isOwn t ht key since cb ha := by
    obtain ⟨ht, hs⟩ := (hc' t).1 ht
    have hm := h.isOwn t ht key since cb ha
    refine Debouncer.mem_drop.2 ⟨hm, fun hk => hs ?_⟩
    rw [← h.eq_of_key hm hw hk]
  keys := h.keys.sublist (List.Sublist.map _ List.filter_sublist)
  named n hm := ⟨hn ▸ (h.named n hm).1, fun v hv => (h.named n hm).2 v (Debouncer.mem_drop.1 hv).1⟩

lemma take (h : Tidy c d named) (hw : w ∈ d.waiting) : Tidy (c.cancel w.timer) (d.drop w.key) named :=
  h.remove hw (h.sound.cancel _) (h.sorted.cancel _) rfl fun _ => Clock.mem_cancel

/-- A key scheduled that is not pending. -/
lemma push (h : Tidy c d named) (key : String) (hk : ∀ w ∈ d.waiting, w.key ≠ key) (delay since : Rat) (cb : Callback) :
    Tidy (c.setTimer delay (.wake key since cb)).2
      { d with waiting := d.waiting ++ [⟨key, since, c.nextSeq, cb⟩] } named where
  sound := h.sound.setTimer _ _
  sorted := h.sorted.setTimer h.sound _ _
  isSet w hw := by
    rcases List.mem_append.1 hw with hw | hw
    · exact List.mem_cons_of_mem _ (h.isSet w hw)
    · obtain rfl := List.mem_singleton.1 hw
      exact List.mem_cons_self
  isOwn t ht key' since' cb' ha := by
    rcases (Clock.mem_setTimer _ _).1 ht with rfl | ht
    · cases ha
      exact List.mem_append_right _ List.mem_cons_self
    · exact List.mem_append_left _ (h.isOwn t ht _ _ _ ha)
  keys := by
    rw [List.map_append, List.nodup_append]
    refine ⟨h.keys, by simp, ?_⟩
    intro a ha b hb
    obtain ⟨w, hw, rfl⟩ := List.mem_map.1 ha
    obtain rfl : b = key := by simpa using hb
    exact hk w hw
  named n hn := by
    refine ⟨Nat.lt_succ_of_lt (h.named n hn).1, fun w hw => ?_⟩
    rcases List.mem_append.1 hw with hw | hw
    · exact (h.named n hn).2 w hw
    · obtain rfl := List.mem_singleton.1 hw
      exact (h.named n hn).1.ne'

/-- A key cancelled, pending or not. -/
lemma cancel (h : Tidy c d named) (key : String) : Tidy (d.cancel c key).2 (d.cancel c key).1 named := by
  unfold Debouncer.cancel
  cases hf : d.find? key with
  | none => exact h
  | some w =>
    obtain ⟨hw, rfl⟩ := Debouncer.mem_of_find? hf
    exact h.take hw

lemma schedule (h : Tidy c d named) (key : String) (since : Rat) (cb : Callback) :
    Tidy (d.schedule c since (.wake key since cb) key cb).2 (d.schedule c since (.wake key since cb) key cb).1 named := by
  unfold Debouncer.schedule
  refine (h.cancel key).push key (fun w hw => ?_) _ since cb
  rw [Debouncer.cancel_fst] at hw
  exact (Debouncer.mem_drop.1 hw).2

lemma cancelAll (h : Tidy c d named) : Tidy (d.cancelAll c).2 (d.cancelAll c).1 named := by
  have hc : (d.cancelAll c).2.Sound ∧ (d.cancelAll c).2.Sorted ∧ (d.cancelAll c).2.nextSeq = c.nextSeq := by
    unfold Debouncer.cancelAll
    refine List.foldlRecOn (motive := fun b : Clock Alarm => b.Sound ∧ b.Sorted ∧ b.nextSeq = c.nextSeq) d.waiting _
      ⟨h.sound, h.sorted, rfl⟩ fun b hb w _ => ?_
    exact ⟨hb.1.cancel _, hb.2.1.cancel _, hb.2.2⟩
  refine ⟨hc.1, hc.2.1, nofun, fun t ht key since cb ha => ?_, .nil, fun n hn => ⟨?_, nofun⟩⟩
  · obtain ⟨ht, hw⟩ := Debouncer.mem_cancelAll.1 ht
    exact absurd rfl (hw _ (h.isOwn t ht key since cb ha))
  · rw [hc.2.2]
    exact (h.named n hn).1

/-- What is pending matters, not in which order. -/
lemma reorder (h : Tidy c d named) {d' : Debouncer String Callback} (hm : ∀ w, w ∈ d'.waiting ↔ w ∈ d.waiting)
    (hk : (d'.waiting.map (·.key)).Nodup) : Tidy c d' named where
  sound := h.sound
  sorted := h.sorted
  isSet w hw := h.isSet w ((hm w).1 hw)
  isOwn t ht key since cb ha := (hm _).2 (h.isOwn t ht key since cb ha)
  keys := hk
  named n hn := ⟨(h.named n hn).1, fun w hw => (h.named n hn).2 w ((hm w).1 hw)⟩

/-! A timer goes off. -/

variable {t : Timer Alarm} (hm : t ∈ c.timers) (hfirst : ∀ u ∈ c.timers, t.Ahead u)

include hm hfirst in
lemma rung (h : Tidy c d named) {cb : Callback} (ha : t.alarm = .call cb) : Tidy (c.ring t) d named := by
  refine h.frame (h.sound.ring hfirst) (h.sorted.ring t) le_rfl fun u key since cb' hu => ?_
  refine Clock.mem_ring.trans (h.sound.and_seq_ne_iff hm ?_)
  rw [hu, ha]
  nofun

include hm hfirst in
lemma woken (h : Tidy c d named) {key : String} {since : Rat} {cb : Callback} (ha : t.alarm = .wake key since cb) :
    Tidy (c.ring t) (d.drop key) named :=
  h.remove (h.isOwn t hm key since cb ha) (h.sound.ring hfirst) (h.sorted.ring t) rfl fun _ => Clock.mem_ring

include hm hfirst in
lemma renewed (h : Tidy c d named) {key : String} {since : Rat} {cb : Callback} (ha : t.alarm = .wake key since cb)
    (delay : Rat) : Tidy ((c.ring t).setTimer delay t.alarm).2 (d.renew ⟨key, since, c.nextSeq, cb⟩) named := by
  have hw := h.isOwn t hm key since cb ha
  have hr := Debouncer.renew_waiting hw ⟨key, since, c.nextSeq, cb⟩ rfl
  have hpush := (h.woken hm hfirst ha).push key (fun v hv => (Debouncer.mem_drop.1 hv).2) delay since cb
  rw [← ha] at hpush
  refine hpush.reorder (fun v => ?_) ?_
  · rw [hr]
    simp only [List.mem_map, List.mem_append, Debouncer.mem_drop, List.mem_singleton, beq_iff_eq]
    constructor
    · rintro ⟨v, hv, rfl⟩
      split
      · exact .inr rfl
      · exact .inl ⟨hv, ‹_›⟩
    · rintro (⟨hv, hk⟩ | rfl)
      · exact ⟨v, hv, if_neg hk⟩
      · exact ⟨_, hw, if_pos rfl⟩
  · have hkeys : (d.renew ⟨key, since, c.nextSeq, cb⟩).waiting.map (·.key) = d.waiting.map (·.key) := by
      rw [hr, List.map_map]
      refine List.map_congr_left fun v _ => ?_
      simp only [Function.comp_apply, beq_iff_eq]
      split
      · exact Eq.symm ‹_›
      · rfl
    rw [hkeys]
    exact h.keys

end Tidy

/-! ### Sound states -/

@[simp] lemma call_clock (s : State) (cb : Callback) : (s.call cb).clock = s.clock := by
  cases cb with
  | calling name commands => rfl

@[simp] lemma call_debouncer (s : State) (cb : Callback) : (s.call cb).debouncer = s.debouncer := by
  cases cb with
  | calling name commands => rfl

@[simp] lemma call_named (s : State) (cb : Callback) : (s.call cb).named = s.named := by
  cases cb with
  | calling name commands => rfl

@[simp] lemma call_skew (s : State) (cb : Callback) : (s.call cb).skew = s.skew := by
  cases cb with
  | calling name commands => rfl

namespace State

/-- The clock and the debouncer of a state are in step. -/
def Sound (s : State) : Prop := Tidy s.clock s.debouncer s.named

lemma Sound.call (h : s.Sound) (cb : Callback) : (s.call cb).Sound := by
  rw [Sound, call_clock, call_debouncer, call_named]
  exact h

lemma Sound.perform (h : s.Sound) (c : Command) : (s.perform c).Sound := by
  cases c with
  | later name delay cb => exact Tidy.later h name delay cb
  | cancel name =>
    unfold State.perform
    dsimp only
    split
    · rename_i n hn
      obtain ⟨m, hm, rfl⟩ : ∃ m, (m, n) ∈ s.named ∧ m = name := by
        obtain ⟨l₁, l₂, hl, -⟩ := List.lookup_eq_some_iff.1 hn
        exact ⟨name, by simp [hl], rfl⟩
      exact Tidy.cancel_other h (Tidy.named h _ hm).2
    · exact h
  | schedule key cb => exact Tidy.schedule h key s.seen cb
  | drop key => exact Tidy.cancel h key
  | dropAll => exact Tidy.cancelAll h
  | advance ms => exact h
  | runAll => exact h
  | flush key => exact h
  | flushAll => exact h
  | isPending key => exact h
  | skew ms => exact h
  | fail message => exact h

lemma Sound.order (h : s.Sound) (c : Command) : (s.order c).Sound := h

lemma begin_sound (start delay : Rat) : (ClockProgram.begin start delay).Sound where
  sound := ⟨nofun, nofun, nofun⟩
  sorted := .nil
  isSet := nofun
  isOwn := nofun
  keys := .nil
  named := nofun

end State

/-- **The clock and the debouncer stay in step, whatever happens.** -/
theorem Step.sound (hs : Step s e s') (h : s.Sound) : s'.Sound := by
  cases hs with
  | @performs c rest ht => exact State.Sound.perform (s := { s with tasks := rest }) h c
  | flushes ht hw =>
    obtain ⟨hm, rfl⟩ := Debouncer.mem_of_find? hw
    refine State.Sound.call ?_ _
    exact Tidy.take h hm
  | calls hr ha =>
    refine State.Sound.call ?_ _
    exact Tidy.rung hr.mem hr.first h ha
  | wakes hr ha =>
    refine State.Sound.call ?_ _
    exact Tidy.woken hr.mem hr.first h ha
  | renews hr ha => exact Tidy.renewed hr.mem hr.first h ha _
  | arrives ht hd => exact Tidy.goTo h fun u hu => (hd u hu).le
  | skips => exact h
  | flushed => exact h
  | ranAll => exact h

/-! ### The events of a program -/

/-- Something that has happened, and the state in which it did. -/
structure Moment where
  state : State
  event : Event

/-- One event after the other leads from a state to another one.  The debouncer's view of the time may change at any
point. -/
inductive Leads (s : State) : List Moment → State → Prop
  | refl : Leads s [] s
  | drift {ms : List Moment} {s' : State} (h : Leads s ms s') (skew : Rat) : Leads s ms { s' with skew }
  | snoc {ms : List Moment} {s' s'' : State} {e : Event} (h : Leads s ms s') (hs : s'.step? = some (e, s'')) :
    Leads s (ms ++ [⟨s', e⟩]) s''

/-- All that has happened in a program since its beginning.  When nothing is to be done any more, another command may be
given; the debouncer's view of the time may change at any point. -/
inductive History (start delay : Rat) : List Moment → State → Prop
  | begin : History start delay [] (ClockProgram.begin start delay)
  | order {ms : List Moment} {s : State} (h : History start delay ms s) (hr : s.tasks = []) (c : Command) :
    History start delay ms (s.order c)
  | drift {ms : List Moment} {s : State} (h : History start delay ms s) (skew : Rat) :
    History start delay ms { s with skew }
  | snoc {ms : List Moment} {s s' : State} {e : Event} (h : History start delay ms s)
    (hs : s.step? = some (e, s')) : History start delay (ms ++ [⟨s, e⟩]) s'

/-- What happens from a state on, at most a number of events. -/
def State.moments (s : State) : ℕ → List Moment
  | 0 => []
  | n + 1 => match s.step? with
    | some (e, s') => ⟨s, e⟩ :: s'.moments n
    | none => []

/-- What happens in a command. -/
def State.story (s : State) (c : Command) : List Moment :=
  (s.order c).moments ((s.order c).work * ((s.order c).work + 2))

variable {start delay : Rat} {ms ns : List Moment} {s'' : State}

lemma Leads.sound (h : Leads s ms s') (hs : s.Sound) : s'.Sound := by
  induction h with
  | refl => exact hs
  | drift _ _ ih => exact ih
  | snoc _ hstep ih => exact (step?_eq_some hstep).sound ih

lemma Leads.head (hs : s.step? = some (e, s')) (h : Leads s' ms s'') : Leads s (⟨s, e⟩ :: ms) s'' := by
  induction h with
  | refl => exact .snoc .refl hs
  | drift _ skew ih => exact ih.drift skew
  | snoc _ hstep ih => exact ih.snoc hstep

lemma leads_after (s : State) (n : ℕ) : Leads s (s.moments n) (s.after n) := by
  induction n generalizing s with
  | zero => exact .refl
  | succ n ih =>
    unfold State.moments State.after
    cases h : s.step? with
    | none => exact .refl
    | some p => exact (ih p.2).head h

lemma Leads.trans (h : Leads s ms s') (h' : Leads s' ns s'') : Leads s (ms ++ ns) s'' := by
  induction h' with
  | refl => rwa [List.append_nil]
  | drift _ skew ih => exact ih.drift skew
  | snoc _ hstep ih =>
    rw [← List.append_assoc]
    exact ih.snoc hstep

lemma History.sound (h : History start delay ms s) : s.Sound := by
  induction h with
  | begin => exact State.begin_sound start delay
  | order _ _ c ih => exact ih.order c
  | drift _ _ ih => exact ih
  | snoc _ hstep ih => exact (step?_eq_some hstep).sound ih

lemma History.leads (h : History start delay ms s) (hl : Leads s ns s') : History start delay (ms ++ ns) s' := by
  induction hl with
  | refl => rwa [List.append_nil]
  | drift _ skew ih => exact ih.drift skew
  | snoc _ hstep ih =>
    rw [← List.append_assoc]
    exact ih.snoc hstep

lemma History.obey (h : History start delay ms s) (hr : s.tasks = []) (c : Command) :
    History start delay (ms ++ s.story c) (s.obey c) := (h.order hr c).leads (leads_after _ _)

end PageTape.ClockProgram
