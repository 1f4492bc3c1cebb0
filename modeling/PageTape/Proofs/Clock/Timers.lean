import PageTape.Clock.Debouncer
import Mathlib.Data.List.Nodup
import Mathlib.Tactic.Linarith

/-!
# Timers and debouncers

* `Clock.Sound` — the numbers of the timers are apart and below the next one, and no timer is overdue; `Clock.Sorted` —
  they stand in the order in which they were set;
* `Clock.earliest?_eq_some`, `Clock.popDue?_eq_some` — the timer taken off the clock is ahead of all others
  (`Timer.Ahead`);
* `Debouncer.Tied` — every pending key has its timer on the clock, due when its delay has passed, and every timer for
  a key belongs to what is pending under it.  Scheduling, taking out and going off keep this (`Tied.schedule`,
  `Tied.cancel`, `Tied.ring`), and none of them concerns the timers of others (`Tied.frame`).
-/

namespace PageTape

namespace Timer

variable {α : Type} {t u v : Timer α}

/-- The timer is due before another one, or at the same time and was set no later. -/
def Ahead (t u : Timer α) : Prop := t.due < u.due ∨ (t.due = u.due ∧ t.seq ≤ u.seq)

lemma Ahead.refl (t : Timer α) : t.Ahead t := .inr ⟨rfl, le_rfl⟩

lemma Ahead.due (h : t.Ahead u) : t.due ≤ u.due := h.elim le_of_lt fun h => h.1.le

lemma Ahead.trans (h : t.Ahead u) (h' : u.Ahead v) : t.Ahead v := by
  rcases h with h | ⟨he, hs⟩
  · exact .inl (h.trans_le h'.due)
  · rcases h' with h' | ⟨he', hs'⟩
    · exact .inl (he.trans_lt h')
    · exact .inr ⟨he.trans he', hs.trans hs'⟩

lemma before_iff : t.before u = true ↔ t.due < u.due ∨ t.due = u.due ∧ t.seq < u.seq := by
  simp [before]

/-- Of two timers with different numbers, the one ahead comes before the other. -/
lemma Ahead.before (h : t.Ahead u) (hs : t.seq ≠ u.seq) : t.before u = true :=
  before_iff.2 (h.imp_right fun h => ⟨h.1, h.2.lt_of_ne hs⟩)

end Timer

namespace Clock

variable {α : Type} {c : Clock α} {t u : Timer α}

/-- The timers of the clock are told apart by their numbers, and none of them is overdue. -/
structure Sound (c : Clock α) : Prop where
  fresh : ∀ t ∈ c.timers, t.seq < c.nextSeq
  apart : ∀ t ∈ c.timers, ∀ u ∈ c.timers, t.seq = u.seq → t = u
  ahead : ∀ t ∈ c.timers, c.now ≤ t.due

/-- The clock at the due time of a timer, which is taken off. -/
def ring (c : Clock α) (t : Timer α) : Clock α := { c.cancel t.seq with now := t.due }

@[simp] lemma mem_cancel {n : Nat} : t ∈ (c.cancel n).timers ↔ t ∈ c.timers ∧ t.seq ≠ n := by simp [cancel]

@[simp] lemma mem_ring : u ∈ (c.ring t).timers ↔ u ∈ c.timers ∧ u.seq ≠ t.seq := mem_cancel

@[simp] lemma ring_now : (c.ring t).now = t.due := rfl

@[simp] lemma setTimer_fst (delay : Rat) (a : α) : (c.setTimer delay a).1 = c.nextSeq := rfl

lemma mem_setTimer (delay : Rat) (a : α) :
    t ∈ (c.setTimer delay a).2.timers ↔
      t = ⟨c.now + (if delay < 0 then 0 else delay), c.nextSeq, a⟩ ∨ t ∈ c.timers := by
  simp [setTimer]

lemma length_cancel_lt (h : t ∈ c.timers) : (c.cancel t.seq).timers.length < c.timers.length := by
  refine List.length_filter_lt_length_iff_exists.2 ⟨t, h, ?_⟩
  simp

/-! ### The timer that is due first -/

lemma first_ahead (a b : Timer α) : (Timer.first a b).Ahead a ∧ (Timer.first a b).Ahead b := by
  unfold Timer.first Timer.before
  split
  · rename_i h
    simp only [Bool.or_eq_true, Bool.and_eq_true, decide_eq_true_eq, beq_iff_eq] at h
    exact ⟨h.imp_right fun h => ⟨h.1, h.2.le⟩, .refl b⟩
  · rename_i h
    simp only [Bool.or_eq_true, Bool.and_eq_true, decide_eq_true_eq, beq_iff_eq, not_or, not_and] at h
    refine ⟨.refl a, (lt_or_eq_of_le (not_lt.1 h.1)).imp_right fun he => ⟨he, not_lt.1 (h.2 he.symm)⟩⟩

lemma first_eq (a b : Timer α) : Timer.first a b = a ∨ Timer.first a b = b := by
  unfold Timer.first
  split <;> simp

lemma foldl_first (l : List (Timer α)) (t : Timer α) :
    (l.foldl Timer.first t = t ∨ l.foldl Timer.first t ∈ l) ∧ (l.foldl Timer.first t).Ahead t ∧
      ∀ u ∈ l, (l.foldl Timer.first t).Ahead u := by
  induction l generalizing t with
  | nil => simp [Timer.Ahead.refl]
  | cons b l ih =>
    obtain ⟨h₁, h₂, h₃⟩ := ih (Timer.first t b)
    have hd := first_ahead t b
    simp only [List.foldl_cons, List.mem_cons]
    refine ⟨?_, h₂.trans hd.1, ?_⟩
    · rcases h₁ with h₁ | h₁
      · rcases first_eq t b with h | h
        · exact .inl (h₁.trans h)
        · exact .inr (.inl (h₁.trans h))
      · exact .inr (.inr h₁)
    · rintro u (rfl | hu)
      · exact h₂.trans hd.2
      · exact h₃ u hu

/-- The timer found is on the clock, and none is ahead of it. -/
lemma earliest?_eq_some (h : c.earliest? = some t) : t ∈ c.timers ∧ ∀ u ∈ c.timers, t.Ahead u := by
  unfold earliest? at h
  split at h
  · cases h
  · rename_i b l hl
    obtain rfl : l.foldl Timer.first b = t := by simpa using h
    obtain ⟨h₁, h₂, h₃⟩ := foldl_first l b
    rw [hl]
    refine ⟨by simpa using h₁, ?_⟩
    simpa using ⟨h₂, h₃⟩

lemma earliest?_eq_none : c.earliest? = none ↔ c.timers = [] := by
  unfold earliest?
  split <;> simp_all

lemma popDue?_eq_some {target : Rat} {c' : Clock α} (h : c.popDue? target = some (t, c')) :
    t ∈ c.timers ∧ (∀ u ∈ c.timers, t.Ahead u) ∧ t.due ≤ target ∧ c' = c.ring t := by
  unfold popDue? at h
  split at h
  · rename_i v hv
    split at h
    · rename_i hd
      simp only [Option.some.injEq, Prod.mk.injEq] at h
      obtain ⟨rfl, rfl⟩ := h
      obtain ⟨h₁, h₂⟩ := earliest?_eq_some hv
      exact ⟨h₁, h₂, hd, rfl⟩
    · cases h
  · cases h

/-- Where no timer is taken off by a time, all are due after it. -/
lemma popDue?_eq_none {target : Rat} (h : c.popDue? target = none) : ∀ t ∈ c.timers, target < t.due := by
  intro t ht
  unfold popDue? at h
  split at h
  · rename_i v hv
    split at h
    · cases h
    · exact (not_le.1 ‹_›).trans_le ((earliest?_eq_some hv).2 t ht).due
  · rename_i hn
    rw [earliest?_eq_none.1 hn] at ht
    cases ht

/-- What is due by a time is due by a later one. -/
lemma popDue?_of_le {a b : Rat} {q : Timer α × Clock α} (h : c.popDue? a = some q) (hab : a ≤ b) :
    c.popDue? b = some q := by
  unfold popDue? at h ⊢
  split at h
  · split at h
    · rw [if_pos (le_trans ‹_› hab)]
      exact h
    · cases h
  · cases h

/-! ### Sound clocks -/

namespace Sound

lemma cancel (h : c.Sound) (n : Nat) : (c.cancel n).Sound where
  fresh t ht := h.fresh t (mem_cancel.1 ht).1
  apart t ht u hu := h.apart t (mem_cancel.1 ht).1 u (mem_cancel.1 hu).1
  ahead t ht := h.ahead t (mem_cancel.1 ht).1

lemma setTimer (h : c.Sound) (delay : Rat) (a : α) : (c.setTimer delay a).2.Sound where
  fresh t ht := by
    rcases (mem_setTimer delay a).1 ht with rfl | ht
    · exact Nat.lt_succ_self _
    · exact Nat.lt_succ_of_lt (h.fresh t ht)
  apart t ht u hu e := by
    rcases (mem_setTimer delay a).1 ht with rfl | ht <;> rcases (mem_setTimer delay a).1 hu with rfl | hu
    · rfl
    · exact absurd e.symm (h.fresh u hu).ne
    · exact absurd e (h.fresh t ht).ne
    · exact h.apart t ht u hu e
  ahead t ht := by
    rcases (mem_setTimer delay a).1 ht with rfl | ht
    · show c.now ≤ c.now + _
      split <;> linarith
    · exact h.ahead t ht

lemma ring (h : c.Sound) (hfirst : ∀ u ∈ c.timers, t.Ahead u) : (c.ring t).Sound where
  fresh u hu := h.fresh u (mem_ring.1 hu).1
  apart u hu v hv := h.apart u (mem_ring.1 hu).1 v (mem_ring.1 hv).1
  ahead u hu := (hfirst u (mem_ring.1 hu).1).due

/-- A timer taken off by its number is not one for something else. -/
lemma and_seq_ne_iff (h : c.Sound) (hu : u ∈ c.timers) (ha : t.alarm ≠ u.alarm) :
    t ∈ c.timers ∧ t.seq ≠ u.seq ↔ t ∈ c.timers :=
  and_iff_left_of_imp fun ht e => ha (by rw [h.apart t ht u hu e])

lemma goTo (h : c.Sound) {target : Rat} (hdue : ∀ u ∈ c.timers, target ≤ u.due) :
    ({ c with now := target } : Clock α).Sound where
  fresh := h.fresh
  apart := h.apart
  ahead := hdue

end Sound

/-! ### The order in which timers were set -/

/-- The timers stand on the clock in the order in which they were set, the newest first. -/
def Sorted (c : Clock α) : Prop := c.timers.Pairwise fun t u => u.seq < t.seq

namespace Sorted

lemma cancel (h : c.Sorted) (n : ℕ) : (c.cancel n).Sorted := List.Pairwise.filter _ h

lemma setTimer (h : c.Sorted) (hc : c.Sound) (delay : Rat) (a : α) : (c.setTimer delay a).2.Sorted :=
  List.pairwise_cons.2 ⟨hc.fresh, h⟩

lemma ring (h : c.Sorted) (t : Timer α) : (c.ring t).Sorted := h.cancel t.seq

lemma nodup (h : c.Sorted) : (c.timers.map (·.seq)).Nodup :=
  (List.pairwise_map.2 (h.imp fun h => h.ne')).imp id

end Sorted

end Clock

namespace Debouncer

variable {α κ β : Type} {d : Debouncer κ β} {c : Clock α} {alarm : κ → α} {w : Waiting κ β} {k : κ}

/-- How long a key waits: a delay below zero counts as none. -/
def patience (d : Debouncer κ β) : Rat := if d.delay < 0 then 0 else d.delay

/-- The timer of what is pending under a key. -/
def timerOf (d : Debouncer κ β) (alarm : κ → α) (w : Waiting κ β) : Timer α :=
  ⟨w.since + d.patience, w.timer, alarm w.key⟩

/-- Every pending key has its timer on the clock, and every timer for a key belongs to what is pending under it. -/
structure Tied (d : Debouncer κ β) (alarm : κ → α) (c : Clock α) : Prop where
  isSet : ∀ w ∈ d.waiting, d.timerOf alarm w ∈ c.timers
  isOwn : ∀ t ∈ c.timers, ∀ k, t.alarm = alarm k → ∃ w ∈ d.waiting, w.key = k ∧ w.timer = t.seq
  nodup : (d.waiting.map (·.key)).Nodup

/-- At least its delay has passed since a key was scheduled when its timer is due. -/
lemma hasPassed_timerOf (d : Debouncer κ β) (alarm : κ → α) (w : Waiting κ β) :
    hasPassed w.since (d.timerOf alarm w).due d.delay = true := by
  rw [hasPassed, decide_eq_true_iff]
  simp only [timerOf, patience]
  split <;> linarith

namespace Tied

variable (h : d.Tied alarm c)
include h

/-- The timer of a key on the clock is the one of what is pending. -/
lemma timer_eq (hc : c.Sound) {t : Timer α} (ht : t ∈ c.timers) (ha : t.alarm = alarm k) :
    ∃ w ∈ d.waiting, w.key = k ∧ d.timerOf alarm w = t := by
  obtain ⟨w, hw, hk, hs⟩ := h.isOwn t ht k ha
  exact ⟨w, hw, hk, hc.apart _ (h.isSet w hw) t ht hs⟩

lemma eq_of_key {v : Waiting κ β} (hw : w ∈ d.waiting) (hv : v ∈ d.waiting) (e : w.key = v.key) : w = v :=
  List.inj_on_of_nodup_map h.nodup hw hv e

lemma eq_of_timer (hc : c.Sound) (hinj : Function.Injective alarm) {v : Waiting κ β} (hw : w ∈ d.waiting)
    (hv : v ∈ d.waiting) (e : w.timer = v.timer) : w = v := by
  have ht := hc.apart _ (h.isSet w hw) _ (h.isSet v hv) e
  exact h.eq_of_key hw hv (hinj (congrArg Timer.alarm ht))

/-- Timers of others do not concern a debouncer. -/
lemma frame {c' : Clock α} (hc' : ∀ t, (∃ k, t.alarm = alarm k) → (t ∈ c'.timers ↔ t ∈ c.timers)) :
    d.Tied alarm c' where
  isSet w hw := (hc' _ ⟨w.key, rfl⟩).2 (h.isSet w hw)
  isOwn t ht k ha := h.isOwn t ((hc' t ⟨k, ha⟩).1 ht) k ha
  nodup := h.nodup

/-- A key scheduled that is not pending. -/
lemma push (hinj : Function.Injective alarm)
    (hk : ∀ w ∈ d.waiting, w.key ≠ k) (payload : β) :
    ({ d with waiting := d.waiting ++ [⟨k, c.now, c.nextSeq, payload⟩] } : Debouncer κ β).Tied alarm
      (c.setTimer d.delay (alarm k)).2 where
  isSet w hw := by
    rw [Clock.mem_setTimer]
    rcases List.mem_append.1 hw with hw | hw
    · exact .inr (h.isSet w hw)
    · obtain rfl := List.mem_singleton.1 hw
      exact .inl rfl
  isOwn t ht k' ha := by
    rcases (Clock.mem_setTimer _ _).1 ht with rfl | ht
    · exact ⟨⟨k, c.now, c.nextSeq, payload⟩, by simp, hinj ha, rfl⟩
    · obtain ⟨w, hw, h'⟩ := h.isOwn t ht k' ha
      exact ⟨w, List.mem_append_left _ hw, h'⟩
  nodup := by
    rw [List.map_append, List.nodup_append]
    refine ⟨h.nodup, by simp, ?_⟩
    intro a ha b hb
    obtain ⟨w, hw, rfl⟩ := List.mem_map.1 ha
    obtain rfl : b = k := by simpa using hb
    exact hk w hw

end Tied

/-! ### Keys taken out and scheduled -/

lemma mem_cancelAll {t : Timer α} :
    t ∈ (d.cancelAll c).2.timers ↔ t ∈ c.timers ∧ ∀ w ∈ d.waiting, t.seq ≠ w.timer := by
  unfold cancelAll
  generalize d.waiting = ws
  induction ws generalizing c with
  | nil => simp
  | cons w ws ih =>
    rw [List.foldl_cons]
    refine Iff.trans (ih (c := c.cancel w.timer)) ?_
    simp [and_assoc]

lemma cancelAll_now (c : Clock α) : (d.cancelAll c).2.now = c.now :=
  List.foldlRecOn (motive := fun b : Clock α => b.now = c.now) d.waiting _ rfl fun _ hb _ _ => hb

lemma cancelAll_sublist (c : Clock α) : (d.cancelAll c).2.timers.Sublist c.timers := by
  unfold cancelAll
  generalize d.waiting = ws
  induction ws generalizing c with
  | nil => exact .refl _
  | cons w ws ih => exact (ih (c.cancel w.timer)).trans List.filter_sublist

section Keys

variable [BEq κ]

@[simp] lemma drop_timerOf (k : κ) : (d.drop k).timerOf alarm w = d.timerOf alarm w := rfl

lemma cancel_now (c : Clock α) (k : κ) : (d.cancel c k).2.now = c.now := by
  unfold cancel
  cases d.find? k <;> rfl

lemma schedule_now (c : Clock α) (now : Rat) (a : α) (payload : β) :
    (d.schedule c now a k payload).2.now = c.now := cancel_now c k

lemma cancel_sublist (c : Clock α) (k : κ) : (d.cancel c k).2.timers.Sublist c.timers := by
  unfold cancel
  cases d.find? k with
  | none => exact .refl _
  | some w => exact List.filter_sublist

lemma cancel_delay (c : Clock α) (k : κ) : (d.cancel c k).1.delay = d.delay := by
  unfold cancel
  cases d.find? k <;> rfl

lemma schedule_delay (c : Clock α) (now : Rat) (a : α) (payload : β) :
    (d.schedule c now a k payload).1.delay = d.delay := cancel_delay c k

variable [LawfulBEq κ]

lemma mem_of_find? (h : d.find? k = some w) : w ∈ d.waiting ∧ w.key = k := by
  unfold find? at h
  exact ⟨List.mem_of_find?_eq_some h, by simpa using List.find?_some h⟩

lemma find?_eq_none : d.find? k = none ↔ ∀ w ∈ d.waiting, w.key ≠ k := by
  simp [find?]

@[simp] lemma mem_drop : w ∈ (d.drop k).waiting ↔ w ∈ d.waiting ∧ w.key ≠ k := by
  simp [drop]

/-- A key that is not pending need not be taken out. -/
lemma drop_of_find?_eq_none (h : d.find? k = none) : d.drop k = d := by
  have hd : d.waiting.filter (!·.key == k) = d.waiting := by
    rw [List.filter_eq_self]
    simpa using find?_eq_none.1 h
  simp only [drop, hd]

lemma cancel_fst (c : Clock α) (k : κ) : (d.cancel c k).1 = d.drop k := by
  unfold cancel
  cases h : d.find? k with
  | some w => rfl
  | none => exact (drop_of_find?_eq_none h).symm

/-- Where a key is pending, a new entry stands in the place of the one it had. -/
lemma renew_waiting (hw : w ∈ d.waiting) (v : Waiting κ β) (hk : v.key = w.key) :
    (d.renew v).waiting = d.waiting.map fun u => if u.key == v.key then v else u := by
  have hp : d.isPending v.key = true := by
    rw [isPending, Option.isSome_iff_ne_none]
    exact fun hf => find?_eq_none.1 hf w hw hk.symm
  unfold renew
  rw [if_pos hp]

/-- The key that was scheduled first is taken out. -/
lemma Tied.drop_eq (h : d.Tied alarm c) {rest : List (Waiting κ β)} (hw : d.waiting = w :: rest) :
    (d.drop w.key).waiting = rest := by
  have hnd := h.nodup
  rw [hw, List.map_cons, List.nodup_cons] at hnd
  have hne : ∀ v ∈ rest, v.key ≠ w.key := fun v hv e => hnd.1 (e ▸ List.mem_map_of_mem hv)
  simpa [drop, hw] using hne

/-- What is pending is found under its key. -/
lemma Tied.find?_eq (h : d.Tied alarm c) (hw : w ∈ d.waiting) : d.find? w.key = some w := by
  cases hf : d.find? w.key with
  | none => exact absurd rfl (find?_eq_none.1 hf w hw)
  | some v =>
    obtain ⟨hv, hk⟩ := mem_of_find? hf
    rw [h.eq_of_key hv hw hk]

/-- A key is taken out together with its timer. -/
lemma Tied.remove (h : d.Tied alarm c) (hc : c.Sound) (hinj : Function.Injective alarm) (hw : w ∈ d.waiting)
    {c' : Clock α} (hc' : ∀ t, t ∈ c'.timers ↔ t ∈ c.timers ∧ t.seq ≠ w.timer) :
    (d.drop w.key).Tied alarm c' where
  isSet v hv := by
    obtain ⟨hv, hk⟩ := mem_drop.1 hv
    rw [drop_timerOf, hc']
    refine ⟨h.isSet v hv, fun e => hk ?_⟩
    rw [h.eq_of_timer hc hinj hv hw e]
  isOwn t ht k ha := by
    obtain ⟨ht, hs⟩ := (hc' t).1 ht
    obtain ⟨v, hv, hk, hvt⟩ := h.isOwn t ht k ha
    refine ⟨v, mem_drop.2 ⟨hv, fun e => hs ?_⟩, hk, hvt⟩
    rw [← hvt, h.eq_of_key hv hw e]
  nodup := h.nodup.sublist (List.Sublist.map _ List.filter_sublist)

/-- The keys that are pending once one is scheduled: the others as before, and that one last. -/
lemma waiting_schedule (c : Clock α) (now : Rat) (a : α) (payload : β) :
    (d.schedule c now a k payload).1.waiting =
      (d.drop k).waiting ++ [⟨k, now, c.nextSeq, payload⟩] := by
  unfold schedule cancel
  cases h : d.find? k with
  | some w => rfl
  | none => rw [drop_of_find?_eq_none h]; rfl

lemma Tied.schedule (h : d.Tied alarm c) (hc : c.Sound) (hinj : Function.Injective alarm) (payload : β) :
    (d.schedule c c.now (alarm k) k payload).1.Tied alarm (d.schedule c c.now (alarm k) k payload).2 ∧
      (d.schedule c c.now (alarm k) k payload).2.Sound := by
  unfold Debouncer.schedule Debouncer.cancel
  cases hf : d.find? k with
  | none => exact ⟨h.push hinj (find?_eq_none.1 hf) payload, hc.setTimer _ _⟩
  | some w =>
    obtain ⟨hw, rfl⟩ := mem_of_find? hf
    have hr : (d.drop w.key).Tied alarm (c.cancel w.timer) := h.remove hc hinj hw fun t => Clock.mem_cancel
    exact ⟨hr.push hinj (fun v hv => (mem_drop.1 hv).2) payload, (hc.cancel _).setTimer _ _⟩

/-- Scheduling a key does not touch the timers that are not for it. -/
lemma Tied.mem_schedule (h : d.Tied alarm c) (hc : c.Sound) (payload : β) {t : Timer α} (ht : t.alarm ≠ alarm k) :
    t ∈ (d.schedule c c.now (alarm k) k payload).2.timers ↔ t ∈ c.timers := by
  have hne : ∀ (c : Clock α), t ∈ (c.setTimer d.delay (alarm k)).2.timers ↔ t ∈ c.timers := by
    intro c
    rw [Clock.mem_setTimer]
    refine or_iff_right ?_
    rintro rfl
    exact ht rfl
  unfold Debouncer.schedule Debouncer.cancel
  cases hf : d.find? k with
  | none => exact hne c
  | some w =>
    obtain ⟨hw, rfl⟩ := mem_of_find? hf
    exact (hne _).trans (Clock.mem_cancel.trans (hc.and_seq_ne_iff (h.isSet w hw) ht))

end Keys

end Debouncer

end PageTape
