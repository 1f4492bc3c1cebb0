import PageTape.Proofs.Clock.Timers

/-!
# What is set on a clock, whatever its timers are called

* `Clock.plan` — the due times and the alarms of the timers, the newest first: all that tells two clocks apart but the
  numbers of their timers;
* `Plan.first?` — what is due first in a plan: of two that are due at the same time, the one that was set first.  It is
  what the clock takes off first (`Sorted.first?_plan`), and stays so where other things are left out of the plan;
* `Debouncer.Tied.plan_schedule`, `Tied.plan_remove` — scheduling a key, and taking one out, as its plan shows it.
-/

namespace PageTape

namespace Plan

variable {α : Type} {e f x : Rat × α} {l older : List (Rat × α)}

/-- What is due first in a plan that has the newest first: of two that are due at the same time, the older one. -/
def first? : List (Rat × α) → Option (Rat × α)
  | [] => none
  | e :: older => match first? older with
    | none => some e
    | some f => if f.1 ≤ e.1 then some f else some e

/-- What is due first of a plan with one more entry: what was so before, unless that is later than the entry. -/
lemma first?_cons : first? (x :: older) = some e ↔
    (first? older = some e ∧ e.1 ≤ x.1) ∨ (x = e ∧ ∀ f, first? older = some f → x.1 < f.1) := by
  show (match first? older with
    | none => some x
    | some f => if f.1 ≤ x.1 then some f else some x) = some e ↔ _
  cases first? older with
  | none => simp
  | some f =>
    by_cases hle : f.1 ≤ x.1
    · simp only [if_pos hle, Option.some.injEq, forall_eq', not_lt.2 hle, and_false, or_false]
      exact ⟨fun he => ⟨he, he ▸ hle⟩, And.left⟩
    · simp only [if_neg hle, Option.some.injEq, forall_eq', not_le.1 hle, and_true]
      exact ⟨.inr, fun h => h.resolve_left fun ⟨he, hx⟩ => hle (he ▸ hx)⟩

/-- Something is due first in a plan that is not empty. -/
lemma exists_first? (hf : f ∈ l) : ∃ e, first? l = some e := by
  cases l with
  | nil => cases hf
  | cons x older =>
    by_cases hlater : ∀ e, first? older = some e → x.1 < e.1
    · exact ⟨x, first?_cons.2 (.inr ⟨rfl, hlater⟩)⟩
    · push Not at hlater
      obtain ⟨e, he, hle⟩ := hlater
      exact ⟨e, first?_cons.2 (.inl ⟨he, hle⟩)⟩

lemma first?_mem (h : first? l = some e) : e ∈ l := by
  induction l with
  | nil => cases h
  | cons x older ih =>
    rcases first?_cons.1 h with ⟨h, -⟩ | ⟨rfl, -⟩
    · exact List.mem_cons_of_mem _ (ih h)
    · exact List.mem_cons_self

lemma first?_le (h : first? l = some e) : ∀ f ∈ l, e.1 ≤ f.1 := by
  induction l generalizing e with
  | nil => cases h
  | cons x older ih =>
    rcases first?_cons.1 h with ⟨h, hle⟩ | ⟨rfl, hlater⟩
    · exact List.forall_mem_cons.2 ⟨hle, ih h⟩
    · refine List.forall_mem_cons.2 ⟨le_rfl, fun g hg => ?_⟩
      obtain ⟨f, hf⟩ := exists_first? hg
      exact (hlater f hf).le.trans (ih hf g hg)

/-- What is due first is so also where other things are left out. -/
lemma first?_filter (q : Rat × α → Bool) (h : first? l = some e) (he : q e = true) : first? (l.filter q) = some e := by
  induction l generalizing e with
  | nil => cases h
  | cons x older ih =>
    rcases first?_cons.1 h with ⟨h, hle⟩ | ⟨rfl, hlater⟩
    · rw [List.filter_cons]
      split
      · exact first?_cons.2 (.inl ⟨ih h he, hle⟩)
      · exact ih h he
    · rw [List.filter_cons_of_pos he]
      refine first?_cons.2 (.inr ⟨rfl, fun g hg => ?_⟩)
      -- what is left is later than the entry, as all that was there is
      have hmem := (List.mem_filter.1 (first?_mem hg)).1
      obtain ⟨f, hf⟩ := exists_first? hmem
      exact (hlater f hf).trans_le (first?_le hf g hmem)

end Plan

namespace Clock

variable {α : Type} {c : Clock α} {t : Timer α}

/-- What is set on a clock, the newest first: when it is due, and its alarm. -/
def plan (c : Clock α) : List (Rat × α) := c.timers.map fun t => (t.due, t.alarm)

namespace Sorted

/-- The timer that no other one is ahead of is the first of the plan. -/
lemma first?_plan (h : c.Sorted) (ht : t ∈ c.timers) (hfirst : ∀ u ∈ c.timers, t.Ahead u) :
    Plan.first? c.plan = some (t.due, t.alarm) := by
  unfold Sorted at h
  unfold plan
  generalize c.timers = timers at *
  induction timers with
  | nil => cases ht
  | cons u older ih =>
    obtain ⟨hnewer, holder⟩ := List.pairwise_cons.1 h
    obtain ⟨hu, hrest⟩ := List.forall_mem_cons.1 hfirst
    rcases List.mem_cons.1 ht with rfl | ht
    · refine Plan.first?_cons.2 (.inr ⟨rfl, fun f hf => ?_⟩)
      obtain ⟨v, hv, rfl⟩ := List.mem_map.1 (Plan.first?_mem hf)
      -- an older timer has a smaller number, so that it must be due later
      exact (hrest v hv).resolve_right fun he => (hnewer v hv).not_ge he.2
    · exact Plan.first?_cons.2 (.inl ⟨ih holder ht hrest, hu.due⟩)

end Sorted

/-- Where alarms tell timers apart, a timer is taken off as its alarm is taken out of the plan. -/
lemma plan_cancel [DecidableEq α] (ht : t ∈ c.timers) (hc : c.Sound)
    (halarm : ∀ u ∈ c.timers, u.alarm = t.alarm → u = t) :
    (c.cancel t.seq).plan = c.plan.filter (·.2 != t.alarm) := by
  unfold plan cancel
  rw [List.filter_map]
  congr 1
  refine List.filter_congr fun u hu => ?_
  have hiff : u.seq = t.seq ↔ u.alarm = t.alarm :=
    ⟨fun e => by rw [hc.apart u hu t ht e], fun e => by rw [halarm u hu e]⟩
  simp [bne, Bool.beq_eq_decide_eq, hiff]

/-- Nothing of an alarm is taken out of a plan that has nothing for it. -/
lemma filter_plan [DecidableEq α] {a : α} (h : ∀ u ∈ c.timers, u.alarm ≠ a) :
    c.plan.filter (·.2 != a) = c.plan := by
  refine List.filter_eq_self.2 fun e he => ?_
  obtain ⟨u, hu, rfl⟩ := List.mem_map.1 he
  simpa using h u hu

end Clock

namespace Debouncer

variable {α κ β : Type} {d : Debouncer κ β} {c : Clock α} {alarm : κ → α} {w : Waiting κ β} {k : κ}

lemma sorted_schedule [BEq κ] [LawfulBEq κ] (hs : c.Sorted) (hc : c.Sound) (d : Debouncer κ β) (a : α) (k : κ)
    (payload : β) : (d.schedule c c.now a k payload).2.Sorted := by
  unfold Debouncer.schedule Debouncer.cancel
  cases d.find? k with
  | none => exact hs.setTimer hc _ _
  | some w => exact (hs.cancel _).setTimer (hc.cancel _) _ _

namespace Tied

/-- A key has one timer. -/
lemma eq_of_alarm (h : d.Tied alarm c) (hc : c.Sound) (hw : w ∈ d.waiting) {u : Timer α} (hu : u ∈ c.timers)
    (ha : u.alarm = alarm w.key) : u = d.timerOf alarm w := by
  obtain ⟨v, hv, hk, rfl⟩ := h.timer_eq hc hu ha
  rw [h.eq_of_key hv hw hk]

variable [DecidableEq α]

/-- A key is taken out together with its timer. -/
lemma plan_remove (h : d.Tied alarm c) (hc : c.Sound) (hw : w ∈ d.waiting) :
    (c.cancel w.timer).plan = c.plan.filter (·.2 != alarm w.key) :=
  Clock.plan_cancel (h.isSet w hw) hc fun _ hu ha => h.eq_of_alarm hc hw hu ha

/-- A key that does not wait has no timer. -/
lemma plan_of_none (h : d.Tied alarm c) (hk : ∀ w ∈ d.waiting, w.key ≠ k) :
    c.plan.filter (·.2 != alarm k) = c.plan :=
  Clock.filter_plan fun u hu ha => by
    obtain ⟨w, hw, hwk, -⟩ := h.isOwn u hu k ha
    exact hk w hw hwk

/-- A key that is scheduled comes first in the plan, in place of what it has there. -/
lemma plan_schedule [BEq κ] [LawfulBEq κ] (h : d.Tied alarm c) (hc : c.Sound) (payload : β) :
    (d.schedule c c.now (alarm k) k payload).2.plan =
      (c.now + d.patience, alarm k) :: c.plan.filter (·.2 != alarm k) := by
  unfold Debouncer.schedule Debouncer.cancel
  cases hf : d.find? k with
  | none => rw [h.plan_of_none (find?_eq_none.1 hf)]; rfl
  | some w =>
    obtain ⟨hw, rfl⟩ := mem_of_find? hf
    rw [← h.plan_remove hc hw]
    rfl

end Tied

end Debouncer

end PageTape
