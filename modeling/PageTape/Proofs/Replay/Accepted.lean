import PageTape.Replay.Scenario
import Mathlib.Tactic.Common

/-!
# What a scenario accepts

* `Checked.seq_eq_good` and its kin — data that are checked part by part are good if all parts are;
* `Scenario.accepts` — in a scenario that was read no pause and no request takes less than no time.  How long it takes to
  type a character is not checked like that.
-/

namespace PageTape

namespace Checked

variable {α β : Type}

@[simp] lemma map_eq_good {f : α → β} {x : Checked α} {b : β} : f <$> x = .good b ↔ ∃ a, x = .good a ∧ f a = b := by
  cases x <;> simp [Functor.map, Checked.map]

@[simp] lemma seq_eq_good {f : Checked (α → β)} {x : Checked α} {b : β} :
    f <*> x = .good b ↔ ∃ g a, f = .good g ∧ x = .good a ∧ g a = b := by
  cases f <;> cases x <;> simp [Seq.seq, Checked.ap]

@[simp] lemma within_eq_good {place : Place} {x : Checked α} {a : α} : x.within place = .good a ↔ x = .good a := by
  cases x <;> simp [within]

@[simp] lemma andThen_eq_good {x : Checked α} {f : α → Checked β} {b : β} :
    x.andThen f = .good b ↔ ∃ a, x = .good a ∧ f a = .good b := by
  cases x <;> simp [andThen]

end Checked

namespace Check

variable {α : Type}

/-- What a field is has passed its check, or is its default. -/
lemma field_eq_good {es : List (String × Datum)} {key name : String} {check : Check α} {default : Option α} {a : α}
    (h : field es key name check default = .good a) : (∃ d, check d = .good a) ∨ default = some a := by
  unfold field at h
  split at h
  · exact .inl ⟨_, Checked.within_eq_good.1 h⟩
  · split at h
    · exact .inl ⟨_, Checked.within_eq_good.1 h⟩
    · split at h
      · exact .inr (by rw [Checked.good.inj h])
      · cases h

lemma natural_eq_good {d : Datum} {n : Int} (h : natural d = .good n) : 0 ≤ n := by
  obtain ⟨m, -, hm⟩ := Checked.andThen_eq_good.1 h
  split at hm
  · cases hm
  · obtain rfl := Checked.good.inj hm
    omega

end Check

namespace Replay

/-- A pause, or a request, does not take less than no time. -/
def Event.Accepted : Event → Prop
  | wait ms => 0 ≤ ms
  | xhr _ _ _ duration => 0 ≤ duration
  | _ => True

lemma Event.accepted_of_check {d : Datum} {e : Event} (h : check? d = some (.good e)) : e.Accepted := by
  unfold check? at h
  split at h
  · rename_i entries
    obtain ⟨k, hk, he⟩ := Option.map_eq_some_iff.1 h
    have hmem := List.mem_of_find?_eq_some hk
    simp only [kinds, List.mem_cons, List.not_mem_nil, or_false] at hmem
    cases e with
    | wait ms =>
      -- the check of one kind only gives a pause
      obtain ⟨es, hms⟩ : ∃ es, Check.required es "wait" "wait" Check.natural = .good ms := by
        rcases hmem with rfl | rfl | rfl | rfl | rfl | rfl | rfl | rfl | rfl | rfl | rfl | rfl | rfl | rfl | rfl | rfl <;>
          simp at he
        exact ⟨_, he⟩
      exact ((Check.field_eq_good hms).resolve_right (by simp)).elim fun _ => Check.natural_eq_good
    | xhr url method status duration =>
      obtain ⟨es, hduration⟩ : ∃ es, Check.withDefault es "duration" "duration" Check.natural 0 = .good duration := by
        rcases hmem with rfl | rfl | rfl | rfl | rfl | rfl | rfl | rfl | rfl | rfl | rfl | rfl | rfl | rfl | rfl | rfl <;>
          simp at he
        exact ⟨_, he.2⟩
      rcases Check.field_eq_good hduration with ⟨_, h⟩ | h
      · exact Check.natural_eq_good h
      · exact (Option.some.inj h).symm ▸ Int.le_refl 0
    | _ => trivial
  · cases h

lemma accepted_of_checkEvents {ds : List Datum} {es : List Event} (h : checkEvents ds = .good es) :
    ∀ e ∈ es, e.Accepted := by
  induction ds generalizing es with
  | nil =>
    cases h
    exact nofun
  | cons d rest ih =>
    unfold checkEvents at h
    split at h
    · cases h
    · rename_i event hevent
      obtain ⟨e, rfl, hrest⟩ := Checked.andThen_eq_good.1 h
      obtain ⟨es, hes, rfl⟩ := Checked.map_eq_good.1 hrest
      exact List.forall_mem_cons.2 ⟨Event.accepted_of_check hevent, ih hes⟩

/-- **In a scenario that was read no pause and no request takes less than no time.** -/
theorem Scenario.accepts {d : Datum} {scenario : Scenario} (h : Scenario.read d = .ok scenario) :
    ∀ e ∈ scenario.events, e.Accepted := by
  unfold Scenario.read at h
  split at h
  · split at h
    · cases h
    · rename_i items hitems
      dsimp only at h
      generalize hread : (Scenario.mk <$> _ <*> _ <*> _ : Checked Scenario) = read at h
      cases read with
      | bad issues => cases h
      | good s =>
        obtain rfl : s = scenario := by cases h; rfl
        simp only [Checked.seq_eq_good, Checked.map_eq_good] at hread
        obtain ⟨_, events, ⟨_, _, ⟨_, -, rfl⟩, -, rfl⟩, hevents, rfl⟩ := hread
        exact accepted_of_checkEvents (Checked.within_eq_good.1 hevents)
  · cases h

end Replay

end PageTape
