import Mathlib.Tactic.Lemma
import PageTape.Recording.Codec

/-!
# Data

* `Datum.lookup_optional` and its companions — the entry of a map whose parts may be absent;
* `Datum.IsTree` — data of texts, whole numbers and truth values in lists and maps, as everything that is recorded is
  written;
* equality of data can be decided.
-/

namespace PageTape

namespace Datum

/-! ### Entries -/

@[simp] lemma lookup_entry (key other : String) (d : Datum) (es : List (String × Datum)) :
    ((key, d) :: es).lookup other = if other == key then some d else es.lookup other := by
  rw [List.lookup_cons]
  cases other == key <;> rfl

@[simp] lemma lookup_optional (key other : String) (d : Option Datum) :
    (optional key d).lookup other = if other == key then d else none := by
  cases d with
  | none => simp [optional]
  | some d => rw [optional, lookup_entry, List.lookup_nil]

@[simp] lemma lookup_optional_append (key other : String) (d : Option Datum) (es : List (String × Datum)) :
    (optional key d ++ es).lookup other = if other == key then d.or (es.lookup other) else es.lookup other := by
  rw [List.lookup_append, lookup_optional]
  split
  · rfl
  · exact Option.none_or

@[simp] lemma text?_eq (key : String) (t : Option String) : text? key t = optional key (t.map .text) := rfl

/-! ### Trees -/

/-- Data of texts, whole numbers and truth values, in lists and in maps. -/
inductive IsTree : Datum → Prop
  | text (s : String) : IsTree (.text s)
  | int (n : Int) : IsTree (.int n)
  | bool (b : Bool) : IsTree (.bool b)
  | list {ds : List Datum} (hds : ∀ d ∈ ds, IsTree d) : IsTree (.list ds)
  | map {es : List (String × Datum)} (hes : ∀ e ∈ es, IsTree e.2) : IsTree (.map es)

attribute [simp] IsTree.text IsTree.int IsTree.bool

lemma IsTree.list_map {α : Type} {write : α → Datum} (h : ∀ a, (write a).IsTree) (as : List α) :
    (Datum.list (as.map write)).IsTree := by
  apply IsTree.list
  intro d hd
  obtain ⟨a, -, rfl⟩ := List.mem_map.1 hd
  exact h a

/-- The values of a map are trees. -/
def AreTrees (es : List (String × Datum)) : Prop := ∀ e ∈ es, e.2.IsTree

lemma AreTrees.map {es : List (String × Datum)} (h : AreTrees es) : (Datum.map es).IsTree := IsTree.map h

@[simp] lemma areTrees_nil : AreTrees [] := fun _ he => absurd he List.not_mem_nil

@[simp] lemma areTrees_cons {e : String × Datum} {es : List (String × Datum)} :
    AreTrees (e :: es) ↔ e.2.IsTree ∧ AreTrees es := List.forall_mem_cons

@[simp] lemma areTrees_append {es fs : List (String × Datum)} : AreTrees (es ++ fs) ↔ AreTrees es ∧ AreTrees fs :=
  List.forall_mem_append

lemma areTrees_optional {α : Type} {write : α → Datum} (h : ∀ a, (write a).IsTree) (key : String) (a : Option α) :
    AreTrees (optional key (a.map write)) := by
  cases a with
  | none => exact areTrees_nil
  | some a => exact areTrees_cons.2 ⟨h a, areTrees_nil⟩

/-! ### Equality -/

mutual
/-- Two values are the same. -/
def same : Datum → Datum → Bool
  | .null, .null => true
  | .bool a, .bool b => a == b
  | .int a, .int b => a == b
  | .float a, .float b => a == b
  | .text a, .text b => a == b
  | .date a, .date b => a == b
  | .list as, .list bs => sameItems as bs
  | .map as, .map bs => sameEntries as bs
  | _, _ => false

/-- Two lists hold the same values. -/
def sameItems : List Datum → List Datum → Bool
  | [], [] => true
  | a :: as, b :: bs => same a b && sameItems as bs
  | _, _ => false

/-- Two maps hold the same values under the same keys, in the same order. -/
def sameEntries : List (String × Datum) → List (String × Datum) → Bool
  | [], [] => true
  | (k, a) :: as, (l, b) :: bs => k == l && same a b && sameEntries as bs
  | _, _ => false
end

mutual
lemma same_iff : ∀ a b : Datum, same a b = true ↔ a = b
  | .null, b => by cases b <;> simp [same]
  | .bool a, b => by cases b <;> simp [same]
  | .int a, b => by cases b <;> simp [same]
  | .float a, b => by cases b <;> simp [same]
  | .text a, b => by cases b <;> simp [same]
  | .date a, b => by cases b <;> simp [same]
  | .list as, b => by
    cases b with
    | list bs => simp only [same, sameItems_iff as bs, list.injEq]
    | _ => simp [same]
  | .map as, b => by
    cases b with
    | map bs => simp only [same, sameEntries_iff as bs, map.injEq]
    | _ => simp [same]

lemma sameItems_iff : ∀ as bs : List Datum, sameItems as bs = true ↔ as = bs
  | [], [] => by simp [sameItems]
  | [], b :: bs => by simp [sameItems]
  | a :: as, [] => by simp [sameItems]
  | a :: as, b :: bs => by
    rw [sameItems, Bool.and_eq_true, same_iff a b, sameItems_iff as bs, List.cons.injEq]

lemma sameEntries_iff : ∀ as bs : List (String × Datum), sameEntries as bs = true ↔ as = bs
  | [], [] => by simp [sameEntries]
  | [], b :: bs => by simp [sameEntries]
  | a :: as, [] => by simp [sameEntries]
  | (k, a) :: as, (l, b) :: bs => by
    rw [sameEntries, Bool.and_eq_true, Bool.and_eq_true, beq_iff_eq, same_iff a b, sameEntries_iff as bs,
      List.cons.injEq, Prod.mk.injEq]
end

instance : DecidableEq Datum := fun a b => decidable_of_iff _ (same_iff a b)

end Datum

end PageTape
