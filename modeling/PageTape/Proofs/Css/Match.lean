import PageTape.Proofs.Css.Read
import PageTape.Proofs.Dom.Location
import PageTape.Css.Match
import PageTape.Dom.Control

/-!
# What a selector asks of an element

Pages have the names of elements and attributes in lower case (`Tag.IsLower`).  Of such elements it is told here what
the questions ask that the selectors of elements are made of: for a name, an id, the value of an attribute, and a
position.
-/

namespace PageTape

namespace Dom.Tag

open Css (isPlainName lowerAscii)

variable {t : Tag} {n : String}

/-- The name of an element and the names of its attributes are in lower case. -/
structure IsLower (t : Tag) : Prop where
  name : ∀ c ∈ t.name.toList, c.toLower = c
  attrs : ∀ a ∈ t.attrs, ∀ c ∈ a.1.toList, c.toLower = c

instance (t : Tag) : Decidable t.IsLower :=
  decidable_of_iff ((∀ c ∈ t.name.toList, c.toLower = c) ∧ ∀ a ∈ t.attrs, ∀ c ∈ a.1.toList, c.toLower = c)
    ⟨fun ⟨name, attrs⟩ => ⟨name, attrs⟩, fun h => ⟨h.name, h.attrs⟩⟩

/-- An attribute is found by its name, as elsewhere. -/
lemma IsLower.attrValue? (h : t.IsLower) (hn : isPlainName n = true) :
    (Css.attrValue? t n).map (·.toText) = t.attr? n := by
  have hlower : lowerAscii n = n := Css.map_toLower hn
  unfold Css.attrValue? attr?
  rw [hlower, Option.map_map]
  obtain ⟨-, hattrs⟩ := h
  generalize t.attrs = attrs at hattrs
  induction attrs with
  | nil => rfl
  | cons a attrs ih =>
    obtain ⟨ha, hattrs⟩ := List.forall_mem_cons.1 hattrs
    have ha : lowerAscii a.1 = a.1 := Css.map_toLower_of ha
    rw [List.find?_cons, ha, List.lookup_cons]
    by_cases hname : a.1 = n
    · simp [hname]
    · rw [show (a.1 == n) = false by simpa using hname, show (n == a.1) = false by simpa using Ne.symm hname]
      exact ih hattrs

lemma lowerFrom_plain {cs : List Char} (h : ∀ c ∈ cs, c.toNat < 0x80 ∧ c.toLower = c) (before : List Char) :
    Text.lowerFrom before cs = cs := by
  induction cs generalizing before with
  | nil => rfl
  | cons c cs ih =>
    obtain ⟨⟨hascii, hlower⟩, hcs⟩ := List.forall_mem_cons.1 h
    have hsigma : c ≠ 'Σ' := fun e => absurd (e ▸ hascii) (by decide)
    rw [Text.lowerFrom, ih hcs, if_neg (by simpa using hsigma), Text.lowerChar, if_pos hascii, hlower]
    rfl

lemma lower_plain (h : isPlainName n = true) : Text.lower n = n := by
  unfold Text.lower
  rw [lowerFrom_plain fun c hc => (Css.isPlainName_mem h hc).2, String.ofList_toList]

end Dom.Tag

namespace Css

open Dom

variable {l : Location} {n value : String}

lemma holds_name_eq (hn : isPlainName n = true) : (Test.name none n).holds l = (lowerAscii l.tag.name == n) := by
  have hstar : (n == "*") = false := by
    rw [beq_eq_false_iff_ne]
    rintro rfl
    exact absurd hn (by decide)
  have hlower : lowerAscii n = n := map_toLower hn
  show (true && (n == "*" || lowerAscii n == lowerAscii l.tag.name)) = _
  rw [hstar, hlower, Bool.true_and, Bool.false_or, Bool.beq_comm]

lemma holds_name (h : ∀ c ∈ l.tag.name.toList, c.toLower = c) (hn : isPlainName n = true) :
    (Test.name none n).holds l = true ↔ l.tag.name = n := by
  have hlower : lowerAscii l.tag.name = l.tag.name := map_toLower_of h
  rw [holds_name_eq hn, hlower, beq_iff_eq]

lemma holds_ident_eq : (Test.ident value).holds l = (((attrValue? l.tag "id").map (·.toText)).getD "" == value) := rfl

lemma holds_ident (h : l.tag.IsLower) : (Test.ident value).holds l = true ↔ l.tag.ident = value := by
  rw [holds_ident_eq, h.attrValue? (by decide)]
  exact beq_iff_eq

/-- The question for an id is one for the value of the attribute, unless the id is empty. -/
lemma holds_ident_value (hne : value ≠ "") :
    (Test.ident value).holds l = true ↔ (attrValue? l.tag "id").map (·.toText) = some value := by
  rw [holds_ident_eq, beq_iff_eq]
  cases (attrValue? l.tag "id").map (·.toText) with
  | none => exact iff_of_false hne.symm (Option.some_ne_none value).symm
  | some text => rw [Option.getD_some, Option.some_inj]

lemma holds_attr (h : l.tag.IsLower) (hn : isPlainName n = true) :
    (Test.attribute ⟨n, some (.equals, value), false⟩).holds l = true ↔ l.tag.attr? n = some value := by
  have hattr := h.attrValue? hn
  show AttrTest.holds ⟨n, some (.equals, value), false⟩ l.tag = true ↔ _
  rw [AttrTest.holds, ← hattr]
  cases attrValue? l.tag n with
  | none => simp
  | some v => simp [AttrOp.holds, String.toList_inj]

lemma holds_nth (h : ∀ c ∈ l.tag.name.toList, c.toLower = c)
    (hside : ∀ t ∈ l.tagsBefore, ∀ c ∈ t.name.toList, c.toLower = c) (k : Nat) :
    (Test.nth ⟨0, k, false, true⟩).holds l = true ↔ l.sameBefore + 1 = k := by
  have hlower : lowerAscii l.tag.name = l.tag.name := map_toLower_of h
  have hfilter : (l.tagsBefore.filter fun t => lowerAscii t.name == lowerAscii l.tag.name) =
      l.tagsBefore.filter (·.name == l.tag.name) :=
    List.filter_congr fun t ht => by rw [show lowerAscii t.name = t.name from map_toLower_of (hside t ht), hlower]
  show Nth.holds ⟨0, k, false, true⟩ l = true ↔ _
  rw [Nth.holds, Nth.admits]
  simp only [Bool.false_eq_true, if_false, if_true, hfilter, beq_self_eq_true]
  rw [beq_iff_eq, Location.sameBefore]
  omega

end Css

end PageTape
