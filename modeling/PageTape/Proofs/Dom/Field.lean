import PageTape.Locator.Quick
import PageTape.Recorder.Element
import PageTape.Proofs.Dom.Rewrite
import Mathlib.Data.List.Induction

/-!
# A field keeps what it is when its value changes

A field is the same one if it has its identity, its name, its place and its attributes but for the value (`SameField`).
Then it has the same selector (`SameField.quick`) and takes its value in the same way (`SameField.controlKind`).  The
field of which the value is set is the same, and has just that value if it keeps plain text (`locate?_setValue`).
-/

namespace PageTape

open Dom

variable {f : Forest} {id : Dom.Id} {l m : Location}

namespace Dom

/-! ### Attributes -/

lemma Attrs.lookup_set (attrs : Attrs) (n name : String) (value : AttrValue) :
    List.lookup n (attrs.set name value) = if n = name then some value else List.lookup n attrs := by
  induction attrs with
  | nil =>
    rw [Attrs.set, List.lookup_cons]
    by_cases h : n = name
    · simp [h]
    · simp [h, beq_eq_false_iff_ne.2 h]
  | cons a rest ih =>
    obtain ⟨k, v⟩ := a
    unfold Attrs.set
    split
    · rename_i hk
      rw [List.lookup_cons, List.lookup_cons, hk]
      by_cases h : n = name
      · simp [h]
      · simp [h, beq_eq_false_iff_ne.2 h]
    · rename_i hk
      rw [List.lookup_cons, List.lookup_cons, ih]
      by_cases h : n = k
      · subst h
        simp [hk]
      · simp [beq_eq_false_iff_ne.2 h]

lemma Tag.attr?_set (t : Tag) (n name : String) (value : AttrValue) :
    (t.set name value).attr? n = if n = name then some value.toText else t.attr? n := by
  unfold Tag.attr? Tag.set
  rw [Attrs.lookup_set]
  split <;> rfl

/-! ### The same field -/

/-- The same field, be it with another value. -/
structure SameField (l m : Location) : Prop where
  id : m.tag.id = l.tag.id
  name : m.tag.name = l.tag.name
  attr? : ∀ n, n ≠ "value" → m.tag.attr? n = l.tag.attr? n
  outline : m.context.outline = l.context.outline

namespace SameField

lemma refl (l : Location) : SameField l l := ⟨rfl, rfl, fun _ _ => rfl, rfl⟩

lemma trans {k : Location} (h : SameField l m) (h' : SameField m k) : SameField l k where
  id := h'.id.trans h.id
  name := h'.name.trans h.name
  attr? n hn := (h'.attr? n hn).trans (h.attr? n hn)
  outline := h'.outline.trans h.outline

lemma lowerName (h : SameField l m) : m.tag.lowerName = l.tag.lowerName := congrArg Text.lower h.name

lemma inputType (h : SameField l m) : m.tag.inputType = l.tag.inputType := by
  unfold Tag.inputType
  rw [h.attr? "type" (by decide), h.lowerName]

lemma isEditable (h : SameField l m) : m.tag.isEditable = l.tag.isEditable := by
  unfold Tag.isEditable Tag.isAttr
  rw [h.attr? "contenteditable" (by decide)]

lemma controlKind (h : SameField l m) : Recorder.controlKind? m.tag = Recorder.controlKind? l.tag := by
  unfold Recorder.controlKind?
  rw [h.lowerName, h.inputType, h.isEditable]

end SameField

end Dom

namespace Locator

/-- The position of an element of a name at a place, as its selector tells it. -/
def placed? (name : String) : List (Tag × List String × List String) → Option Nat
  | [] => none
  | (parent, before, after) :: _ =>
    let same := fun (names : List String) => (names.filter (· == name)).length
    if parent.isDocument || same before + same after == 0 then none else some (same before + 1)

lemma position?_eq_placed? (l : Location) : position? l = placed? l.tag.name l.context.outline := by
  obtain ⟨tag, children, context⟩ := l
  have hcount : ∀ nodes : List Node, ((nodes.filterMap Node.tag?).filter (·.name == tag.name)).length =
      ((namesOf nodes).filter (· == tag.name)).length := by
    intro nodes
    simp [namesOf, List.filter_map, Function.comp_def]
  cases context with
  | top => rfl
  | inside parent before after outer =>
    simp only [position?, Location.tagsBefore, Location.tagsAfter, Location.nodesBefore, Location.nodesAfter, hcount]
    rfl

lemma component_congr (hname : m.tag.name = l.tag.name) (hplace : m.context.outline = l.context.outline) :
    component m = component l := by
  unfold component Tag.lowerName
  rw [position?_eq_placed?, position?_eq_placed?, hname, hplace]

/-- The elements around a place are told by what the place tells. -/
lemma componentsFrom_congr (c c' : Context) (h : c.outline = c'.outline) (n n' : Node) :
    componentsFrom (c.ancestors n) = componentsFrom (c'.ancestors n') := by
  induction c generalizing c' n n' with
  | top => cases c' with
    | top => rfl
    | inside parent before after outer => cases h
  | inside parent before after outer ih => cases c' with
    | top => cases h
    | inside parent' before' after' outer' =>
      obtain ⟨⟨rfl, -⟩, houter⟩ := by simpa only [Context.outline, List.cons.injEq, Prod.mk.injEq] using h
      simp only [Context.ancestors, componentsFrom]
      rw [ih outer' houter]
      split
      · rfl
      · rw [component_congr (l := ⟨parent, _, outer⟩) (m := ⟨parent, _, outer'⟩) rfl houter.symm]

end Locator

/-- **The selector of a field does not tell its value.** -/
theorem Dom.SameField.quick (h : SameField l m) : Locator.quick m = Locator.quick l := by
  have hident : m.tag.ident = l.tag.ident := by
    unfold Tag.ident
    rw [h.attr? "id" (by decide)]
  have hgiven : ∀ n, n ≠ "value" → Locator.given? m.tag n = Locator.given? l.tag n := fun n hn => by
    unfold Locator.given?
    rw [h.attr? n hn]
  have htests : (Locator.testIdNames.findSome? fun n => (Locator.given? m.tag n).map (Locator.attrOf n)) =
      Locator.testIdNames.findSome? fun n => (Locator.given? l.tag n).map (Locator.attrOf n) := by
    simp only [Locator.testIdNames, List.findSome?_cons, List.findSome?_nil, hgiven "data-testid" (by decide),
      hgiven "data-test-id" (by decide)]
  have hplace : Locator.structural m = Locator.structural l := by
    unfold Locator.structural Location.outward
    rw [Locator.componentsFrom, Locator.componentsFrom, hident, h.lowerName, Locator.component_congr h.name h.outline,
      Location.ancestors, Location.ancestors, Locator.componentsFrom_congr _ _ h.outline m.node l.node]
    unfold Tag.isDocument
    rw [h.id]
  unfold Locator.quick
  rw [hident, htests, hgiven "name" (by decide), h.lowerName, hplace]

/-! ### The value is set -/

namespace Dom

/-- The element keeps its value as an attribute, or as a plain text that it reads again. -/
def keepsText (t : Tag) : Bool :=
  !(t.lowerName == "textarea" || t.isEditable) || TextKind.ofName t.name == .plain

lemma SameField.keepsText (h : SameField l m) : Dom.keepsText m.tag = Dom.keepsText l.tag := by
  unfold Dom.keepsText
  rw [h.lowerName, h.isEditable, h.name]

/-- An attribute is set to a text. -/
def setting (name value : String) : Rewriting where
  tag t := { t.set name (.text value) with id := t.id }
  children _ children := children
  id _ := rfl
  name _ := rfl

/-- An element keeps its tag and gets other children. -/
def refilling (k : Tag → List Node → List Node) : Rewriting where
  tag t := t
  children := k
  id _ := rfl
  name _ := rfl

/-- A text is the only child. -/
def filling (value : String) : Rewriting where
  tag t := t
  children _ _ := [.text .plain value]
  id _ := rfl
  name _ := rfl

lemma Rewritten.sameField {g : Rewriting} (h : Rewritten g l m)
    (ha : ∀ n, n ≠ "value" → (g.tag l.tag).attr? n = l.tag.attr? n) : SameField l m where
  id := h.tag ▸ g.id l.tag
  name := h.tag ▸ g.name l.tag
  attr? n hn := h.tag ▸ ha n hn
  outline := h.outline

lemma Forest.locate?_addTrees (h : f.locate? id = some l) (trees : List Node) :
    Forest.locate? { f with trees := f.trees ++ trees } id = some l := by
  unfold Forest.locate? Forest.locations at h ⊢
  rw [List.flatMap_append, List.find?_append, h, Option.some_or]

/-- The text that an element reads again once it is its only child. -/
lemma textContent_filled (tag : Tag) (value : String) :
    (Node.element tag [.text .plain value]).textContent = if TextKind.ofName tag.name == .plain then value else "" := by
  have hread : ∀ kind : TextKind, String.join (Node.textsList (· == kind) (kind == .plain) [.text .plain value]) =
      if kind == .plain then value else "" := by
    intro kind
    cases kind <;> simp [Node.textsList, Node.texts, String.join]
  exact hread _

/-- **The field of which the value is set** is the same, and has just that value if it keeps plain text. -/
theorem Forest.locate?_setValue (h : f.locate? id = some l) (hs : (l.tag.lowerName == "select") = false)
    (value : String) : ∃ m, (f.setValue id value).locate? id = some m ∧ SameField l m ∧
      m.value = if Dom.keepsText l.tag then value else "" := by
  unfold Forest.setValue
  rw [h]
  simp only [hs, Bool.false_eq_true, if_false]
  split
  · rename_i htext
    obtain ⟨m, hm, hr⟩ := locate?_rewrite (filling value) h
    have hsame : SameField l m := hr.sameField fun _ _ => rfl
    refine ⟨m, ?_, hsame, ?_⟩
    · unfold Forest.setText Forest.replaceChildren
      rw [h]
      exact Forest.locate?_addTrees hm _
    · unfold Location.value Location.textContent Location.node Dom.keepsText
      rw [hsame.lowerName, hsame.isEditable, hs, htext, hr.children]
      exact (textContent_filled m.tag value).trans (by rw [hsame.name]; rfl)
  · rename_i htext
    rw [Bool.not_eq_true] at htext
    obtain ⟨m, hm, hr⟩ := locate?_rewrite (setting "value" value) h
    have hsame : SameField l m := hr.sameField fun n hn => (Tag.attr?_set _ _ _ _).trans (if_neg hn)
    refine ⟨m, hm, hsame, ?_⟩
    have hvalue : m.tag.attr? "value" = some value := by
      rw [hr.tag]
      exact (Tag.attr?_set _ _ _ _).trans (if_pos rfl)
    unfold Location.value Dom.keepsText
    rw [hsame.lowerName, hsame.isEditable, hs, htext, hvalue]
    rfl

/-! ### Text is typed -/

namespace Forest

/-- The value of the control of an identity. -/
def valueOf (f : Forest) (id : Id) : String := ((f.locate? id).map (·.value)).getD ""

/-- The forest after characters are typed into a control, each after what it holds. -/
def typed (f : Forest) (id : Id) : List Char → Forest
  | [] => f
  | c :: rest => (f.setValue id ((f.valueOf id).push c)).typed id rest

lemma valueOf_eq (h : f.locate? id = some l) : f.valueOf id = l.value := by simp [valueOf, h]

lemma typed_append (f : Forest) (id : Id) (cs ds : List Char) : f.typed id (cs ++ ds) = (f.typed id cs).typed id ds := by
  induction cs generalizing f with
  | nil => rfl
  | cons c rest ih => exact ih _

/-- **The field that is typed into** is the same, and has its value with what was typed if it keeps plain text. -/
theorem locate?_typed (h : f.locate? id = some l) (hs : (l.tag.lowerName == "select") = false) (cs : List Char) :
    ∃ m, (f.typed id cs).locate? id = some m ∧ SameField l m ∧
      (Dom.keepsText l.tag = true → m.value = l.value ++ String.ofList cs) ∧
      (Dom.keepsText l.tag = false → cs ≠ [] → m.value = "") := by
  induction cs using List.reverseRecOn with
  | nil => exact ⟨l, h, .refl l, fun _ => by simp, fun _ hne => absurd rfl hne⟩
  | append_singleton cs c ih =>
    obtain ⟨m, hm, hsame, hkept, -⟩ := ih
    obtain ⟨k, hk, hsame', hvalue⟩ := locate?_setValue hm (by rw [hsame.lowerName]; exact hs) (m.value.push c)
    refine ⟨k, ?_, hsame.trans hsame', fun hkeeps => ?_, fun hloses _ => ?_⟩
    · rw [typed_append]
      show ((f.typed id cs).setValue id _).locate? id = some k
      rw [valueOf_eq hm]
      exact hk
    · rw [hvalue, hsame.keepsText, if_pos hkeeps, hkept hkeeps, ← String.toList_inj]
      simp
    · rw [hvalue, hsame.keepsText, if_neg (by simp [hloses])]

end Forest

end Dom

end PageTape
