import PageTape.Form.Submit
import PageTape.Proofs.Css.Match
import PageTape.Proofs.Dom.Order
import PageTape.Proofs.Dom.Retouch

/-!
# The controls that submit a form

A control submits by its type (`submitsByType`), or is a button without a type that has a form around it.  Below any
element the first kind is found, and of the second those that have a form around them which lies below that element
itself (`submitControls_eq`).  So what is found below an element is the part of what is found in the whole document that
lies below it, unless a button without a type there has no form around it but that element and the forms around that
(`submitActions_exact`).
-/

namespace PageTape.Form

open Dom Css

variable {f : Forest} {r l m : Location} {t : Tag}

/-- A button or an input whose type is `submit`, in letters of any case. -/
def submitsByType (t : Tag) : Bool :=
  (lowerAscii t.name == "button" || lowerAscii t.name == "input") &&
    (attrValue? t "type").any fun value => value.toText.toList.map Text.foldChar == "submit".toList

/-- A button without a type. -/
def isUntyped (t : Tag) : Bool := lowerAscii t.name == "button" && (attrValue? t "type").isNone

/-- A form. -/
def isForm (t : Tag) : Bool := lowerAscii t.name == "form"

/-- The element lies below another one. -/
def isBelow (a m : Location) : Bool := m.ancestors.any fun x => x.tag.id == a.tag.id

/-- A form around the element lies below another one. -/
def isInForm (d m : Location) : Bool := m.ancestors.any fun a => isForm a.tag && isBelow d a

/-- The controls below `r` that submit: those of a type that does, then the buttons without a type that have a form
around them which lies below `d`. -/
def submitsIn (d r : Location) : List Location :=
  r.descendants.filter (submitsByType ·.tag) ++ r.descendants.filter fun m => isUntyped m.tag && isInForm d m

/-! ### What the selectors select -/

lemma holds_submit : (Test.attribute ⟨"type", some (.equals, "submit"), true⟩).holds l =
    (attrValue? l.tag "type").any fun value => value.toText.toList.map Text.foldChar == "submit".toList := by
  have hfold : "submit".toList.map Text.foldChar = "submit".toList := by decide +kernel
  rw [Test.holds, AttrTest.holds]
  cases attrValue? l.tag "type" with
  | none => rfl
  | some value => simp only [AttrOp.holds, hfold, if_true, Option.any_some]

lemma holds_typeless : (Test.noneOf [.compound [.attribute ⟨"type", none, false⟩]]).holds l =
    (attrValue? l.tag "type").isNone := by
  simp only [Test.holds, anyMatches, Selector.matches, allHold, AttrTest.holds]
  cases attrValue? l.tag "type" <;> rfl

lemma selects_submit (h : l.tag.isDocument = false) : selects submitSelectors l = submitsByType l.tag := by
  simp only [selects, h, submitSelectors, submitTyped, anyMatches, Selector.matches, allHold, submitsByType,
    holds_name_eq (n := "button") (by decide), holds_name_eq (n := "input") (by decide), holds_submit]
  simp only [Bool.not_false, Bool.true_and, Bool.and_true, Bool.or_false, Bool.and_or_distrib_right]

lemma selects_untyped (h : l.tag.isDocument = false) : selects untypedButton l = isUntyped l.tag := by
  simp only [selects, h, untypedButton, anyMatches, Selector.matches, allHold, isUntyped,
    holds_name_eq (n := "button") (by decide), holds_typeless]
  simp only [Bool.not_false, Bool.true_and, Bool.and_true, Bool.or_false]

lemma selects_form (h : l.tag.isDocument = false) : selects [Locator.named "form"] l = isForm l.tag := by
  simp only [selects, h, Locator.named, anyMatches, Selector.matches, allHold, isForm,
    holds_name_eq (n := "form") (by decide)]
  simp only [Bool.not_false, Bool.true_and, Bool.and_true, Bool.or_false]

/-- A button that has a type is none without. -/
lemma isUntyped_of_submitsByType (h : submitsByType t = true) : isUntyped t = false := by
  unfold submitsByType at h
  unfold isUntyped
  cases hvalue : attrValue? t "type" with
  | none => simp [hvalue] at h
  | some value => exact Bool.and_false _

/-! ### The elements of a document -/

/-- Whatever lies in the document lies in it as an element of the forest. -/
lemma document_mem (hm : m ∈ f.document.descendants) :
    f.document ∈ f.locations ∧ f.document.tag.id = documentId := by
  unfold Forest.document at hm ⊢
  cases hd : f.locate? documentId with
  | none =>
    rw [hd] at hm
    cases hm
  | some d => exact ⟨Forest.mem_locations_of_locate? hd, Forest.tag_id_of_locate? hd⟩

lemma isDocument_of_mem (hd : f.Distinct) (hm : m ∈ f.document.descendants) : m.tag.isDocument = false := by
  obtain ⟨hmem, hid⟩ := document_mem hm
  refine beq_eq_false_iff_ne.2 fun heq => ?_
  have hself : m = f.document := hd.eq hmem (Forest.mem_locations_of_mem_document hm) (heq.trans hid.symm)
  exact Location.not_mem_descendants List.mem_cons_self (hself ▸ hm)

lemma isBelow_iff (hd : f.Distinct) (hr : r ∈ f.locations) (hm : m ∈ f.locations) :
    isBelow r m = true ↔ m ∈ r.descendants := by
  rw [isBelow, List.any_eq_true, Location.mem_descendants_iff]
  refine ⟨fun ⟨x, hx, hid⟩ => ?_, fun h => ⟨r, h, beq_self_eq_true _⟩⟩
  rwa [← hd.eq hr (Forest.mem_locations_ancestors hm hx) (beq_iff_eq.1 hid)]

/-- A root for a search: the document, or an element in it. -/
def IsRootOf (f : Forest) (r : Location) : Prop := r = f.document ∨ r ∈ f.document.descendants

namespace IsRootOf

lemma document : IsRootOf f f.document := .inl rfl

lemma subset (hr : IsRootOf f r) : r.descendants ⊆ f.document.descendants := by
  rcases hr with rfl | hr
  · exact List.Subset.refl _
  · exact fun m hm => Location.descendants_trans hm hr

lemma sublist (hr : IsRootOf f r) : r.descendants.Sublist f.document.descendants := by
  rcases hr with rfl | hr
  · exact List.Sublist.refl _
  · exact Location.descendants_sublist hr

lemma mem_locations (hr : IsRootOf f r) (hm : m ∈ r.descendants) : m ∈ f.locations ∧ r ∈ f.locations := by
  have hmem := Forest.mem_locations_of_mem_document (hr.subset hm)
  exact ⟨hmem, Forest.mem_locations_ancestors hmem (Location.mem_descendants_iff.1 hm)⟩

lemma known (hr : IsRootOf f r) (hd : f.Distinct) : Location.Known r.descendants := fun _ hl _ hm hid =>
  hd.eq (hr.mem_locations hl).1 (hr.mem_locations hm).1 hid

lemma isInForm_iff (hr : IsRootOf f r) (hd : f.Distinct) (hm : m ∈ r.descendants) :
    isInForm r m = true ↔ ∃ a ∈ r.descendants, isForm a.tag = true ∧ m ∈ a.descendants := by
  obtain ⟨hmem, hroot⟩ := hr.mem_locations hm
  simp only [isInForm, List.any_eq_true, Bool.and_eq_true]
  refine exists_congr fun a => ?_
  constructor
  · rintro ⟨ha, hform, hbelow⟩
    exact ⟨(isBelow_iff hd hroot (Forest.mem_locations_ancestors hmem ha)).1 hbelow, hform,
      Location.mem_descendants_iff.2 ha⟩
  · rintro ⟨ha, hform, hm⟩
    exact ⟨Location.mem_descendants_iff.1 hm, hform, (isBelow_iff hd hroot (hr.mem_locations ha).1).2 ha⟩

/-- What lies below the root is what lies below it of the document. -/
lemma filter_isBelow (hr : IsRootOf f r) (hd : f.Distinct) :
    f.document.descendants.filter (isBelow r) = r.descendants := by
  refine (Location.eq_filter_of_sublist hr.sublist (Location.nodup_descendants _) fun m hm => ?_).symm
  have hmem := Forest.mem_locations_of_mem_document hm
  rcases hr with rfl | hr
  · rw [isBelow_iff hd (document_mem hm).1 hmem]
  · rw [isBelow_iff hd (Forest.mem_locations_of_mem_document hr) hmem]

/-! ### What is found below a root -/

/-- **What is found below a root**: the controls that submit by their type, and the buttons without a type in the forms
below the root, each of them once. -/
theorem submitControls_eq (hr : IsRootOf f r) (hd : f.Distinct) : submitControls r = submitsIn r r := by
  have hknown := hr.known hd
  have hplain : ∀ m ∈ r.descendants, m.tag.isDocument = false := fun m hm => isDocument_of_mem hd (hr.subset hm)
  have htyped : selectAll submitSelectors r = r.descendants.filter (submitsByType ·.tag) :=
    List.filter_congr fun m hm => selects_submit (hplain m hm)
  have hforms : selectAll [Locator.named "form"] r = r.descendants.filter (isForm ·.tag) :=
    List.filter_congr fun m hm => selects_form (hplain m hm)
  have huntyped : (selectAll [Locator.named "form"] r).flatMap (selectAll untypedButton) =
      ((r.descendants.filter (isForm ·.tag)).flatMap Location.descendants).filter (isUntyped ·.tag) := by
    rw [hforms, List.filter_flatMap]
    refine List.flatMap_congr fun a ha => List.filter_congr fun m hm => selects_untyped (hplain m ?_)
    exact Location.descendants_trans hm (List.mem_filter.1 ha).1
  have hsub : (r.descendants.filter (isForm ·.tag)).flatMap Location.descendants ⊆ r.descendants := fun m hm => by
    obtain ⟨a, ha, hm⟩ := List.mem_flatMap.1 hm
    exact Location.descendants_trans hm (List.mem_filter.1 ha).1
  -- no control is of both kinds
  have hapart : ∀ m ∈ ((r.descendants.filter (isForm ·.tag)).flatMap Location.descendants).filter (isUntyped ·.tag),
      m.tag.id ∈ (r.descendants.filter (submitsByType ·.tag)).map (·.tag.id) ++ [] ↔ m.tag.id ∈ [] := fun m hm => by
    obtain ⟨hm, huntyped⟩ := List.mem_filter.1 hm
    refine iff_of_false (fun hmem => ?_) List.not_mem_nil
    rw [List.append_nil] at hmem
    obtain ⟨l, hl, hid⟩ := List.mem_map.1 hmem
    obtain ⟨hl, htyped⟩ := List.mem_filter.1 hl
    rw [hknown m (hsub hm) l hl hid] at htyped
    rw [isUntyped_of_submitsByType htyped] at huntyped
    cases huntyped
  unfold submitControls submitsIn
  dsimp only
  rw [huntyped, htyped, Location.distinct_append, Location.distinct_congr hapart,
    Location.distinct_eq_self (hknown.mono (List.filter_subset_self _)) ((Location.nodup_descendants r).filter _),
    ← Location.filter_distinct (hknown.mono hsub),
    Location.distinct_flatMap_descendants hknown fun m hm => hr.isInForm_iff hd hm, List.filter_filter]

/-- A form around an element that lies below the root lies in the document. -/
lemma isInForm_document (hr : IsRootOf f r) (hd : f.Distinct) (hm : m ∈ r.descendants) (h : isInForm r m = true) :
    isInForm f.document m = true := by
  obtain ⟨a, ha, h⟩ := (hr.isInForm_iff hd hm).1 h
  exact (document.isInForm_iff hd (hr.subset hm)).2 ⟨a, hr.subset ha, h⟩

/-- If as many controls are found as there are, none is missed. -/
lemma isInForm_of_length (hr : IsRootOf f r) (hd : f.Distinct)
    (h : (submitsIn r r).length = (submitsIn f.document r).length) (hm : m ∈ r.descendants)
    (huntyped : isUntyped m.tag = true) (hform : isInForm f.document m = true) : isInForm r m = true := by
  have hsub : (r.descendants.filter fun m => isUntyped m.tag && isInForm r m).Sublist
      (r.descendants.filter fun m => isUntyped m.tag && isInForm f.document m) := by
    have hboth : (r.descendants.filter fun m => isUntyped m.tag && isInForm r m) =
        (r.descendants.filter fun m => isUntyped m.tag && isInForm f.document m).filter (isInForm r) := by
      rw [List.filter_filter]
      refine List.filter_congr fun m hm => ?_
      cases hin : isInForm r m with
      | false => simp
      | true => simp [hr.isInForm_document hd hm hin]
    exact hboth ▸ List.filter_sublist
  simp only [submitsIn, List.length_append, Nat.add_left_cancel_iff] at h
  have hmem : m ∈ r.descendants.filter fun m => isUntyped m.tag && isInForm f.document m :=
    List.mem_filter.2 ⟨hm, by simp [huntyped, hform]⟩
  rw [← hsub.eq_of_length h] at hmem
  exact (Bool.and_eq_true_iff.1 (List.mem_filter.1 hmem).2).2

end IsRootOf

/-- **Submit detection, root by root.**  Of a page no two elements of which have the same identity, for the document and
for any element in it:

* the controls found below it are those whose type submits, in document order, and then the buttons without a type in a
  form that lies below it as well, each of them once;
* the part of what is found in the whole document that lies below it are those whose type submits, and then the buttons
  without a type in any form of the document;
* so there is one action for each of these just if every button without a type below it that is in a form of the
  document is in one that lies below it as well, as all of them are if it is the document. -/
theorem submitActions_exact (hr : IsRootOf f r) (hd : f.Distinct) :
    submitControls r = submitsIn r r ∧ ((submitControls r).map (·.tag.id)).Nodup ∧
      (submitControls f.document).filter (isBelow r) = submitsIn f.document r ∧
      (submitActions r = (submitsIn f.document r).map submitAction ↔
        ∀ m ∈ r.descendants, isUntyped m.tag = true → isInForm f.document m = true → isInForm r m = true) := by
  have heq := hr.submitControls_eq hd
  refine ⟨heq, Location.nodup_distinct, ?_, ?_⟩
  · rw [IsRootOf.document.submitControls_eq hd, submitsIn, List.filter_append, List.filter_comm, hr.filter_isBelow hd,
      List.filter_comm, hr.filter_isBelow hd, submitsIn]
  · rw [submitActions, heq]
    constructor
    · intro h m
      have hlength := congrArg List.length h
      rw [List.length_map, List.length_map] at hlength
      exact hr.isInForm_of_length hd hlength
    · intro h
      have hsame : submitsIn r r = submitsIn f.document r := by
        refine congrArg (_ ++ ·) (List.filter_congr fun m hm => Bool.eq_iff_iff.2 ?_)
        simp only [Bool.and_eq_true]
        exact and_congr_right fun huntyped => ⟨hr.isInForm_document hd hm, h m hm huntyped⟩
      rw [hsame]

/-- A form in another one, each with a button without a type, and an input that submits by its type in the inner one. -/
def nestedForms : Forest where
  trees := [.element documentTag [.element ⟨1, "form", []⟩ [.element ⟨2, "button", []⟩ [], .element ⟨3, "form", []⟩
    [.element ⟨4, "button", []⟩ [], .element ⟨5, "input", [("type", .text "Submit")]⟩ []]]]]
  nextId := 6

/-- The button of the outer form is found in the document, but not below that form. -/
theorem nestedForms_found : ∃ r, IsRootOf nestedForms r ∧
    ((submitControls nestedForms.document).filter (isBelow r)).map (·.tag.id) = [5, 2, 4] ∧
    (submitControls r).map (·.tag.id) = [5, 4] ∧
    submitActions r ≠ (submitsIn nestedForms.document r).map submitAction := by
  have hroot : IsRootOf nestedForms (nestedForms.document.descendants.headI) := .inr (List.mem_of_mem_head? rfl)
  obtain ⟨hfound, -, hpart, hiff⟩ := submitActions_exact hroot (by decide +kernel)
  refine ⟨_, hroot, ?_, ?_, fun h => ?_⟩
  · rw [hpart]
    decide +kernel
  · rw [hfound]
    decide +kernel
  · have hmissed : ¬ ∀ m ∈ nestedForms.document.descendants.headI.descendants, isUntyped m.tag = true →
        isInForm nestedForms.document m = true → isInForm nestedForms.document.descendants.headI m = true := by
      decide +kernel
    exact hmissed (hiff.1 h)

/-- A form with a button without a type. -/
def soleForm : Forest where
  trees := [.element documentTag [.element ⟨1, "form", [("id", .text "f")]⟩
    [.element ⟨2, "button", []⟩ [.text .plain "Go"]]]]
  nextId := 3

/-- Not below every root is found what is found of it in the document. -/
theorem soleForm_missed : ¬ ∀ (f : Forest) (r : Location), f.Distinct → IsRootOf f r →
    submitActions r = (submitsIn f.document r).map submitAction := by
  intro h
  have hroot : IsRootOf soleForm (soleForm.document.descendants.headI) := .inr (List.mem_of_mem_head? rfl)
  have heq := congrArg List.length (h soleForm _ (by decide +kernel) hroot)
  rw [submitActions, List.length_map, List.length_map] at heq
  exact absurd heq (by decide +kernel)

end PageTape.Form
