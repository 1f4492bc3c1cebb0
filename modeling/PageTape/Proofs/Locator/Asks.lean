import PageTape.Locator.Smart
import PageTape.Page.Fault
import PageTape.Page.Query
import PageTape.Proofs.Locator.Resemble

/-!
# What the selectors of an element ask

`Asks s P` says that a text is read as a selector of the elements with a property.  There is one lemma for each form
that the selectors of elements have: an id (`asks_ident`), the value of an attribute, of two attributes, or of an
attribute and the name of the element (`asks_attr`, `asks_attr_attr`, `asks_name_attr`), and a place
(`asks_structural`).  From these `asks_quick` tells what is asked by the selector that an element is recorded by.
What is asked decides which elements are selected (`Asks.isSelected`, `Asks.query?`).
-/

namespace PageTape.Locator

open Dom Css

variable {l m d : Location} {s n n' value value' : String} {P : Location → Prop}

/-- A text is read as one selector, which selects the elements of a page that have a property. -/
def Asks (s : String) (P : Location → Prop) : Prop :=
  ∃ selector, read s = .ok [selector] ∧ ∀ m : Location, m.LowerPath → (selector.matches m = true ↔ P m)

namespace Asks

lemma congr {Q : Location → Prop} (h : Asks s P) (heq : ∀ m, P m ↔ Q m) : Asks s Q :=
  have ⟨selector, hread, hmatches⟩ := h
  ⟨selector, hread, fun m hm => (hmatches m hm).trans (heq m)⟩

/-- A selector that is read in one go asks all of its questions. -/
lemma of_reads (ts : List Test) (hnul : ∀ c ∈ s.toList, c.toNat ≠ 0) (htrim : trimStart s.toList = s.toList)
    (hread : Reads {} s.toList (({} : Pending).ask ts) [])
    (h : ∀ m : Location, m.LowerPath → (allHold ts m = true ↔ P m)) : Asks s P := by
  have hcurrent : (({} : Pending).ask ts).current = .compound ts := by simp [Pending.ask, Pending.current]
  refine ⟨_, read_of_reads hnul htrim hread rfl rfl, fun m hm => ?_⟩
  rw [hcurrent, Selector.matches]
  exact h m hm

/-- **What is asked of an element decides whether it is selected.** -/
theorem isSelected (h : Asks s P) (hdocument : l.tag.isDocument = false) (hl : l.LowerPath) :
    ∃ b, l.isSelected s = .ok b ∧ (b = true ↔ P l) := by
  obtain ⟨selector, hread, hmatches⟩ := h
  refine ⟨selector.matches l, ?_, hmatches l hl⟩
  simp [Location.isSelected, readSelectors, hread, Except.mapError, Except.map, selects, anyMatches, hdocument]

/-- **The first element of which all holds that is asked** is found, if there is one. -/
theorem query? (h : Asks s P) (hd : ∀ m ∈ d.descendants, m.tag.isDocument = false ∧ m.LowerPath)
    (hl : l ∈ d.descendants) (hP : P l) :
    ∃ found, d.query? s = .ok (some found) ∧ found ∈ d.descendants ∧ P found ∧
      (found = l ↔ ∃ before after, d.descendants = before ++ l :: after ∧ ∀ m ∈ before, ¬ P m) := by
  obtain ⟨selector, hread, hmatches⟩ := h
  have hselects : ∀ m ∈ d.descendants, selects [selector] m = true ↔ P m := fun m hm => by
    obtain ⟨hdocument, hlower⟩ := hd m hm
    simp [selects, anyMatches, hdocument, hmatches m hlower]
  have hquery : d.query? s = .ok (d.descendants.find? (selects [selector])) := by
    simp [Location.query?, readSelectors, hread, Except.mapError, Except.map, selectFirst?]
  have hsome : (d.descendants.find? (selects [selector])).isSome :=
    List.find?_isSome.2 ⟨l, hl, (hselects l hl).2 hP⟩
  obtain ⟨found, hfound⟩ := Option.isSome_iff_exists.1 hsome
  have hmem := List.mem_of_find?_eq_some hfound
  refine ⟨found, by rw [hquery, hfound], hmem, (hselects found hmem).1 (List.find?_some hfound), ?_⟩
  constructor
  · rintro rfl
    obtain ⟨-, before, after, hsplit, hbefore⟩ := List.find?_eq_some_iff_append.1 hfound
    refine ⟨before, after, hsplit, fun m hm hPm => ?_⟩
    have hselected := (hselects m (hsplit ▸ List.mem_append_left _ hm)).2 hPm
    simpa [hselected] using hbefore m hm
  · rintro ⟨before, after, hsplit, hbefore⟩
    have hfirst : d.descendants.find? (selects [selector]) = some l := by
      refine List.find?_eq_some_iff_append.2 ⟨(hselects l hl).2 hP, before, after, hsplit, fun m hm => ?_⟩
      have hmem := hsplit ▸ List.mem_append_left (l :: after) hm
      rw [Bool.not_eq_true', Bool.eq_false_iff, ne_eq, hselects m hmem]
      exact hbefore m hm
    exact Option.some.inj (hfound.symm.trans hfirst)

end Asks

/-! ### The forms of selectors -/

lemma attrOf_ne_zero (hn : isPlainName n = true) (value : String) : ∀ c ∈ (attrOf n value).toList, c.toNat ≠ 0 := by
  rw [toList_attrOf]
  simp only [List.forall_mem_append, List.forall_mem_cons]
  exact ⟨by decide, fun c hc => isPlainName_ne_zero hn hc, by decide, by decide, escape_ne_zero _, by decide⟩

lemma trimStart_attrOf (n value : String) (rest : List Char) :
    trimStart ((attrOf n value).toList ++ rest) = (attrOf n value).toList ++ rest := by
  rw [toList_attrOf]
  rfl

lemma reads_attrOf (hn : isPlainName n = true) (htype : n ≠ "type") (hvalue : ∀ c ∈ value.toList, c.toNat ≠ 0)
    (p : Pending) (rest : List Char) :
    Reads p ((attrOf n value).toList ++ rest) (p.ask [.attribute ⟨n, some (.equals, value), false⟩]) rest := by
  rw [toList_attrOf]
  simpa using Reads.attr hn htype hvalue

lemma asks_ident (hne : value ≠ "") (hvalue : ∀ c ∈ value.toList, c.toNat ≠ 0 ∧ ¬ IsControl c) :
    Asks (ident value) (·.tag.ident = value) := by
  have htext := toList_ident value
  refine .of_reads [.ident value] ?_ ?_ ?_ fun m hm => ?_
  · rw [htext]
    exact List.forall_mem_cons.2 ⟨by decide, escape_ne_zero _⟩
  · rw [htext]
    rfl
  · have hread := Reads.ident (p := {}) (by simpa using hne) hvalue .nil
    rwa [List.append_nil, ← htext] at hread
  · simp [allHold, holds_ident (hm m List.mem_cons_self).tag]

/-- An id with a control character behind ASCII is written as it is, but it is no name. -/
example : (read (ident "a\u0085b")).toOption.isNone := by decide

lemma asks_attr (hn : isPlainName n = true) (htype : n ≠ "type") (hvalue : ∀ c ∈ value.toList, c.toNat ≠ 0) :
    Asks (attrOf n value) (·.tag.attr? n = some value) := by
  refine .of_reads [.attribute ⟨n, some (.equals, value), false⟩] (attrOf_ne_zero hn value) ?_ ?_ fun m hm => ?_
  · simpa using trimStart_attrOf n value []
  · simpa using reads_attrOf hn htype hvalue {} []
  · simp [allHold, holds_attr (hm m List.mem_cons_self).tag hn]

lemma asks_attr_attr (hn : isPlainName n = true) (htype : n ≠ "type") (hvalue : ∀ c ∈ value.toList, c.toNat ≠ 0)
    (hn' : isPlainName n' = true) (htype' : n' ≠ "type") (hvalue' : ∀ c ∈ value'.toList, c.toNat ≠ 0) :
    Asks (attrOf n value ++ attrOf n' value') fun m => m.tag.attr? n = some value ∧ m.tag.attr? n' = some value' := by
  refine .of_reads [.attribute ⟨n, some (.equals, value), false⟩, .attribute ⟨n', some (.equals, value'), false⟩]
    ?_ ?_ ?_ fun m hm => ?_
  · rw [String.toList_append]
    exact List.forall_mem_append.2 ⟨attrOf_ne_zero hn value, attrOf_ne_zero hn' value'⟩
  · rw [String.toList_append]
    exact trimStart_attrOf n value _
  · have hread := (reads_attrOf hn htype hvalue {} _).trans (reads_attrOf hn' htype' hvalue' _ [])
    rw [Pending.ask_ask] at hread
    simpa using hread
  · have hlower := (hm m List.mem_cons_self).tag
    simp [allHold, holds_attr hlower hn, holds_attr hlower hn']

lemma asks_name_attr (hname : isPlainName n' = true) (hn : isPlainName n = true) (htype : n ≠ "type")
    (hvalue : ∀ c ∈ value.toList, c.toNat ≠ 0) :
    Asks (n' ++ attrOf n value) fun m => m.tag.name = n' ∧ m.tag.attr? n = some value := by
  refine .of_reads [.name none n', .attribute ⟨n, some (.equals, value), false⟩] ?_ ?_ ?_ fun m hm => ?_
  · rw [String.toList_append]
    exact List.forall_mem_append.2 ⟨fun c hc => isPlainName_ne_zero hname hc, attrOf_ne_zero hn value⟩
  · rw [String.toList_append]
    exact trimStart_plain hname _
  · have hends : EndsName (attrOf n value).toList := by rw [toList_attrOf]; exact .cons (by decide)
    have hbar : (attrOf n value).toList.head? ≠ some '|' := by simp [toList_attrOf]
    have hread := (Reads.name (p := {}) hname rfl hends hbar).trans
      (by simpa using reads_attrOf hn htype hvalue _ [])
    rw [Pending.ask_ask] at hread
    simpa using hread
  · have hlower := (hm m List.mem_cons_self).tag
    simp [allHold, holds_name hlower.name hname, holds_attr hlower hn]

lemma asks_structural (hl : l.tag.isDocument = false) (h : l.WritablePath) : Asks (structural l) (IsPlacedAs l) :=
  ⟨place l, read_structural hl h, fun _ hm => matches_place hl h hm⟩

/-! ### The selector of an element -/

lemma given?_eq_some {t : Tag} : given? t n = some value ↔ t.attr? n = some value ∧ value ≠ "" := by
  simp [given?, Option.filter_eq_some_iff]

/-- The test id of an element, with the attribute that holds it. -/
def testId? (names : List String) (t : Tag) : Option (String × String) :=
  names.findSome? fun n => (given? t n).map (n, ·)

lemma testId?_eq_some {names : List String} {t : Tag} (h : testId? names t = some (n, value)) :
    n ∈ names ∧ given? t n = some value := by
  obtain ⟨n', hn', h⟩ := List.exists_of_findSome?_eq_some h
  obtain ⟨value', hgiven, heq⟩ := Option.map_eq_some_iff.1 h
  obtain ⟨rfl, rfl⟩ := Prod.mk.inj heq
  exact ⟨hn', hgiven⟩

lemma findSome?_testId {α : Type} (names : List String) (t : Tag) (f : String → String → α) :
    (names.findSome? fun n => (given? t n).map (f n)) = (testId? names t).map fun a => f a.1 a.2 := by
  rw [testId?, List.map_findSome?]
  congr 1
  funext n
  simp [Function.comp_def]

/-- What the selector of an element asks: its id, else its test id, else its name, else its place. -/
def IsCalledAs (l m : Location) : Prop :=
  if l.tag.ident.isEmpty then
    match testId? testIdNames l.tag with
    | some (n, value) => m.tag.attr? n = some value
    | none => match given? l.tag "name" with
      | some name => m.tag.name = l.tag.name ∧ m.tag.attr? "name" = some name
      | none => IsPlacedAs l m
  else m.tag.ident = l.tag.ident

/-- The attributes that a selector may ask for have plain names, and none of them is the type. -/
lemma testIdNames_plain : ∀ n ∈ allTestIdNames, isPlainName n = true ∧ n ≠ "type" := by decide

/-- **The selector of an element** asks for its id, its test id, its name or its place. -/
theorem asks_quick (hl : l.tag.isDocument = false) (h : l.WritablePath) : Asks (quick l) (IsCalledAs l) := by
  have hself := h.writable List.mem_cons_self hl
  unfold quick IsCalledAs
  rw [findSome?_testId]
  by_cases hident : l.tag.ident.isEmpty = true
  · simp only [hident, Bool.not_true, Bool.false_eq_true, if_false, if_true]
    cases htest : testId? testIdNames l.tag with
    | some a =>
      obtain ⟨hmem, hgiven⟩ := testId?_eq_some htest
      obtain ⟨hplain, htype⟩ := testIdNames_plain a.1 (List.mem_append_left _ hmem)
      exact asks_attr hplain htype (hself.attr? (given?_eq_some.1 hgiven).1)
    | none =>
      cases hgiven : given? l.tag "name" with
      | some name =>
        have hvalue := hself.attr? (given?_eq_some.1 hgiven).1
        simpa [hself.lowerName] using asks_name_attr hself.name (by decide) (by decide) hvalue
      | none => exact asks_structural hl h
  · simp only [hident, Bool.not_false, if_true, Bool.false_eq_true, if_false]
    exact asks_ident (by simpa using hident) hself.ident_chars

/-- **An element has all that its selector asks for.** -/
theorem isCalledAs_self (l : Location) : IsCalledAs l l := by
  unfold IsCalledAs
  split
  · split
    · rename_i htest
      exact (given?_eq_some.1 (testId?_eq_some htest).2).1
    · split
      · rename_i hgiven
        exact ⟨rfl, (given?_eq_some.1 hgiven).1⟩
      · exact isPlacedAs_self l
  · rfl

end PageTape.Locator
