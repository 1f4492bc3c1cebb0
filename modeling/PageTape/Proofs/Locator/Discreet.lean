import PageTape.Locator.Label
import PageTape.Recorder.Element
import PageTape.Proofs.Dom.Retouch

/-!
# What is not read of an element

A retouch is `Discreet` if it changes of each element no more than the attributes that keep what a user has entered, and
leaves all texts as they are.  The selectors of an element and its label do not tell such a change (`quick_location`,
`smart_location`, `label?_location`), nor does a selector that does not ask for those attributes (`matches_location`).
-/

namespace PageTape

open Dom Css

/-- The attributes that keep what a user has entered. -/
def Dom.heldNames : List String := ["value", "selected"]

/-- The attributes but for those that keep what a user has entered. -/
def Dom.Attrs.lasting (attrs : Attrs) : Attrs := attrs.filter fun a => a.1 ∉ heldNames

/-- **A retouch that changes no more** than the attributes that keep what a user has entered, and how a text is cut into
nodes. -/
structure Dom.Retouch.Discreet (g : Retouch) : Prop where
  attrs : ∀ t, (g.tag t).attrs.lasting = t.attrs.lasting
  texts : ∀ t ns takes cdata, isLeaf ns = true →
    String.join (Node.textsList takes cdata (g.text t ns)) = String.join (Node.textsList takes cdata ns)
  blank : ∀ t ns, isLeaf ns = true → (g.text t ns).all isIgnorable = ns.all isIgnorable

/-- The elements of a forest have the values that they had. -/
def Dom.Retouch.Steady (g : Retouch) (f : Forest) : Prop := ∀ l ∈ f.locations, (g.location l).value = l.value

variable {g : Retouch} {l : Location} {t : Tag} {n : String} {ns : List Node}

/-! ### Attributes -/

namespace Dom.Attrs

/-- Attributes of other names do not matter for one. -/
lemma lookup_filter (attrs : Attrs) {p : String → Bool} (hn : p n = true) :
    List.lookup n (attrs.filter fun a => p a.1) = List.lookup n attrs := by
  induction attrs with
  | nil => rfl
  | cons a rest ih =>
    obtain ⟨k, v⟩ := a
    rw [List.filter_cons, List.lookup_cons]
    by_cases hk : n = k
    · subst hk
      simp [hn]
    · rw [beq_eq_false_iff_ne.2 hk, ← ih]
      split
      · rw [List.lookup_cons, beq_eq_false_iff_ne.2 hk]
      · rfl

lemma lookup_lasting (attrs : Attrs) (hn : n ∉ heldNames) : List.lookup n attrs.lasting = List.lookup n attrs :=
  lookup_filter attrs (p := fun n => n ∉ heldNames) (by simpa using hn)

lemma find?_lasting (attrs : Attrs) {p : String × AttrValue → Bool} (hp : ∀ a, p a = true → a.1 ∉ heldNames) :
    attrs.lasting.find? p = attrs.find? p := by
  unfold lasting
  rw [List.find?_filter]
  refine congrArg (List.find? · attrs) (funext fun a => ?_)
  cases h : p a with
  | false => simp
  | true => simp [hp a h]

end Dom.Attrs

namespace Dom.Retouch.Discreet

section Attributes

variable (hg : g.Discreet)
include hg

lemma attr? (hn : n ∉ heldNames) (t : Tag) : (g.tag t).attr? n = t.attr? n := by
  unfold Tag.attr?
  rw [← Attrs.lookup_lasting _ hn, hg.attrs, Attrs.lookup_lasting _ hn]

lemma has (hn : n ∉ heldNames) (t : Tag) : (g.tag t).has n = t.has n := by
  unfold Tag.has
  rw [← Attrs.lookup_lasting _ hn, hg.attrs, Attrs.lookup_lasting _ hn]

lemma ident (t : Tag) : (g.tag t).ident = t.ident := by
  unfold Tag.ident
  rw [hg.attr? (by decide)]

lemma given? (hn : n ∉ heldNames) (t : Tag) : Locator.given? (g.tag t) n = Locator.given? t n := by
  unfold Locator.given?
  rw [hg.attr? hn]

lemma attrValue? (hn : lowerAscii n ∉ heldNames) (t : Tag) :
    Css.attrValue? (g.tag t) n = Css.attrValue? t n := by
  have hheld : ∀ a : String × AttrValue, (lowerAscii a.1 == lowerAscii n) = true → a.1 ∉ heldNames := by
    intro a ha hmem
    have hlower : ∀ m ∈ heldNames, lowerAscii m = m := by decide +kernel
    rw [← beq_iff_eq.1 ha, hlower a.1 hmem] at hn
    exact hn hmem
  unfold Css.attrValue?
  rw [← Attrs.find?_lasting _ hheld, hg.attrs, Attrs.find?_lasting _ hheld]

omit hg in
lemma lowerName (g : Retouch) (t : Tag) : (g.tag t).lowerName = t.lowerName := congrArg Text.lower (g.name t)

omit hg in
lemma isDocument (g : Retouch) (t : Tag) : (g.tag t).isDocument = t.isDocument := congrArg (· == documentId) (g.id t)

lemma inputType (t : Tag) : (g.tag t).inputType = t.inputType := by
  unfold Tag.inputType
  rw [hg.attr? (by decide), lowerName]

lemma isEditable (t : Tag) : (g.tag t).isEditable = t.isEditable := by
  unfold Tag.isEditable Tag.isAttr
  rw [hg.attr? (by decide)]

lemma isChecked (t : Tag) : (g.tag t).isChecked = t.isChecked := hg.has (by decide) t

lemma isRequired (t : Tag) : (g.tag t).isRequired = t.isRequired := by
  unfold Tag.isRequired Tag.isAttr
  rw [hg.has (by decide), hg.attr? (by decide)]

lemma isFormField (t : Tag) : (g.tag t).isFormField = t.isFormField := by
  have hother : ∀ m ∈ heldNames, (m.map Char.toLower == "contenteditable") = false := by decide +kernel
  have hany : ∀ attrs : Attrs,
      attrs.any (fun a => a.1.map Char.toLower == "contenteditable" && a.2.toText == "true") =
        attrs.lasting.any fun a => a.1.map Char.toLower == "contenteditable" && a.2.toText == "true" := by
    intro attrs
    unfold Attrs.lasting
    rw [List.any_filter]
    refine congrArg attrs.any (funext fun a => ?_)
    by_cases hmem : a.1 ∈ heldNames
    · simp [hmem, hother a.1 hmem]
    · simp [hmem]
  unfold Tag.isFormField
  rw [g.name, hany, hg.attrs, ← hany]

lemma controlKind? (t : Tag) : Recorder.controlKind? (g.tag t) = Recorder.controlKind? t := by
  unfold Recorder.controlKind?
  rw [lowerName, hg.inputType, hg.isEditable]

lemma hides (t : Tag) : (g.tag t).hides = t.hides := by
  unfold Tag.hides
  rw [hg.has (by decide), hg.attr? (by decide)]

lemma isVisible (l : Location) : (g.location l).isVisible = l.isVisible := by
  have htags : ((g.tag l.tag :: l.context.tags.map g.tag).takeWhile (!·.isDocument)).any Tag.hides =
      ((l.tag :: l.context.tags).takeWhile (!·.isDocument)).any Tag.hides := by
    rw [← List.map_cons, List.takeWhile_map, List.any_map]
    simp only [Function.comp_def, isDocument, hg.hides]
  unfold Location.isVisible Retouch.location
  rw [lowerName, hg.inputType, tags_context, htags]

end Attributes

/-! ### Texts -/

mutual
lemma texts_node (hg : g.Discreet) (takes : TextKind → Bool) (cdata : Bool) (n : Node) :
    String.join (Node.texts takes cdata (g.node n)) = String.join (Node.texts takes cdata n) := by
  cases n with
  | element tag children =>
    rw [node_element, Node.texts, Node.texts, hg.texts_children]
  | _ => rfl

lemma texts_map (hg : g.Discreet) (takes : TextKind → Bool) (cdata : Bool) (ns : List Node) :
    String.join (Node.textsList takes cdata (ns.map g.node)) = String.join (Node.textsList takes cdata ns) := by
  cases ns with
  | nil => rfl
  | cons n rest =>
    rw [List.map_cons, Node.textsList, Node.textsList, String.join_append, String.join_append, hg.texts_node,
      hg.texts_map]

lemma texts_children (hg : g.Discreet) (takes : TextKind → Bool) (cdata : Bool) (tag : Tag) (ns : List Node) :
    String.join (Node.textsList takes cdata (g.children tag ns)) = String.join (Node.textsList takes cdata ns) := by
  unfold Retouch.children
  split
  · exact hg.texts tag ns takes cdata ‹_›
  · exact hg.texts_map takes cdata ns
end

lemma textContent_node (hg : g.Discreet) (n : Node) : (g.node n).textContent = n.textContent := by
  cases n with
  | element tag children =>
    rw [node_element, Node.textContent, Node.textContent, g.name]
    exact hg.texts_children _ _ tag children
  | _ => rfl

lemma textContent_location (hg : g.Discreet) (l : Location) : (g.location l).textContent = l.textContent := by
  unfold Location.textContent
  rw [node_location, hg.textContent_node]

end Dom.Retouch.Discreet

/-! ### Selectors that do not ask for it -/

namespace Css

mutual
/-- The question is not to an attribute that keeps what a user has entered. -/
def Test.overlooks : Test → Bool
  | .attribute test => lowerAscii test.name ∉ heldNames
  | .anyOf selectors => allOverlook selectors
  | .noneOf selectors => allOverlook selectors
  | _ => true

/-- None of the questions is. -/
def testsOverlook : List Test → Bool
  | [] => true
  | t :: rest => t.overlooks && testsOverlook rest

/-- A selector does not ask for an attribute that keeps what a user has entered. -/
def Selector.overlooks : Selector → Bool
  | .compound tests => testsOverlook tests
  | .related left _ tests => left.overlooks && testsOverlook tests

/-- None of the selectors does. -/
def allOverlook : List Selector → Bool
  | [] => true
  | s :: rest => s.overlooks && allOverlook rest
end

lemma classes_tag (hg : g.Discreet) (t : Tag) : classes (g.tag t) = classes t := by
  unfold classes
  rw [hg.attrValue? (by decide +kernel)]

lemma AttrTest.holds_tag (hg : g.Discreet) {test : AttrTest} (h : lowerAscii test.name ∉ heldNames) (t : Tag) :
    test.holds (g.tag t) = test.holds t := by
  unfold AttrTest.holds
  rw [hg.attrValue? h]

lemma Nth.holds_location (g : Retouch) (position : Nth) (l : Location) :
    position.holds (g.location l) = position.holds l := by
  have hcount : ∀ tags : List Tag,
      ((tags.map g.tag).filter fun t => lowerAscii t.name == lowerAscii (g.tag l.tag).name).length =
        (tags.filter fun t => lowerAscii t.name == lowerAscii l.tag.name).length := by
    intro tags
    rw [List.filter_map, List.length_map]
    simp only [Function.comp_def, g.name]
  unfold Nth.holds
  rw [g.tagsBefore_location, g.tagsAfter_location]
  dsimp only
  rw [← apply_ite (List.map g.tag)]
  split
  · rw [g.tag_location, hcount]
  · rw [List.length_map]

lemma isIgnorable_node (g : Retouch) (n : Node) : isIgnorable (g.node n) = isIgnorable n := by
  cases n with
  | element tag children => rw [g.node_element]; rfl
  | _ => rfl

lemma isBesideRoot_node (g : Retouch) (n : Node) : isBesideRoot (g.node n) = isBesideRoot n := by
  cases n with
  | element tag children => rw [g.node_element]; rfl
  | _ => rfl

lemma isEmpty_location (hg : g.Discreet) (l : Location) :
    (g.location l).children.all isIgnorable = l.children.all isIgnorable := by
  show (g.children l.tag l.children).all isIgnorable = _
  unfold Retouch.children
  split
  · exact hg.blank _ _ ‹_›
  · rw [List.all_map]
    simp only [Function.comp_def, isIgnorable_node]

lemma isRoot_location (g : Retouch) (l : Location) : isRoot (g.location l) = isRoot l := by
  obtain ⟨tag, children, context⟩ := l
  cases context with
  | top => exact congrArg (!·) (Retouch.Discreet.isDocument g tag)
  | inside parent before after outer =>
    show ((g.tag parent).isDocument && (before.map g.node).all isBesideRoot && (after.map g.node).all isBesideRoot) = _
    rw [Retouch.Discreet.isDocument, List.all_map, List.all_map]
    simp only [Function.comp_def, isBesideRoot_node]
    rfl

lemma places_location (g : Retouch) (combinator : Combinator) (l : Location) :
    combinator.places (g.location l) = (combinator.places l).map g.location := by
  cases combinator with
  | descendant => exact g.ancestors_location l
  | child =>
    rw [Combinator.places, Combinator.places, g.parent?_location]
    cases l.parent? <;> rfl
  | adjacent => rw [Combinator.places, Combinator.places, g.elementsBefore_location, List.map_take]
  | sibling => exact g.elementsBefore_location l

mutual
lemma Test.holds_location (hg : g.Discreet) (l : Location) :
    (t : Test) → t.overlooks = true → t.holds (g.location l) = t.holds l
  | .name space name, _ => by rw [Test.holds, Test.holds, g.tag_location, g.name]
  | .ident value, _ => by
    rw [Test.holds, Test.holds, g.tag_location, hg.attrValue? (by decide +kernel)]
  | .className value, _ => by
    rw [Test.holds, Test.holds, g.tag_location, classes_tag hg]
  | .attribute test, h => by
    rw [Test.overlooks, decide_eq_true_iff] at h
    rw [Test.holds, Test.holds]
    exact AttrTest.holds_tag hg h l.tag
  | .nth position, _ => by rw [Test.holds, Test.holds, Nth.holds_location]
  | .empty, _ => by rw [Test.holds, Test.holds, isEmpty_location hg]
  | .root, _ => by rw [Test.holds, Test.holds, isRoot_location]
  | .never, _ => by rw [Test.holds, Test.holds]
  | .anyOf selectors, h => by
    rw [Test.overlooks] at h
    rw [Test.holds, Test.holds, anyMatches_location hg selectors h]
  | .noneOf selectors, h => by
    rw [Test.overlooks] at h
    rw [Test.holds, Test.holds, anyMatches_location hg selectors h]

lemma allHold_location (hg : g.Discreet) (tests : List Test) (h : testsOverlook tests = true) (l : Location) :
    allHold tests (g.location l) = allHold tests l := by
  cases tests with
  | nil => rw [allHold, allHold]
  | cons t rest =>
    rw [testsOverlook, Bool.and_eq_true_iff] at h
    rw [allHold, allHold, Test.holds_location hg l t h.1, allHold_location hg rest h.2]

/-- **A selector that does not ask for what a user has entered** selects the same elements after a discreet retouch. -/
theorem Selector.matches_location (hg : g.Discreet) (s : Selector) (h : s.overlooks = true) (l : Location) :
    s.matches (g.location l) = s.matches l := by
  cases s with
  | compound tests =>
    rw [Selector.overlooks] at h
    rw [Selector.matches, Selector.matches, allHold_location hg tests h]
  | related left combinator tests =>
    rw [Selector.overlooks, Bool.and_eq_true_iff] at h
    rw [Selector.matches, Selector.matches, allHold_location hg tests h.2, places_location, List.any_map]
    congr 1
    exact congrArg _ (funext fun place => Selector.matches_location hg left h.1 place)

lemma anyMatches_location (hg : g.Discreet) (selectors : List Selector) (h : allOverlook selectors = true)
    (l : Location) : anyMatches selectors (g.location l) = anyMatches selectors l := by
  cases selectors with
  | nil => rw [anyMatches, anyMatches]
  | cons s rest =>
    rw [allOverlook, Bool.and_eq_true_iff] at h
    rw [anyMatches, anyMatches, Selector.matches_location hg s h.1, anyMatches_location hg rest h.2]
end

section Selecting

variable {selectors : List Selector} (hg : g.Discreet) (h : allOverlook selectors = true)
include hg h

lemma selects_location (l : Location) : selects selectors (g.location l) = selects selectors l := by
  unfold selects
  rw [anyMatches_location hg selectors h, g.tag_location, Retouch.Discreet.isDocument]

lemma find?_selects (ls : List Location) :
    (ls.map g.location).find? (selects selectors) = (ls.find? (selects selectors)).map g.location := by
  rw [List.find?_map]
  exact congrArg (fun p => (ls.find? p).map g.location) (funext (selects_location hg h))

lemma closest?_location (l : Location) : closest? selectors (g.location l) = (closest? selectors l).map g.location := by
  unfold closest?
  rw [g.outward_location, find?_selects hg h]

lemma selectFirst?_location (l : Location) :
    selectFirst? selectors (g.location l) = (selectFirst? selectors l).map g.location := by
  unfold selectFirst?
  rw [g.descendants_location, find?_selects hg h]

lemma selectAll_location (l : Location) :
    selectAll selectors (g.location l) = (selectAll selectors l).map g.location := by
  unfold selectAll
  rw [g.descendants_location, List.filter_map]
  exact congrArg (fun p => (l.descendants.filter p).map g.location) (funext (selects_location hg h))

end Selecting

end Css

/-! ### Selectors and labels -/

namespace Locator

lemma position?_location (g : Retouch) (l : Location) : position? (g.location l) = position? l := by
  have hsame : ∀ tags : List Tag, ((tags.map g.tag).filter (·.name == (g.tag l.tag).name)).length =
      (tags.filter (·.name == l.tag.name)).length := by
    intro tags
    rw [List.filter_map, List.length_map]
    simp only [Function.comp_def, g.name]
  have hbefore := g.tagsBefore_location l
  have hafter := g.tagsAfter_location l
  obtain ⟨tag, children, context⟩ := l
  cases context with
  | top => rfl
  | inside parent before after outer =>
    unfold position?
    rw [hbefore, hafter]
    simp only [Retouch.location, Retouch.context, hsame, Retouch.Discreet.isDocument]

section Discreet

variable (hg : g.Discreet)
include hg

lemma structural_location (l : Location) : structural (g.location l) = structural l := by
  have hcomponent : ∀ l : Location, component (g.location l) = component l := fun l => by
    unfold component
    rw [position?_location, g.tag_location, Retouch.Discreet.lowerName]
  have hcomponents : ∀ ls : List Location, componentsFrom (ls.map g.location) = componentsFrom ls := by
    intro ls
    induction ls with
    | nil => rfl
    | cons l rest ih =>
      rw [List.map_cons, componentsFrom, componentsFrom, ih, hcomponent, g.tag_location,
        Retouch.Discreet.lowerName, Retouch.Discreet.isDocument, hg.ident]
  unfold structural
  rw [g.outward_location, hcomponents, g.tag_location, Retouch.Discreet.lowerName]

lemma findSome?_given? {α : Type} (names : List String) (hnames : ∀ n ∈ names, n ∉ heldNames)
    (k : String → String → α) (t : Tag) :
    (names.findSome? fun n => (given? (g.tag t) n).map (k n)) = names.findSome? fun n => (given? t n).map (k n) := by
  induction names with
  | nil => rfl
  | cons n rest ih =>
    obtain ⟨hn, hrest⟩ := List.forall_mem_cons.1 hnames
    rw [List.findSome?_cons, List.findSome?_cons, hg.given? hn, ih hrest]

/-- **The selector of an element** does not tell what a user has entered. -/
theorem quick_location (l : Location) : quick (g.location l) = quick l := by
  unfold quick
  rw [g.tag_location, hg.ident, findSome?_given? hg _ (by decide), hg.given? (by decide),
    Retouch.Discreet.lowerName, structural_location hg]

lemma referencedText_location (l : Location) (reference : String) :
    referencedText (g.location l) reference = referencedText l reference := by
  have hfind : (g.location l).root.node.findIdent? reference = (l.root.node.findIdent? reference).map g.node := by
    rw [g.root_location, g.node_location]
    unfold Node.findIdent? Location.node
    rw [g.descendants_node, List.find?_map]
    congr 1
    refine congrArg (List.find? · _) (funext fun n => ?_)
    rw [Function.comp, g.tag?_node]
    cases n.tag? with
    | none => rfl
    | some t => exact congrArg (· == some reference) (hg.attr? (by decide) t)
  have htext : ∀ n : Node, (g.node n).strippedText = n.strippedText := fun n =>
    congrArg Text.strip (hg.textContent_node n)
  unfold referencedText
  rw [hfind, Option.map_map]
  simp only [Function.comp_def, htext]

/-- **The alternative selectors of an element** do not tell it. -/
theorem smart_location (l : Location) : smart (g.location l) = smart l := by
  have htest : byTestId? (g.location l) = byTestId? l := by
    unfold byTestId?
    rw [g.tag_location, findSome?_given? hg _ (by decide)]
  have haria : byAriaLabel? (g.location l) = byAriaLabel? l := by
    unfold byAriaLabel?
    rw [g.tag_location, hg.given? (by decide), hg.given? (by decide)]
    simp only [referencedText_location hg]
  have hrole : byRole? (g.location l) = byRole? l := by
    unfold byRole?
    rw [g.tag_location, hg.given? (by decide), hg.given? (by decide), hg.given? (by decide)]
  have hname : byName? (g.location l) = byName? l := by
    unfold byName?
    rw [g.tag_location, hg.given? (by decide), Retouch.Discreet.lowerName]
  have hident : byIdent? (g.location l) = byIdent? l := by
    unfold byIdent?
    rw [g.tag_location, hg.ident]
  have hplaceholder : byPlaceholder? (g.location l) = byPlaceholder? l := by
    unfold byPlaceholder?
    rw [g.tag_location, hg.given? (by decide), Retouch.Discreet.lowerName]
  have hplace : byPlace (g.location l) = byPlace l := by
    unfold byPlace
    rw [g.tag_location, hg.ident, structural_location hg]
  have hrules : ∀ rule ∈ [byTestId?, byAriaLabel?, byRole?, byName?, byIdent?, byPlaceholder?],
      rule (g.location l) = rule l := by simp [htest, haria, hrole, hname, hident, hplaceholder]
  unfold smart
  rw [List.filterMap_congr hrules, hplace]

lemma bind_textOf? (found : Option Location) : (found.map g.location).bind textOf? = found.bind textOf? := by
  cases found with
  | none => rfl
  | some l => exact congrArg (fun s => some (Text.strip s)) (hg.textContent_location l)

lemma labelBefore?_location (l : Location) : labelBefore? (g.location l) = labelBefore? l := by
  unfold labelBefore?
  rw [g.elementsBefore_location, List.head?_map]
  cases l.elementsBefore.head? with
  | none => rfl
  | some e =>
    have hname : (g.location e).tag.lowerName = e.tag.lowerName := Retouch.Discreet.lowerName g e.tag
    simp only [Option.map_some, Option.filter, hname]
    split
    · exact bind_textOf? hg (some e)
    · rfl

lemma textBefore?_location (l : Location) : textBefore? (g.location l) = textBefore? l := by
  unfold textBefore?
  rw [g.elementsBefore_location, List.findSome?_map]
  refine congrArg (List.findSome? · l.elementsBefore) (funext fun e => ?_)
  have hname : (g.location e).tag.lowerName = e.tag.lowerName := Retouch.Discreet.lowerName g e.tag
  simp only [Function.comp, hg.textContent_location, hname]

lemma bind_label {inner : List Selector} (hinner : allOverlook inner = true) (found : Option Location) :
    (found.map g.location).bind (fun set => (selectFirst? inner set).bind textOf?) =
      found.bind fun set => (selectFirst? inner set).bind textOf? := by
  cases found with
  | none => rfl
  | some set =>
    show (selectFirst? inner (g.location set)).bind textOf? = _
    rw [selectFirst?_location hg hinner, bind_textOf? hg]
    rfl

/-- **The label of an element** does not tell it. -/
theorem label?_location (l : Location) : label? (g.location l) = label? l := by
  have hfor : labelFor? (g.location l) = labelFor? l := by
    unfold labelFor?
    rw [g.tag_location, hg.ident, g.root_location]
    split
    · rfl
    · have hoverlook : ∀ wanted : String, allOverlook [.compound [.name none "label",
          .attribute ⟨"for", some (.equals, wanted), false⟩]] = true := fun wanted => by
        have hname : lowerAscii "for" ∉ heldNames := by decide +kernel
        simp [allOverlook, Selector.overlooks, testsOverlook, Test.overlooks, hname]
      dsimp only
      rw [selectFirst?_location hg (hoverlook _), bind_textOf? hg]
  have haround : labelAround? (g.location l) = labelAround? l := by
    unfold labelAround?
    rw [closest?_location hg rfl, bind_textOf? hg]
  have hlegend : legend? (g.location l) = legend? l := by
    unfold legend?
    rw [closest?_location hg rfl, bind_label hg rfl]
  have hgroup : groupLabel? (g.location l) = groupLabel? l := by
    unfold groupLabel?
    rw [closest?_location hg (by decide +kernel), bind_label hg (by decide +kernel)]
  have hreferenced : ((given? (g.tag l.tag) "aria-labelledby").map fun r => referencedText (g.location l) r) =
      (given? l.tag "aria-labelledby").map fun r => referencedText l r := by
    rw [hg.given? (by decide)]
    simp only [referencedText_location hg]
  have hattr : ∀ n, n ∉ heldNames → (g.location l).tag.attr? n = l.tag.attr? n := fun n hn => hg.attr? hn l.tag
  have hrules : ∀ rule ∈ labelRules, rule.2 (g.location l) = rule.2 l := by
    simp only [labelRules, List.forall_mem_cons, List.not_mem_nil, false_imp_iff, implies_true, and_true]
    exact ⟨hfor, haround, hattr _ (by decide), hreferenced, labelBefore?_location hg l, hattr _ (by decide), hlegend,
      hgroup, textBefore?_location hg l, hattr _ (by decide)⟩
  have hlabels : labels (g.location l) = labels l := by
    unfold labels
    refine List.filterMap_congr fun rule hrule => ?_
    obtain ⟨name, rule⟩ := rule
    have hsame := hrules (name, rule) hrule
    dsimp only at hsame ⊢
    rw [hsame]
  unfold label?
  rw [hlabels]

end Discreet

end Locator

end PageTape
