import Mathlib.Data.List.Infix
import PageTape.Proofs.Dom.Order
import PageTape.Proofs.Locator.Resemble

/-!
# From an anchor to an element

The place of an element is told by its anchor, the first element with an id on the walk outward or else the last one,
and by a chain of links that lead from there to the element, each from a parent to a child (`structural_anchored`).  At
each link the child is the only one of its parent that the link tells (`tells_iff`), so the chain leads from the anchor
to the element alone (`follow_links`).  The selector selects all that the chain leads to from what answers to the anchor
(`matches_chain_append`), which is just the element if no other one has the id of the anchor and the id can be read
(`selectAll_anchored`).
-/

namespace PageTape

namespace Dom.Location

/-- The document with the elements below it, whose names are plain. -/
structure IsPlainPage (d : Location) : Prop where
  document : d.IsDocument
  elements : ∀ l ∈ d.descendants, l.tag.isDocument = false ∧ Css.isPlainName l.tag.name = true

instance (d : Location) : Decidable d.IsPlainPage :=
  decidable_of_iff (d.IsDocument ∧ ∀ l ∈ d.descendants, l.tag.isDocument = false ∧ Css.isPlainName l.tag.name = true)
    ⟨fun ⟨document, elements⟩ => ⟨document, elements⟩, fun h => ⟨h.document, h.elements⟩⟩

end Dom.Location

namespace Locator

open Dom Css

variable {d l m p a x y z : Location} {xs ts ls : List Location}

/-! ### Links -/

/-- A link from a parent to a child: the name of the child, and its position among the children of that name if there
are several. -/
structure Link where
  name : String
  position : Option Nat

namespace Link

/-- A link as it is written. -/
def written (k : Link) : String :=
  match k.position with
  | some n => s!"{k.name}:nth-of-type({n})"
  | none => k.name

/-- A link tells an element that has its name, and its position if there is one. -/
def tells (k : Link) (m : Location) : Bool := m.tag.name == k.name && k.position.all (m.sameBefore + 1 == ·)

end Link

/-- The link that leads to an element from its parent. -/
def link (l : Location) : Link := ⟨l.tag.lowerName, position? l⟩

/-- The elements that a chain of links leads to from an element; the last link comes first. -/
def follow (a : Location) : List Link → List Location
  | [] => [a]
  | k :: ks => (follow a ks).flatMap fun p => p.kids.filter k.tells

lemma written_link (l : Location) : (link l).written = component l := rfl

lemma tells_link (hl : isPlainName l.tag.name = true) :
    (link l).tells m = true ↔ m.tag.name = l.tag.name ∧ ∀ k, position? l = some k → m.sameBefore + 1 = k := by
  unfold Link.tells link
  rw [Tag.lowerName, Tag.lower_plain hl, Bool.and_eq_true, beq_iff_eq]
  cases position? l <;> simp

/-- **A link tells one child of the parent only**, the one that it leads to. -/
lemma tells_iff (hm : m.parent? = some p) (hl : l.parent? = some p) (hp : p.tag.isDocument = false)
    (hident : l.tag.ident.isEmpty = true) (hn : isPlainName l.tag.name = true) : (link l).tells m = true ↔ m = l := by
  have hanswers : (link l).tells m = true ↔ Answers l m := by rw [tells_link hn, Answers, if_pos hident]
  rw [hanswers]
  refine ⟨eq_of_answers hm hl hp hident, ?_⟩
  rintro rfl
  exact answers_self m

/-- From where a chain has led to an element there is no choice. -/
lemma outward_of_mem_follow {ks : List Link} (h : m ∈ follow a ks) : m.outward[ks.length]? = some a := by
  induction ks generalizing m with
  | nil =>
    rw [follow, List.mem_singleton] at h
    rw [h]
    rfl
  | cons k ks ih =>
    obtain ⟨p, hp, hm⟩ := List.mem_flatMap.1 h
    have hparent := Location.mem_kids.1 (List.mem_filter.1 hm).1
    rw [Location.outward, Location.ancestors_of_parent hparent, List.length_cons, List.getElem?_cons_succ]
    exact ih hp

/-! ### The anchor -/

/-- The walk from an element outward, up to the body or the document. -/
def walk (l : Location) : List Location :=
  l.outward.takeWhile fun a => !(a.tag.isDocument || a.tag.lowerName == "body")

/-- The anchor of an element: the first element of its walk that has an id, or else the last one. -/
def anchor? (l : Location) : Option Location := ((walk l).find? (!·.tag.ident.isEmpty)) <|> (walk l).getLast?

/-- The links that lead to an element from its anchor, the last one first. -/
def links (l : Location) : List Link := (trail l).dropLast.map link

lemma getLast?_trail (l : Location) : (trail l).getLast? = anchor? l := by
  unfold trail anchor? walk
  induction l.outward with
  | nil => rfl
  | cons x rest ih =>
    unfold trailFrom
    rw [List.takeWhile_cons]
    cases hstop : x.tag.isDocument || x.tag.lowerName == "body" with
    | true => rfl
    | false =>
      cases hident : x.tag.ident.isEmpty with
      | true =>
        simp only [Bool.false_eq_true, if_false, if_true, Bool.not_false, List.getLast?_cons, List.find?_cons, hident,
          Bool.not_true, ih]
        cases (rest.takeWhile fun a => !(a.tag.isDocument || a.tag.lowerName == "body")).find?
          (!·.tag.ident.isEmpty) <;> rfl
      | false => simp [hident]

/-- Only the anchor is told by its id. -/
lemma ident_of_mem_dropLast (h : x ∈ (trailFrom ls).dropLast) : x.tag.ident.isEmpty = true := by
  induction ls with
  | nil => cases h
  | cons y rest ih =>
    unfold trailFrom at h
    split_ifs at h with hstop hident
    · cases h
    · cases hrest : trailFrom rest with
      | nil => simp [hrest] at h
      | cons t ts =>
        rw [hrest, List.dropLast_cons_cons] at h
        rcases List.mem_cons.1 h with rfl | h
        · exact hident
        · exact ih (hrest ▸ h)
    · cases h

/-- The trail of an element ends with its anchor. -/
lemma trail_eq_append (h : anchor? l = some a) : trail l = (trail l).dropLast ++ [a] :=
  (List.dropLast_append_getLast? a (by rw [getLast?_trail, h]; rfl)).symm

/-- An element but for the body has an anchor. -/
lemma exists_anchor (hl : l.tag.isDocument = false) (hn : isPlainName l.tag.name = true) (hbody : l.tag.name ≠ "body") :
    ∃ a, anchor? l = some a := by
  have hne : trail l ≠ [] := by
    rw [trail_eq, hl, Tag.lowerName, Tag.lower_plain hn, Bool.false_or, if_neg (by simpa using hbody)]
    split <;> exact List.cons_ne_nil _ _
  exact ⟨_, getLast?_trail l ▸ List.getLast?_eq_some_getLast hne⟩

/-! ### The text -/

lemma intercalate_cons (s x : String) (xs : List String) :
    String.intercalate s (x :: xs) = x ++ String.join (xs.map (s ++ ·)) := by
  induction xs generalizing x with
  | nil => simp
  | cons y ys ih =>
    rw [String.intercalate_cons_cons, ih, List.map_cons, String.join_cons, String.append_assoc, String.append_assoc]

/-- **The place of an element is told by its anchor and the links from there.** -/
theorem structural_anchored (ha : anchor? l = some a) (hn : ∀ x ∈ trail l, isPlainName x.tag.name = true) :
    structural l = part a ++ String.join ((links l).reverse.map (" > " ++ ·.written)) := by
  have htrail := trail_eq_append ha
  have hparts : (trail l).dropLast.map part = (links l).map Link.written := by
    unfold links
    rw [List.map_map]
    exact List.map_congr_left fun x hx => by
      rw [part, if_pos (ident_of_mem_dropLast hx), Function.comp_apply, written_link]
  have htext := structural_eq (by rw [htrail]; simp) hn
  rw [htrail, List.map_append, List.reverse_append, hparts] at htext
  rw [htext]
  show String.intercalate _ (part a :: ((links l).map Link.written).reverse) = _
  rw [intercalate_cons, ← List.map_reverse, List.map_map]
  rfl

/-! ### From the anchor to the element -/

/-- The walk of an element lies in the document. -/
lemma mem_of_mem_trail (hd : d.IsPlainPage) (hl : l ∈ d.descendants) (hx : x ∈ trail l) : x ∈ d.descendants := by
  obtain ⟨hmem, hdocument⟩ := mem_trailFrom hx
  rcases List.mem_cons.1 hmem with rfl | hmem
  · exact hl
  · refine (hd.document.ancestors_cases hl hmem).resolve_right fun heq => ?_
    rw [heq, hd.document.tag] at hdocument
    cases hdocument

lemma filter_tells (hl : l.parent? = some p) (hp : p.tag.isDocument = false) (hident : l.tag.ident.isEmpty = true)
    (hn : isPlainName l.tag.name = true) : p.kids.filter (link l).tells = [l] := by
  have hsub : [l].Sublist p.kids := List.singleton_sublist.2 (Location.mem_kids.2 hl)
  refine (Location.eq_filter_of_sublist hsub (Location.nodup_kids p) fun m hm => ?_).symm
  rw [List.mem_singleton, tells_iff (Location.mem_kids.1 hm) hl hp hident hn]

/-- **A chain leads to its element alone.** -/
theorem follow_links (hd : d.IsPlainPage) (hl : l ∈ d.descendants) (ha : anchor? l = some a) :
    follow a (links l) = [l] := by
  have htrail := trail_eq_append ha
  unfold links
  generalize (trail l).dropLast = xs at htrail
  clear ha
  induction l using Location.outside_in generalizing xs with
  | top l htop => simp [Location.mem_descendants_iff, Location.ancestors_eq, htop] at hl
  | child l p hp ih =>
    rw [trail_eq, hp] at htrail
    split_ifs at htrail with hstop hident
    · simp at htrail
    · cases xs with
      | nil =>
        obtain ⟨rfl, -⟩ := List.cons.inj htrail
        rfl
      | cons x xs =>
        -- the trail goes on with the one of the parent, which the links before lead to
        obtain ⟨rfl, hrest⟩ : l = x ∧ trail p = xs ++ [a] := List.cons.inj htrail
        have hpage : p ∈ d.descendants := (hd.document.parent_cases hl hp).resolve_right fun heq => by
          rw [trail_eq, heq, hd.document.tag] at hrest
          simp [documentTag, Tag.isDocument] at hrest
        rw [List.map_cons, follow, ih hpage xs hrest, List.flatMap_singleton,
          filter_tells hp (hd.elements p hpage).1 hident (hd.elements l hl).2]
    · obtain ⟨rfl, rfl⟩ : xs = [] ∧ l = a := by
        cases xs <;> simp_all
      rfl

/-! ### What the selector selects -/

lemma holds_questions_link (hd : d.IsPlainPage) (hx : x ∈ d.descendants) (hident : x.tag.ident.isEmpty = true)
    (hm : m ∈ d.descendants) : allHold (questions x) m = true ↔ (link x).tells m = true := by
  have hname : ∀ c ∈ m.tag.name.toList, c.toLower = c := fun c hc => (isPlainName_mem (hd.elements m hm).2 hc).2.2
  have hside : ∀ t ∈ m.tagsBefore, ∀ c ∈ t.name.toList, c.toLower = c := fun t ht => by
    obtain ⟨s, hs, rfl⟩ := Location.exists_sibling_mem hm (.inl ht)
    exact fun c hc => (isPlainName_mem (hd.elements s hs).2 hc).2.2
  have hplain := (hd.elements x hx).2
  rw [tells_link hplain, questions, if_pos hident, Tag.lowerName, Tag.lower_plain hplain]
  cases position? x with
  | none => simp [allHold, holds_name hname hplain]
  | some k => simp [allHold, holds_name hname hplain, holds_nth hname hside k]

lemma chain_cons (h : ts ≠ []) : chain (x :: ts) = .related (chain ts) .child (questions x) := by
  cases ts with
  | nil => exact absurd rfl h
  | cons t ts => rfl

/-- **What a chain selects** are those that its links lead to from what answers to the first question. -/
theorem matches_chain_append (hd : d.IsPlainPage) (hxs : ∀ x ∈ xs, x ∈ d.descendants ∧ x.tag.ident.isEmpty = true)
    (hm : m ∈ d.descendants ∨ m = d) : (chain (xs ++ [z])).matches m = true ↔
      ∃ y, allHold (questions z) y = true ∧ m ∈ follow y (xs.map link) := by
  induction xs generalizing m with
  | nil => simp [chain, Selector.matches, follow]
  | cons x xs ih =>
    obtain ⟨⟨hx, hident⟩, hxs⟩ := List.forall_mem_cons.1 hxs
    have hbelow : ∀ p, m.parent? = some p → m ∈ d.descendants := fun p hp => hm.resolve_right fun heq => by
      rw [heq, Location.parent?, Location.ancestors, hd.document.context] at hp
      cases hp
    rw [List.cons_append, chain_cons (by simp), Selector.matches, Bool.and_eq_true, List.any_eq_true]
    constructor
    · rintro ⟨hquestions, p, hp, hmatches⟩
      have hp : m.parent? = some p := Option.mem_toList.1 hp
      obtain ⟨y, hy, hfollow⟩ := (ih hxs (hd.document.parent_cases (hbelow p hp) hp)).1 hmatches
      have htells := (holds_questions_link hd hx hident (hbelow p hp)).1 hquestions
      exact ⟨y, hy, List.mem_flatMap.2 ⟨p, hfollow, List.mem_filter.2 ⟨Location.mem_kids.2 hp, htells⟩⟩⟩
    · rintro ⟨y, hy, hfollow⟩
      obtain ⟨p, hfollow, hm⟩ := List.mem_flatMap.1 hfollow
      obtain ⟨hkid, htells⟩ := List.mem_filter.1 hm
      have hp := Location.mem_kids.1 hkid
      exact ⟨(holds_questions_link hd hx hident (hbelow p hp)).2 htells, p, Option.mem_toList.2 hp,
        (ih hxs (hd.document.parent_cases (hbelow p hp) hp)).2 ⟨y, hy, hfollow⟩⟩

/-! ### The anchor by its id -/

/-- The elements of an id, as a selector finds it. -/
def havingIdent (d : Location) (value : String) : List Location :=
  d.descendants.filter fun m => (attrValue? m.tag "id").map (·.toText) == some value

/-- The anchor as its id is read, with the replacement character for every zero. -/
def asRead (a : Location) : Location := { a with tag := { a.tag with attrs := [("id", .text (zeroless a.tag.ident))] } }

lemma ident_asRead (a : Location) : (asRead a).tag.ident = zeroless a.tag.ident := rfl

lemma part_asRead (h : a.tag.ident.isEmpty = false) : part (asRead a) = part a := by
  unfold part
  rw [ident_asRead, zeroless_isEmpty, h]
  simp only [Bool.false_eq_true, if_false, ident, escape_zeroless]

lemma questions_asRead (h : a.tag.ident.isEmpty = false) : questions (asRead a) = [.ident (zeroless a.tag.ident)] := by
  unfold questions
  rw [ident_asRead, zeroless_isEmpty, h]
  rfl

section Read

variable (hd : d.IsPlainPage) (hl : l ∈ d.descendants) (ha : anchor? l = some a) (hident : a.tag.ident.isEmpty = false)
include hd hl ha hident

/-- **A place is read** as the questions to the elements of its trail, the id of the anchor without zeros. -/
lemma read_anchored (h : ¬ ∃ c ∈ a.tag.ident.toList, IsControl c) :
    read (structural l) = .ok [chain ((trail l).dropLast ++ [asRead a])] := by
  have htrail := trail_eq_append ha
  have hn : ∀ x ∈ trail l, isPlainName x.tag.name = true := fun x hx => (hd.elements x (mem_of_mem_trail hd hl hx)).2
  have hparts : ((trail l).dropLast ++ [asRead a]).map part = (trail l).map part := by
    conv_rhs => rw [htrail]
    rw [List.map_append, List.map_append, List.map_singleton, List.map_singleton, part_asRead hident]
  refine read_trail (by simp) (fun x hx => ?_) ?_
  · rcases List.mem_append.1 hx with hx | hx
    · refine ⟨hn x (List.mem_of_mem_dropLast hx), ?_⟩
      rw [String.isEmpty_iff.1 (ident_of_mem_dropLast hx)]
      simp
    · obtain rfl := List.mem_singleton.1 hx
      refine ⟨hn a (htrail ▸ List.mem_append_right _ List.mem_cons_self), fun c hc => ⟨zeroless_ne_zero _ c hc, ?_⟩⟩
      exact fun hcontrol => h (exists_control_zeroless.1 ⟨c, hc, hcontrol⟩)
  · rw [structural_eq (by rw [htrail]; simp) hn, ← hparts, textOf_eq (by simp)]

/-- A place is not read if the id of its anchor has one of the control characters behind ASCII. -/
lemma read_anchored_control (h : ∃ c ∈ a.tag.ident.toList, IsControl c) : read (structural l) = .error .malformed := by
  have hn : ∀ x ∈ trail l, isPlainName x.tag.name = true := fun x hx => (hd.elements x (mem_of_mem_trail hd hl hx)).2
  have hne : trail l ≠ [] := by
    rw [trail_eq_append ha]
    simp
  have htext : (structural l).toList = textOf (trail l) := by rw [structural_eq hne hn, textOf_eq hne]
  have hspelled : (structural l).toList = '#' :: ((escape (zeroless a.tag.ident)).toList ++
      (String.join ((links l).reverse.map (" > " ++ ·.written))).toList) := by
    rw [structural_anchored ha hn, part, if_neg (by simp [hident]), String.toList_append, toList_ident, escape_zeroless]
    rfl
  refine read_control hspelled ?_ (zeroless_ne_zero _) (exists_control_zeroless.2 h)
  rw [htext]
  exact textOf_ne_zero hn

omit ha in
/-- The selector of a place selects what its links lead to from the elements of the id that is read. -/
lemma selects_anchored (hm : m ∈ d.descendants) : selects [chain ((trail l).dropLast ++ [asRead a])] m = true ↔
    ∃ y, (Test.ident (zeroless a.tag.ident)).holds y = true ∧ m ∈ follow y (links l) := by
  have hxs : ∀ x ∈ (trail l).dropLast, x ∈ d.descendants ∧ x.tag.ident.isEmpty = true := fun x hx =>
    ⟨mem_of_mem_trail hd hl (List.mem_of_mem_dropLast hx), ident_of_mem_dropLast hx⟩
  rw [selects, (hd.elements m hm).1, anyMatches, anyMatches, Bool.or_false, Bool.not_false, Bool.true_and,
    matches_chain_append hd hxs (.inl hm), questions_asRead hident]
  simp only [allHold, Bool.and_true]
  rfl

/-- **If no other element has the id of its anchor**, just the element is selected, unless that id holds a zero. -/
lemma selectAll_anchored (h : havingIdent d a.tag.ident = [a]) :
    selectAll [chain ((trail l).dropLast ++ [asRead a])] d = [l] ↔ ∀ c ∈ a.tag.ident.toList, c.toNat ≠ 0 := by
  have hfollow : l ∈ follow a (links l) := by
    rw [follow_links hd hl ha]
    exact List.mem_cons_self
  have hself : (attrValue? a.tag "id").map (·.toText) = some a.tag.ident := by
    have hmem : a ∈ havingIdent d a.tag.ident := h ▸ List.mem_cons_self
    simpa using (List.mem_filter.1 hmem).2
  constructor
  · intro heq c hc
    have hmem : l ∈ selectAll [chain ((trail l).dropLast ++ [asRead a])] d := heq ▸ List.mem_cons_self
    obtain ⟨y, hy, hm⟩ := (selects_anchored hd hl hident hl).1 (List.mem_filter.1 hmem).2
    obtain rfl : a = y := Option.some.inj ((outward_of_mem_follow hfollow).symm.trans (outward_of_mem_follow hm))
    rw [holds_ident_eq, hself, Option.getD_some, beq_iff_eq] at hy
    exact zeroless_ne_zero _ c (hy ▸ hc)
  · intro hnul
    have hsub : [l].Sublist d.descendants := List.singleton_sublist.2 hl
    refine (Location.eq_filter_of_sublist hsub (Location.nodup_descendants d) fun m hm => ?_).symm
    rw [List.mem_singleton, selects_anchored hd hl hident hm, zeroless_eq_self hnul]
    constructor
    · rintro rfl
      exact ⟨a, by rw [holds_ident_eq, hself, Option.getD_some, beq_self_eq_true], hfollow⟩
    · rintro ⟨y, hy, hmy⟩
      have hvalue := (holds_ident_value (by simpa using hident)).1 hy
      have hpage : y ∈ d.descendants := by
        rcases List.mem_cons.1 (List.mem_of_getElem? (outward_of_mem_follow hmy)) with rfl | hy
        · exact hm
        · refine (hd.document.ancestors_cases hm hy).resolve_right fun heq => ?_
          rw [heq, hd.document.tag] at hvalue
          cases hvalue
      have hmem : y ∈ havingIdent d a.tag.ident := List.mem_filter.2 ⟨hpage, by simpa using hvalue⟩
      rw [h, List.mem_singleton] at hmem
      rw [hmem, follow_links hd hl ha, List.mem_singleton] at hmy
      exact hmy

end Read

/-- **The chain of an element is unambiguous from its anchor.**  On a page whose elements have plain names, for every
element but the body:

* it has an anchor, the first element with an id on the walk outward or else the last one, and its selector is the
  anchor as it is written and then the links that lead from there to the element;
* these links lead from the anchor to the element and to no other one;
* if the anchor has an id that no other element has, the selector selects just the element if and only if the id holds
  no zero, for which another character is written, and none of the control characters behind ASCII, which are not
  read. -/
theorem structural_unambiguous (hd : d.IsPlainPage) (hl : l ∈ d.descendants) (hbody : l.tag.name ≠ "body") :
    ∃ a, anchor? l = some a ∧ structural l = part a ++ String.join ((links l).reverse.map (" > " ++ ·.written)) ∧
      follow a (links l) = [l] ∧
      (a.tag.ident ≠ "" → havingIdent d a.tag.ident = [a] →
        (d.queryAll (structural l) = .ok [l] ↔ ∀ c ∈ a.tag.ident.toList, c.toNat ≠ 0 ∧ ¬ IsControl c)) := by
  obtain ⟨a, ha⟩ := exists_anchor (hd.elements l hl).1 (hd.elements l hl).2 hbody
  refine ⟨a, ha, structural_anchored ha fun x hx => (hd.elements x (mem_of_mem_trail hd hl hx)).2,
    follow_links hd hl ha, fun hne hunique => ?_⟩
  have hident : a.tag.ident.isEmpty = false := by simpa using hne
  have hquery : d.queryAll (structural l) = ((read (structural l)).mapError Fault.selector).map (selectAll · d) := rfl
  by_cases hcontrol : ∃ c ∈ a.tag.ident.toList, IsControl c
  · rw [hquery, read_anchored_control hd hl ha hident hcontrol]
    obtain ⟨c, hc, hcontrol⟩ := hcontrol
    exact iff_of_false nofun fun h => (h c hc).2 hcontrol
  · rw [hquery, read_anchored hd hl ha hident hcontrol]
    show Except.ok _ = Except.ok _ ↔ _
    rw [Except.ok.injEq, selectAll_anchored hd hl ha hident hunique]
    exact forall₂_congr fun c hc => (and_iff_left fun h => hcontrol ⟨c, hc, h⟩).symm

/-- Two inputs in a part of a form with an id. -/
def twoInputs : Location where
  tag := documentTag
  children := [.element ⟨1, "div", [("id", .text "form")]⟩
    [.element ⟨2, "div", []⟩ [.element ⟨3, "input", []⟩ [], .element ⟨4, "input", []⟩ []]]]
  context := .top

/-- The second one is found by its place. -/
theorem twoInputs_found : ∃ l ∈ twoInputs.descendants, l.tag.id = 4 ∧
    structural l = "#form > div > input:nth-of-type(2)" ∧ twoInputs.queryAll (structural l) = .ok [l] := by
  have hl : twoInputs.descendants.getLastI ∈ twoInputs.descendants := List.mem_of_getLast? rfl
  obtain ⟨a, ha, -, -, hquery⟩ := structural_unambiguous (d := twoInputs) (by decide +kernel) hl (by decide +kernel)
  obtain rfl : twoInputs.descendants.headI = a := Option.some.inj ha
  exact ⟨_, hl, rfl, by decide +kernel, (hquery (by decide +kernel) (by with_unfolding_all rfl)).2 (by decide +kernel)⟩

/-- A paragraph in an element whose id holds a control character. -/
def controlPage : Location where
  tag := documentTag
  children := [.element ⟨1, "div", [("id", .text "a\u0085b")]⟩ [.element ⟨2, "p", []⟩ []]]
  context := .top

/-- An id that no other element has is not always found again. -/
theorem controlPage_unread : ¬ ∀ d l a : Location, d.IsPlainPage → l ∈ d.descendants → l.tag.name ≠ "body" →
    anchor? l = some a → a.tag.ident ≠ "" → havingIdent d a.tag.ident = [a] → d.queryAll (structural l) = .ok [l] := by
  intro h
  have hl : controlPage.descendants.getLastI ∈ controlPage.descendants := List.mem_of_getLast? rfl
  have hfound := h controlPage _ controlPage.descendants.headI (by decide +kernel) hl (by decide +kernel) rfl
    (by decide +kernel) (by with_unfolding_all rfl)
  have hread : (controlPage.queryAll (structural controlPage.descendants.getLastI)).toOption.isNone := by decide +kernel
  rw [hfound] at hread
  cases hread

end Locator

end PageTape
