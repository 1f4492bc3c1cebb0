import Mathlib.Data.List.Pairwise
import PageTape.Proofs.Locator.Asks

/-!
# When the selector of an element finds it again

On a page where no two elements share an id, a test id, or, among elements of one kind, a name, an element that has one
of these is found by it.  Of all other elements the selector tells the place.  It is found again if the place begins at
an element with an id (`eq_of_resembles`); but where it begins at the body, which it does not name, another element
that lies deeper may have the same place and come first (`quick_finds`).
-/

namespace PageTape

namespace Dom.Location

variable {α : Type} {d l m : Location}

/-- The document with the elements below it, whose names are in lower case. -/
structure IsPage (d : Location) : Prop where
  document : d.IsDocument
  elements : ∀ l ∈ d.descendants, l.tag.isDocument = false ∧ l.tag.IsLower

instance (d : Location) : Decidable d.IsPage :=
  decidable_of_iff (d.IsDocument ∧ ∀ l ∈ d.descendants, l.tag.isDocument = false ∧ l.tag.IsLower)
    ⟨fun ⟨document, elements⟩ => ⟨document, elements⟩, fun h => ⟨h.document, h.elements⟩⟩

/-- No two elements of a page share what they have of some kind. -/
def Unshared (d : Location) (kind : Location → Option α) : Prop :=
  d.descendants.Pairwise fun l m => kind l ≠ none → kind l ≠ kind m

instance [DecidableEq α] (d : Location) (kind : Location → Option α) : Decidable (d.Unshared kind) :=
  inferInstanceAs (Decidable (List.Pairwise _ _))

/-- Two elements that share something are the same. -/
lemma Unshared.eq {kind : Location → Option α} {a : α} (h : d.Unshared kind) (hl : l ∈ d.descendants)
    (hm : m ∈ d.descendants) (hkind : kind l = some a) (hshared : kind m = some a) : m = l := by
  by_contra hne
  have : Std.Symm fun l m : Location => kind l ≠ none → kind l ≠ kind m :=
    ⟨fun l m h hm heq => h (heq ▸ hm) heq.symm⟩
  exact h.forall hm hl hne (by simp [hshared]) (hshared.trans hkind.symm)

lemma IsPage.isLower (h : d.IsPage) (hl : l ∈ d.descendants) : l.IsLower where
  tag := (h.elements l hl).2
  siblings t ht := by
    obtain ⟨c, hc, rfl⟩ := exists_sibling_mem hl (.inl ht)
    exact (h.elements c hc).2.name

/-- All elements of a page can be asked what a selector asks. -/
lemma IsPage.askable (h : d.IsPage) : ∀ l ∈ d.descendants, l.tag.isDocument = false ∧ l.LowerPath := fun l hl => by
  refine ⟨(h.elements l hl).1, fun a ha => ?_⟩
  rcases List.mem_cons.1 ha with rfl | ha
  · exact h.isLower hl
  · rcases h.document.ancestors_cases hl ha with ha | rfl
    · exact h.isLower ha
    · exact h.document.isLower

end Dom.Location

namespace Locator

open Dom Css

variable {d l m : Location}

/-- No two elements of a page share an id, no two a test id, and no two of one kind a name. -/
structure Distinguished (d : Location) : Prop where
  ident : d.Unshared (given? ·.tag "id")
  testId : ∀ n ∈ testIdNames, d.Unshared (given? ·.tag n)
  name : d.Unshared fun l => (given? l.tag "name").map (l.tag.name, ·)

instance (d : Location) : Decidable (Distinguished d) :=
  decidable_of_iff (d.Unshared (given? ·.tag "id") ∧ (∀ n ∈ testIdNames, d.Unshared (given? ·.tag n)) ∧
    d.Unshared fun l => (given? l.tag "name").map (l.tag.name, ·))
    ⟨fun ⟨ident, testId, name⟩ => ⟨ident, testId, name⟩, fun h => ⟨h.ident, h.testId, h.name⟩⟩

lemma given?_ident {t : Tag} (h : t.ident.isEmpty = false) : given? t "id" = some t.ident := by
  unfold Tag.ident at h ⊢
  rw [given?_eq_some]
  cases hvalue : t.attr? "id" with
  | none => simp [hvalue] at h
  | some value =>
    rw [hvalue] at h
    exact ⟨rfl, by simpa using h⟩

lemma Distinguished.eq_of_ident (h : Distinguished d) (hl : l ∈ d.descendants) (hm : m ∈ d.descendants)
    (hident : l.tag.ident.isEmpty = false) (hshared : m.tag.ident = l.tag.ident) : m = l := by
  have hmgiven := given?_ident (t := m.tag) (by rw [hshared, hident])
  rw [hshared] at hmgiven
  exact h.ident.eq hl hm (given?_ident hident) hmgiven

/-! ### Places that begin at an element with an id -/

/-- An element has an id, or its place begins at an element with one. -/
def isAnchored (l : Location) : Bool := (trail l).any (!·.tag.ident.isEmpty)

/-- A trail begins with the element itself. -/
lemma head_trail {t : Location} {ts : List Location} (h : trail l = t :: ts) : t = l := by
  rw [trail_eq] at h
  split_ifs at h
  · exact (List.cons.inj h).1.symm
  · exact (List.cons.inj h).1.symm

/-- **An element is the only one at its place**, if this begins at an element with an id. -/
theorem eq_of_resembles (hd : d.IsPage) (h : Distinguished d) (hl : l ∈ d.descendants) (hw : l.WritablePath)
    (hanchored : isAnchored l = true) (hm : m ∈ d.descendants) (hresembles : Resembles (trail l) m) : m = l := by
  induction l using Location.outside_in generalizing m with
  | top l htop => simp [Location.mem_descendants_iff, Location.ancestors_eq, htop] at hl
  | child l p hp ih =>
    unfold isAnchored at hanchored
    rw [trail_eq, hp] at hanchored hresembles
    split_ifs at hanchored hresembles with hstop hident
    · simp at hanchored
    · have hanchored : isAnchored p = true := by simpa [isAnchored, hident] using hanchored
      have hresembles : Resembles (l :: trail p) m := hresembles
      cases htrail : trail p with
      | nil => simp [isAnchored, htrail] at hanchored
      | cons t ts =>
        rw [htrail] at hresembles
        obtain ⟨hanswers, q, hq, hrest⟩ := hresembles
        -- neither of the parents is the document: its trail is empty, and it answers to no element
        have hpage : p ∈ d.descendants := (hd.document.parent_cases hl hp).resolve_right fun heq => by
          rw [trail_eq, heq, hd.document.tag] at htrail
          cases htrail
        obtain rfl := head_trail htrail
        have hwritable := (hw.parent hp).writable List.mem_cons_self (hd.elements t hpage).1
        have hqpage : q ∈ d.descendants := (hd.document.parent_cases hm hq).resolve_right fun heq =>
          not_answers_document hwritable (heq ▸ hd.document) hrest.answers
        obtain rfl := ih hpage (hw.parent hp) hanchored hqpage (htrail ▸ hrest)
        exact eq_of_answers hq hp (hd.elements q hqpage).1 hident hanswers
    · exact h.eq_of_ident hl hm (by simpa using hident) (by simpa [Resembles, Answers, hident] using hresembles)

/-! ### The selector of an element -/

/-- An element is known by something that no other one shares: its id, its test id, its name, or a place that begins at
an element with an id. -/
def isKnown (l : Location) : Bool :=
  !l.tag.ident.isEmpty || (testId? testIdNames l.tag).isSome || (given? l.tag "name").isSome || isAnchored l

/-- An element that is known is the only one that its selector asks for. -/
lemma eq_of_isCalledAs (hd : d.IsPage) (h : Distinguished d) (hl : l ∈ d.descendants) (hw : l.WritablePath)
    (hknown : isKnown l = true) (hm : m ∈ d.descendants) (hcalled : IsCalledAs l m) : m = l := by
  unfold IsCalledAs at hcalled
  split at hcalled
  · rename_i hident
    split at hcalled
    · rename_i n value htest
      obtain ⟨hn, hgiven⟩ := testId?_eq_some htest
      exact (h.testId n hn).eq hl hm hgiven (given?_eq_some.2 ⟨hcalled, (given?_eq_some.1 hgiven).2⟩)
    · rename_i htest
      split at hcalled
      · rename_i name hgiven
        obtain ⟨hkind, hname⟩ := hcalled
        have hmgiven := given?_eq_some.2 ⟨hname, (given?_eq_some.1 hgiven).2⟩
        exact h.name.eq hl hm (by rw [hgiven]; rfl) (by rw [hmgiven, hkind]; rfl)
      · rename_i hgiven
        have hanchored : isAnchored l = true := by simpa [isKnown, hident, htest, hgiven] using hknown
        refine eq_of_resembles hd h hl hw hanchored hm ?_
        unfold IsPlacedAs at hcalled
        split at hcalled
        · rename_i htrail
          simp [isAnchored, htrail] at hanchored
        · rename_i htrail
          rwa [htrail]
  · rename_i hident
    exact h.eq_of_ident hl hm (by simpa using hident) hcalled

/-- An element that is not known is asked for by its place. -/
lemma isCalledAs_of_unknown (hknown : isKnown l = false) : IsCalledAs l m ↔ IsPlacedAs l m := by
  simp only [isKnown, Bool.or_eq_false_iff, Bool.not_eq_false', Option.isSome_eq_false_iff,
    Option.isNone_iff_eq_none] at hknown
  obtain ⟨⟨⟨hident, htest⟩, hname⟩, -⟩ := hknown
  simp [IsCalledAs, hident, htest, hname]

/-- **The selector of an element finds an element of the page**, which is the same one just if it is known by something
that no other one shares, or if there is none before it at the same place. -/
theorem quick_finds (hd : d.IsPage) (h : Distinguished d) (hl : l ∈ d.descendants) (hw : l.WritablePath) :
    ∃ found, d.query? (quick l) = .ok (some found) ∧ (found = l ↔ isKnown l = true ∨
      ∃ before after, d.descendants = before ++ l :: after ∧ ∀ m ∈ before, ¬ IsPlacedAs l m) := by
  obtain ⟨found, hfound, hmem, hcalled, hiff⟩ :=
    (asks_quick (hd.elements l hl).1 hw).query? hd.askable hl (isCalledAs_self l)
  refine ⟨found, hfound, ?_⟩
  cases hknown : isKnown l with
  | true => exact iff_of_true (eq_of_isCalledAs hd h hl hw hknown hmem hcalled) (.inl rfl)
  | false => simpa [isCalledAs_of_unknown hknown] using hiff

/-- A page with two spans: `<p id="intro"><span></span></p><span></span>`. -/
def twoSpans : Location where
  tag := documentTag
  children := [.element ⟨1, "html", []⟩ [.element ⟨2, "body", []⟩
    [.element ⟨3, "p", [("id", .text "intro")]⟩ [.element ⟨4, "span", []⟩ []], .element ⟨5, "span", []⟩ []]]]
  context := .top

/-- The body of the page with two spans, as what stands around its children. -/
def inBody (before after : List Node) : Context :=
  .inside ⟨2, "body", []⟩ before after (.inside ⟨1, "html", []⟩ [] [] (.inside documentTag [] [] .top))

/-- The span in the paragraph. -/
def innerSpan : Location where
  tag := ⟨4, "span", []⟩
  children := []
  context := .inside ⟨3, "p", [("id", .text "intro")]⟩ [] [] (inBody [] [.element ⟨5, "span", []⟩ []])

/-- The span behind the paragraph. -/
def outerSpan : Location where
  tag := ⟨5, "span", []⟩
  children := []
  context := inBody [.element ⟨3, "p", [("id", .text "intro")]⟩ [.element ⟨4, "span", []⟩ []]] []

theorem innerSpan_found : twoSpans.IsPage ∧ Distinguished twoSpans ∧ innerSpan ∈ twoSpans.descendants ∧
    innerSpan.WritablePath ∧ ∃ found, twoSpans.query? (quick innerSpan) = .ok (some found) ∧
      (found = innerSpan ↔ isKnown innerSpan = true ∨ ∃ before after,
        twoSpans.descendants = before ++ innerSpan :: after ∧ ∀ m ∈ before, ¬ IsPlacedAs innerSpan m) :=
  have hmem : innerSpan ∈ twoSpans.descendants := List.mem_of_getElem? (i := 3) rfl
  ⟨by decide, by decide, hmem, by decide, quick_finds (by decide) (by decide) hmem (by decide)⟩

/-- The selector of the outer span finds the inner one. -/
theorem outerSpan_not_found : twoSpans.IsPage ∧ Distinguished twoSpans ∧ outerSpan ∈ twoSpans.descendants ∧
    outerSpan.WritablePath ∧ quick outerSpan = "span" ∧ twoSpans.query? (quick outerSpan) = .ok (some innerSpan) ∧
      innerSpan ≠ outerSpan := by
  have hd : twoSpans.IsPage := by decide
  have houter : outerSpan ∈ twoSpans.descendants := List.mem_of_getElem? (i := 4) rfl
  have hinner : innerSpan ∈ twoSpans.descendants := List.mem_of_getElem? (i := 3) rfl
  have hw : outerSpan.WritablePath := by decide
  have hcalled : ∀ m, IsCalledAs outerSpan m ↔ m.tag.name = "span" := fun m => by
    have hposition : position? outerSpan = none := rfl
    have hplaced : IsPlacedAs outerSpan m ↔ Answers outerSpan m := Iff.rfl
    rw [isCalledAs_of_unknown (by decide), hplaced, Answers, if_pos (by decide), hposition]
    simp [outerSpan]
  obtain ⟨found, hfound, -, -, hiff⟩ :=
    (asks_quick (hd.elements _ houter).1 hw).query? hd.askable hinner ((hcalled _).2 rfl)
  have hfirst : ∀ m ∈ twoSpans.descendants.take 3, m.tag.name ≠ "span" := by decide
  obtain rfl := hiff.2 ⟨twoSpans.descendants.take 3, twoSpans.descendants.drop 4, rfl,
    fun m hm hP => hfirst m hm ((hcalled m).1 hP)⟩
  exact ⟨hd, by decide, houter, hw, by decide, hfound, fun heq => absurd (congrArg (·.tag.id) heq) (by decide)⟩

end Locator

end PageTape
