import PageTape.Proofs.Locator.Asks

/-!
# Which of the selectors that are offered for an element select it

The selector of an element selects it, and so do all the alternatives, but for one: where an element has a role and a
name but no accessible label of its own, the selector by its role asks for its name as if it were that label
(`offered_selects`).
-/

namespace PageTape.Locator

open Dom Css

variable {l : Location} {s : SmartSelector}

/-- An element has a name, but no accessible label of its own. -/
def isNamedOnly (t : Tag) : Bool := (given? t "aria-label").isNone && (given? t "name").isSome

/-- An offered selector asks something that is true of the element. -/
def Suits (l : Location) (s : String) : Prop := ∃ P, Asks s P ∧ P l

lemma Suits.isSelected {s : String} (h : Suits l s) (hdocument : l.tag.isDocument = false) (hl : l.LowerPath) :
    l.isSelected s = .ok true := by
  obtain ⟨P, hasks, hP⟩ := h
  obtain ⟨b, hb, hiff⟩ := hasks.isSelected hdocument hl
  rw [hb, hiff.2 hP]

/-! ### One way after the other -/

lemma suits_attr (hw : l.Writable) {n value : String} (hn : isPlainName n = true) (htype : n ≠ "type")
    (h : given? l.tag n = some value) : Suits l (attrOf n value) :=
  have hvalue := (given?_eq_some.1 h).1
  ⟨_, asks_attr hn htype (hw.attr? hvalue), hvalue⟩

lemma suits_name_attr (hw : l.Writable) {n value : String} (hn : isPlainName n = true) (htype : n ≠ "type")
    (h : given? l.tag n = some value) : Suits l (l.tag.lowerName ++ attrOf n value) := by
  have hvalue := (given?_eq_some.1 h).1
  rw [hw.lowerName]
  exact ⟨_, asks_name_attr hw.name hn htype (hw.attr? hvalue), rfl, hvalue⟩

lemma suits_ident (hw : l.Writable) (h : l.tag.ident.isEmpty = false) : Suits l (ident l.tag.ident) :=
  ⟨_, asks_ident (by simpa using h) hw.ident_chars, rfl⟩

lemma byTestId?_suits (hw : l.Writable) (h : byTestId? l = some s) : s.strategy ≠ .role ∧ Suits l s.value := by
  obtain ⟨n, hn, h⟩ := List.exists_of_findSome?_eq_some h
  obtain ⟨value, hvalue, rfl⟩ := Option.map_eq_some_iff.1 h
  obtain ⟨hplain, htype⟩ := testIdNames_plain n hn
  exact ⟨nofun, suits_attr hw hplain htype hvalue⟩

lemma byAriaLabel?_suits (hw : l.Writable) (h : byAriaLabel? l = some s) : s.strategy ≠ .role ∧ Suits l s.value := by
  unfold byAriaLabel? at h
  cases hlabel : given? l.tag "aria-label" with
  | some label =>
    rw [hlabel] at h
    obtain rfl := Option.some.inj h
    exact ⟨nofun, suits_attr hw (by decide) (by decide) hlabel⟩
  | none =>
    rw [hlabel] at h
    obtain ⟨reference, hreference, h⟩ := Option.bind_eq_some_iff.1 h
    dsimp only at h
    split at h
    · cases h
    · obtain rfl := Option.some.inj h
      exact ⟨nofun, suits_attr hw (by decide) (by decide) hreference⟩

lemma byName?_suits (hw : l.Writable) (h : byName? l = some s) : s.strategy ≠ .role ∧ Suits l s.value := by
  obtain ⟨name, hname, h⟩ := Option.bind_eq_some_iff.1 h
  obtain rfl := Option.some.inj h
  exact ⟨nofun, suits_name_attr hw (by decide) (by decide) hname⟩

lemma byPlaceholder?_suits (hw : l.Writable) (h : byPlaceholder? l = some s) :
    s.strategy ≠ .role ∧ Suits l s.value := by
  obtain ⟨text, htext, h⟩ := Option.bind_eq_some_iff.1 h
  obtain rfl := Option.some.inj h
  exact ⟨nofun, suits_name_attr hw (by decide) (by decide) htext⟩

lemma byIdent?_suits (hw : l.Writable) (h : byIdent? l = some s) : s.strategy ≠ .role ∧ Suits l s.value := by
  unfold byIdent? at h
  dsimp only at h
  split at h
  · cases h
  · rename_i hgiven
    obtain rfl := Option.some.inj h
    simp only [Bool.or_eq_true, not_or, Bool.not_eq_true] at hgiven
    exact ⟨nofun, suits_ident hw hgiven.1⟩

lemma byPlace_suits (hdocument : l.tag.isDocument = false) (h : l.WritablePath) :
    (byPlace l).strategy ≠ .role ∧ Suits l (byPlace l).value := by
  unfold byPlace
  split
  · exact ⟨nofun, _, asks_structural hdocument h, isPlacedAs_self l⟩
  · rename_i hident
    exact ⟨nofun, suits_ident (h.writable List.mem_cons_self hdocument) (by simpa using hident)⟩

/-- The selector by the role asks for a label that an element which is only named does not have. -/
lemma byRole?_asks (hw : l.Writable) (h : byRole? l = some s) :
    s.strategy = .role ∧ ∃ P, Asks s.value P ∧ (P l ↔ isNamedOnly l.tag = false) := by
  obtain ⟨role, hrole, h⟩ := Option.bind_eq_some_iff.1 h
  have hvalue := (given?_eq_some.1 hrole).1
  unfold isNamedOnly
  cases hlabel : given? l.tag "aria-label" with
  | some label =>
    have hlabelled := (given?_eq_some.1 hlabel).1
    simp only [hlabel, Option.orElse_some] at h
    obtain rfl := Option.some.inj h
    exact ⟨rfl, _, asks_attr_attr (by decide) (by decide) (hw.attr? hvalue) (by decide) (by decide)
      (hw.attr? hlabelled), by simp [hvalue, hlabelled]⟩
  | none =>
    cases hname : given? l.tag "name" with
    | some name =>
      obtain ⟨hnamed, hne⟩ := given?_eq_some.1 hname
      simp only [hlabel, hname, Option.orElse_none] at h
      obtain rfl := Option.some.inj h
      have hnot : l.tag.attr? "aria-label" ≠ some name := fun heq => by
        rw [given?_eq_some.2 ⟨heq, hne⟩] at hlabel
        cases hlabel
      exact ⟨rfl, _, asks_attr_attr (by decide) (by decide) (hw.attr? hvalue) (by decide) (by decide)
        (hw.attr? hnamed), by simp [hnot]⟩
    | none =>
      simp only [hlabel, hname, Option.orElse_none] at h
      obtain rfl := Option.some.inj h
      exact ⟨rfl, _, asks_attr (by decide) (by decide) (hw.attr? hvalue), by simp [hvalue]⟩

/-! ### All of them -/

lemma mem_distinct {seen : List String} {ss : List SmartSelector} (h : s ∈ distinct seen ss) : s ∈ ss := by
  induction ss generalizing seen with
  | nil => exact h
  | cons t ss ih =>
    unfold distinct at h
    split at h
    · exact List.mem_cons_of_mem _ (ih h)
    · rcases List.mem_cons.1 h with rfl | h
      · exact List.mem_cons_self
      · exact List.mem_cons_of_mem _ (ih h)

/-- Every offered selector asks something that is true of the element, unless it asks for a name as a label. -/
lemma smart_asks (hdocument : l.tag.isDocument = false) (h : l.WritablePath) (hs : s ∈ smart l) :
    ∃ P, Asks s.value P ∧ (P l ↔ ¬ (s.strategy = .role ∧ isNamedOnly l.tag = true)) := by
  have hw := h.writable List.mem_cons_self hdocument
  have suits (hsuits : s.strategy ≠ .role ∧ Suits l s.value) :
      ∃ P, Asks s.value P ∧ (P l ↔ ¬ (s.strategy = .role ∧ isNamedOnly l.tag = true)) :=
    have ⟨hrole, P, hasks, hP⟩ := hsuits
    ⟨P, hasks, iff_of_true hP fun hboth => hrole hboth.1⟩
  rcases List.mem_append.1 (mem_distinct hs) with hs | hs
  · obtain ⟨way, hway, hs⟩ := List.mem_filterMap.1 hs
    simp only [List.mem_cons, List.not_mem_nil, or_false] at hway
    rcases hway with rfl | rfl | rfl | rfl | rfl | rfl
    · exact suits (byTestId?_suits hw hs)
    · exact suits (byAriaLabel?_suits hw hs)
    · obtain ⟨hrole, P, hasks, hP⟩ := byRole?_asks hw hs
      exact ⟨P, hasks, by simp [hP, hrole]⟩
    · exact suits (byName?_suits hw hs)
    · exact suits (byIdent?_suits hw hs)
    · exact suits (byPlaceholder?_suits hw hs)
  · obtain rfl := List.mem_singleton.1 hs
    exact suits (byPlace_suits hdocument h)

/-- **The selectors that are offered for an element select it**, whatever its attributes hold: the one that it is
recorded by, and every alternative, but for the selector by the role of an element that has a name and no accessible
label. -/
theorem offered_selects (hdocument : l.tag.isDocument = false) (h : l.WritablePath) :
    l.isSelected (quick l) = .ok true ∧
      ∀ s ∈ smart l, l.isSelected s.value = .ok !(s.strategy == .role && isNamedOnly l.tag) := by
  refine ⟨Suits.isSelected ⟨_, asks_quick hdocument h, isCalledAs_self l⟩ hdocument h.lowerPath, fun s hs => ?_⟩
  obtain ⟨P, hasks, hP⟩ := smart_asks hdocument h hs
  obtain ⟨b, hb, hiff⟩ := hasks.isSelected hdocument h.lowerPath
  rw [hb, Except.ok.injEq, Bool.eq_iff_iff, hiff, hP]
  simp [imp_iff_not_or]

/-- The only child of a body: `<input role="searchbox" name="q">`. -/
def searchbox : Location where
  tag := ⟨3, "input", [("role", .text "searchbox"), ("name", .text "q")]⟩
  children := []
  context := .inside ⟨2, "body", []⟩ [] [] (.inside ⟨1, "html", []⟩ [] [] (.inside documentTag [] [] .top))

theorem searchbox_offered : searchbox.tag.isDocument = false ∧ searchbox.WritablePath ∧
    searchbox.isSelected (quick searchbox) = .ok true ∧ ∀ s ∈ smart searchbox,
      searchbox.isSelected s.value = .ok !(s.strategy == .role && isNamedOnly searchbox.tag) :=
  ⟨rfl, by decide, offered_selects rfl (by decide)⟩

/-- A search field is offered a selector by its role that does not select it. -/
theorem searchbox_not_selected : searchbox.WritablePath ∧ ∃ s ∈ smart searchbox,
    s.value = "[role=\"searchbox\"][aria-label=\"q\"]" ∧ searchbox.isSelected s.value = .ok false := by
  have hw : searchbox.WritablePath := by decide
  refine ⟨hw, ⟨.role, "[role=\"searchbox\"][aria-label=\"q\"]", some "role=\"searchbox\" name=\"q\""⟩, ?_, rfl, ?_⟩
  · decide +kernel
  · have hasks : Asks (attrOf "role" "searchbox" ++ attrOf "aria-label" "q") _ :=
      asks_attr_attr (by decide) (by decide) (by decide) (by decide) (by decide) (by decide)
    obtain ⟨b, hb, hiff⟩ := hasks.isSelected rfl hw.lowerPath
    cases b with
    | false => exact hb
    | true => exact absurd (hiff.1 rfl).2 (by decide)

end PageTape.Locator
