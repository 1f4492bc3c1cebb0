import PageTape.Form.Expectation
import PageTape.Proofs.Script.Frames
import PageTape.Proofs.Script.Pattern
import PageTape.Proofs.Script.WellFormed

/-!
# What a check of the URL finds

A check that the URL holds a text, or that a form leads to it, is written with the text itself: in Cypress as a part to
be included, in Playwright and in Playwright for Python as a regular expression.  So the two find what Cypress finds
exactly where the text has no metacharacter (`url_patterns_unescaped`), and an address with a query is not found in
itself (`query_not_found`).
-/

namespace PageTape.Script

open RecordingFile (Material)

/-! ### Checks of the URL in a script -/

/-- Program text as it is read. -/
def codes (t : String) : List Token := t.toList.map .code

/-- A line is read behind its blanks. -/
def behindBlanks (line : List Token) : List Token := line.dropWhile (· == .code ' ')

/-- A check with a regular expression in Playwright. -/
def Playwright.urlPattern (t : String) : List Token :=
  codes "await expect(page).toHaveURL(new RegExp(" ++ .literal t :: codes "));"

/-- A check with a regular expression in Playwright for Python. -/
def Pytest.urlPattern (t : String) : List Token :=
  codes "expect(page).to_have_url(re.compile(" ++ .literal t :: codes "))"

/-- A check for a part of the URL in Cypress. -/
def Cypress.urlPart (t : String) : List Token :=
  codes "cy.url().should(" ++ .literal "include" :: codes ", " ++ .literal t :: codes ");"

/-- An assertion that asks for a part of the URL. -/
def asksForPart (a : Assertion) : Bool := a.kind == .urlContains || a.kind == .redirect

section Checks

variable {o : Options} {m : Material} {a : Assertion}

/-- A line that is written is read, where no remark can end the program. -/
lemma read_line {V : Voice} (hV : V.Sound) (htag : V.language.hasClosingTag = false) (hopening : V.opening = [])
    {l : Line} (hl : l ∈ V.dialect.linesFor o m) : ∃ lines, V.language.read (V.dialect.scriptFor o m) = some lines ∧
      V.dialect.spelling.lineTokens l ∈ lines := by
  obtain ⟨lines, hread⟩ := hV.isRead (o := o) (m := m) fun _ _ => not_closes htag
  have hwritten := hread.written
  rw [hopening, List.length_nil, List.drop_zero] at hwritten
  exact ⟨lines, hread.read, hwritten ▸ List.mem_map_of_mem hl⟩

lemma asksForPart_iff : asksForPart a = true ↔ a.kind = .urlContains ∨ a.kind = .redirect := by
  simp [asksForPart]

lemma playwright_check (ha : a ∈ writtenAssertions o m) (hpart : asksForPart a = true) :
    ∃ lines, javaScript.read (playwright.scriptFor o m) = some lines ∧
      ∃ line ∈ lines, behindBlanks line = Playwright.urlPattern (a.expected.getD "") := by
  have hline : ⟨"  ", [.code "await expect(page).toHaveURL(new RegExp(", .literal (a.expected.getD ""), .code "));"]⟩ ∈
      playwright.indented (playwright.assertion a) := by
    show _ ∈ playwright.indented (Playwright.assertion a)
    unfold Playwright.assertion
    rcases asksForPart_iff.1 hpart with hkind | hkind <;> rw [hkind] <;> exact List.mem_singleton_self _
  obtain ⟨lines, hread, hmem⟩ := read_line playwrightVoice_sound rfl rfl (playwright_frames.mem_assertion ha hline)
  refine ⟨lines, hread, _, hmem, ?_⟩
  show behindBlanks (playwright.spelling.lineTokens _) = _
  simp [behindBlanks, Spelling.lineTokens, Spelling.tokens, Spelling.said, Spelling.remark?, Playwright.urlPattern, codes]

lemma pytest_check (ha : a ∈ writtenAssertions o m) (hpart : asksForPart a = true) :
    ∃ lines, python.read (pytest.scriptFor o m) = some lines ∧
      ∃ line ∈ lines, behindBlanks line = Pytest.urlPattern (a.expected.getD "") := by
  have hline : ⟨"    ", [.code "expect(page).to_have_url(re.compile(", .literal (a.expected.getD ""), .code "))"]⟩ ∈
      pytest.indented (pytest.assertion a) := by
    show _ ∈ pytest.indented (Pytest.assertion a)
    unfold Pytest.assertion
    rcases asksForPart_iff.1 hpart with hkind | hkind <;> rw [hkind] <;> exact List.mem_singleton_self _
  obtain ⟨lines, hread, hmem⟩ := read_line pytestVoice_sound rfl rfl (pytest_frames.mem_assertion ha hline)
  refine ⟨lines, hread, _, hmem, ?_⟩
  show behindBlanks (pytest.spelling.lineTokens _) = _
  simp [behindBlanks, Spelling.lineTokens, Spelling.tokens, Spelling.said, Spelling.remark?, Pytest.urlPattern, codes]

lemma cypress_check (ha : a ∈ writtenAssertions o m) (hpart : asksForPart a = true) :
    ∃ lines, javaScript.read (cypress.scriptFor o m) = some lines ∧
      ∃ line ∈ lines, behindBlanks line = Cypress.urlPart (a.expected.getD "") := by
  have hline : ⟨"    ", [.code "cy.url()", .code ".should(", .literal "include", .code ", ",
      .literal (a.expected.getD ""), .code ");"]⟩ ∈ cypress.indented (cypress.assertion a) := by
    show _ ∈ cypress.indented (Cypress.assertion a)
    unfold Cypress.assertion
    rcases asksForPart_iff.1 hpart with hkind | hkind <;> rw [hkind] <;> exact List.mem_singleton_self _
  obtain ⟨lines, hread, hmem⟩ := read_line cypressVoice_sound rfl rfl (cypress_frames.mem_assertion ha hline)
  refine ⟨lines, hread, _, hmem, ?_⟩
  show behindBlanks (cypress.spelling.lineTokens _) = _
  simp [behindBlanks, Spelling.lineTokens, Spelling.tokens, Spelling.said, Spelling.remark?, Cypress.urlPart, codes]

end Checks

/-- The forms that lead somewhere by their own word. -/
def formsWithAction (root : Dom.Location) : List Dom.Location :=
  Css.selectAll [.compound [.name none "form", .attribute ⟨"action", none, false⟩]] root

/-- A redirect that a page lets one expect is to the action of a form, as it is written. -/
lemma redirect_expected {root : Dom.Location} {actions : List Action} {page : String} {a : Assertion}
    (ha : a ∈ Form.expectations root actions page) (hpart : asksForPart a = true) :
    ∃ form ∈ formsWithAction root, a.expected = form.tag.attr? "action" := by
  rw [Form.expectations, List.mem_append, List.mem_append] at ha
  rcases ha with (ha | ha) | ha
  · -- that the URL changes asks for no part of it
    split at ha
    · cases List.mem_singleton.1 ha
      exact absurd hpart Bool.false_ne_true
    · cases ha
  · obtain ⟨selector, -, rfl⟩ := List.mem_map.1 ha
    exact absurd hpart Bool.false_ne_true
  · obtain ⟨target, htarget, rfl⟩ := List.mem_map.1 ha
    rw [Option.mem_toList, Form.formTarget?] at htarget
    obtain ⟨form, hform, htarget⟩ := List.exists_of_findSome?_eq_some htarget
    refine ⟨form, hform, ?_⟩
    cases haction : form.tag.attr? "action" with
    | none => simp [haction] at htarget
    | some action =>
      rw [haction] at htarget
      dsimp only [Option.getD_some] at htarget
      split at htarget
      · cases htarget
      · exact htarget.symm

/-- **A check of the URL looks for its text unescaped.** -/
theorem url_patterns_unescaped (o : Options) (m : Material) (a : Assertion) (ha : a ∈ writtenAssertions o m)
    (hpart : asksForPart a = true) :
    (∃ lines, javaScript.read (playwright.scriptFor o m) = some lines ∧
      ∃ line ∈ lines, behindBlanks line = Playwright.urlPattern (a.expected.getD "")) ∧
    (∃ lines, python.read (pytest.scriptFor o m) = some lines ∧
      ∃ line ∈ lines, behindBlanks line = Pytest.urlPattern (a.expected.getD "")) ∧
    (∃ lines, javaScript.read (cypress.scriptFor o m) = some lines ∧
      ∃ line ∈ lines, behindBlanks line = Cypress.urlPart (a.expected.getD "")) ∧
    (∀ root actions page, a ∈ Form.expectations root actions page →
      ∃ form ∈ formsWithAction root, a.expected = form.tag.attr? "action") ∧
    ∀ F ∈ [Flavour.javaScript, .python],
      (isSpelledOut (a.expected.getD "").toList = true → ∃ r, Reads .choice (a.expected.getD "").toList r) ∧
      ∀ r, Reads .choice (a.expected.getD "").toList r →
        ((∀ url : String, r.FoundIn F url.toList ↔ (a.expected.getD "").toList <:+: url.toList) ↔
          (a.expected.getD "").toList.all (!isMeta ·) = true) := by
  refine ⟨playwright_check ha hpart, pytest_check ha hpart, cypress_check ha hpart,
    fun _ _ _ hexpected => redirect_expected hexpected hpart, fun F _ => ⟨?_, fun r hreads => ?_⟩⟩
  · exact fun hspelled => ⟨_, reads_spelledOut hspelled⟩
  rw [← hreads.finds_itself_iff (F := F)]
  constructor
  · intro hfinds text
    simpa using hfinds (String.ofList text)
  · intro hfinds url
    exact hfinds url.toList

/-- That a form leads to an address. -/
def leadsTo (target : String) : Assertion := { kind := .redirect, expected := some target }

/-- Options that ask for this. -/
def leadingTo (target : String) : Options := { includeAssertions := true, assertions := [leadsTo target] }

/-- An address without a query is found where it stands. -/
theorem address_found : leadsTo "/done" ∈ writtenAssertions (leadingTo "/done") (.actions []) ∧
    ∃ r, Reads .choice "/done".toList r ∧
      ∀ url : String, r.FoundIn .javaScript url.toList ↔ "/done".toList <:+: url.toList := by
  have ha : leadsTo "/done" ∈ writtenAssertions (leadingTo "/done") (.actions []) := by decide +kernel
  obtain ⟨-, -, -, -, hflavours⟩ := url_patterns_unescaped (leadingTo "/done") (.actions []) (leadsTo "/done") ha rfl
  obtain ⟨hspelled, hfinds⟩ := hflavours .javaScript (by simp)
  obtain ⟨r, hreads⟩ := hspelled (by decide +kernel)
  exact ⟨ha, r, hreads, (hfinds r hreads).2 (by decide +kernel)⟩

/-- **An address with a query is not found in itself**, but in an address that it does not stand in: its question mark
makes the letter before it optional. -/
theorem query_not_found : (∃ lines,
      javaScript.read (playwright.scriptFor (leadingTo "/done?x=1") (.actions [])) = some lines ∧
        ∃ line ∈ lines, behindBlanks line = Playwright.urlPattern "/done?x=1") ∧
    (∃ lines, python.read (pytest.scriptFor (leadingTo "/done?x=1") (.actions [])) = some lines ∧
        ∃ line ∈ lines, behindBlanks line = Pytest.urlPattern "/done?x=1") ∧
    ∃ r, Reads .choice "/done?x=1".toList r ∧ ∀ F, ¬ r.FoundIn F "https://shop.test/done?x=1".toList ∧
      r.FoundIn F "https://shop.test/donx=1".toList := by
  have ha : leadsTo "/done?x=1" ∈ writtenAssertions (leadingTo "/done?x=1") (.actions []) := by decide +kernel
  refine ⟨playwright_check ha rfl, pytest_check ha rfl, ?_⟩
  obtain ⟨r, hreads, hfound⟩ := reads_option (t := "/don".toList) (c := 'e') (u := "x=1".toList) (by decide +kernel)
    (by decide +kernel) (by decide +kernel)
  exact ⟨r, hreads, fun F => ⟨fun h => absurd ((hfound F _).1 h) (by decide +kernel), (hfound F _).2 (by decide +kernel)⟩⟩

end PageTape.Script
