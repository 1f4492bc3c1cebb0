import PageTape.Proofs.Script.Words
import PageTape.Proofs.Script.Voice.Playwright
import PageTape.Script.Cypress

/-!
# The voice of Cypress
-/

namespace PageTape.Script

/-- The voice of Cypress.  A key is pressed on the body of the page. -/
def cypressVoice : Voice where
  dialect := cypress
  language := javaScript
  own := ["mouseover", "be.visible", "not.exist", "include", "**", "requests", "@requests", "not.eq", "not.be.visible",
    "have.value", "have.attr", "required", "body", "should complete recorded flow", "should fill all fields",
    negativeTestName]
  valued g := g == .fill || g == .select
  keys key _ := [cypress.spelling.keyText key]
  scrolls _ _ := []
  titles name := [name]
  objects _ _ := []

namespace Cypress

open Voice (call_iff describeResponse_printable)

variable {selector chainer expected : String} {call : List Piece}

/-- A statement on an element is program text again behind the selector. -/
lemma call_onElement (hcall : ∀ o, fits javaScript o call = true) (hbare : call.all Piece.isBare = true) :
    isCall javaScript (onElement selector call) = true := call_quote rfl (fits_text rfl hcall) hbare

lemma fits_should (o : Bool) : fits javaScript o (should chainer) = true := fits_quote rfl rfl (fits_end rfl)

lemma fits_shouldBe (o : Bool) : fits javaScript o (shouldBe chainer expected) = true :=
  fits_quote rfl rfl (fits_quote rfl rfl (fits_end rfl))

/-- What should hold of the address of the page. -/
lemma call_url : isCall javaScript ([.code "cy.url()"] ++ shouldBe chainer expected) = true :=
  call_iff.2 ⟨fits_text rfl fits_shouldBe, rfl, List.cons_ne_nil _ _, rfl⟩

lemma speaks_interact (g : Gesture) (selector value : String) :
    cypressVoice.Speaks (cypressVoice.gestureTexts g selector value) [interact g selector value] := by
  cases g with
  | fill | select =>
    exact .one (call_onElement (fun _ => fits_quote rfl rfl (fits_end rfl)) rfl) (.text rfl (.text rfl .nil))
  | hover => exact .one (call_onElement (fun _ => fits_quote rfl rfl (fits_end rfl)) rfl) (.text rfl (.own (by decide) .nil))
  | check | uncheck | radio | clear | click | submit =>
    exact .one (call_onElement (fun _ => fits_end rfl) rfl) (.text rfl .nil)

lemma call_waitFor (selector chainer : String) (timeout : Int) :
    isCall javaScript (waitFor selector timeout chainer) = true := by
  have htimeout : fits javaScript false (.code s!", \x7b timeout: {timeout} \x7d)" :: should chainer) =
      fits javaScript false (.code " \x7d)" :: should chainer) :=
    fits_between rfl (isPlain_int javaScript_ints) (by decide)
  exact call_quote rfl (htimeout.trans (fits_text rfl fits_should)) rfl

lemma speaks_wait (w : Wait) : cypressVoice.Speaks (waitTexts w) (wait w) := by
  cases w with
  | visible selector timeout =>
    exact .one (call_waitFor selector "be.visible" timeout) (.text rfl (.own (by decide) .nil))
  | hidden selector timeout => exact .one (call_waitFor selector "not.exist" timeout) (.text rfl (.own (by decide) .nil))
  | url url => exact .one call_url (.own (by decide) (.text rfl .nil))
  | networkIdle =>
    refine ⟨List.cons_ne_nil _ _, ?_, .own (by decide) (.own (by decide) (.own (by decide) .nil))⟩
    intro ps hps
    rcases List.mem_cons.1 hps with rfl | hps
    · exact call_quote rfl (fits_quote rfl rfl (fits_end rfl)) rfl
    · obtain rfl := List.mem_singleton.1 hps
      exact call_quote rfl (fits_end rfl) rfl

lemma speaks_navigate (url : String) : cypressVoice.Speaks [url] [cypress.navigate url] :=
  .one (call_quote rfl (fits_end rfl) rfl) (.text rfl .nil)

lemma speaks_pressKey (key selector : String) :
    cypressVoice.Speaks [cypress.spelling.keyText key] [cypress.pressKey key selector] :=
  .one rfl (.own (by decide) (.text rfl .nil))

lemma speaks_scroll (x y : Int) : cypressVoice.Speaks [] [cypress.scroll x y] :=
  .one (call_ints javaScript_ints rfl rfl rfl rfl x y) .nil

lemma speaks_requiredCheck (selector : String) : cypressVoice.Speaks [selector] [cypress.requiredCheck selector] :=
  .one (call_onElement fits_shouldBe rfl) (.text rfl (.own (by decide) (.own (by decide) .nil)))

lemma hasMargin : cypressVoice.HasMargin := ⟨rfl, rfl⟩

lemma says_pause (delta : Int) : cypressVoice.Says [] [] (cypress.indented (cypress.pause delta)) :=
  hasMargin.says_paused rfl javaScript_ints rfl rfl rfl rfl rfl delta

/-- Of a response the remarks tell the description and the status. -/
lemma says_response (a : Assertion) :
    cypressVoice.Says [] [(describeResponse a).1, (describeResponse a).2.2] (cypress.indented [
      [.remark, .code " HTTP response assertion: ", .prose (describeResponse a).1],
      [.remark, .code " To assert strictly, add before the submit action:"],
      [.remark, .code "   cy.intercept(", .literal "*", .code ", ",
        .literal ("*" ++ lastSegment (describeResponse a).2.1 ++ "*"), .code ").as(", .literal "apiRequest", .code ");"],
      [.remark, .code "   cy.wait(", .literal "@apiRequest", .code ").its(", .literal "response.statusCode",
        .code ").should(", .literal "eq", .code ", ", .prose (describeResponse a).2.2, .code ");"]]) := by
  obtain ⟨hdescription, hstatus⟩ := describeResponse_printable a
  have hend : cypressVoice.Says [] [(describeResponse a).2.2] (cypress.indented
      [[.remark, .code "   cy.wait(", .literal "@apiRequest", .code ").its(", .literal "response.statusCode",
        .code ").should(", .literal "eq", .code ", ", .prose (describeResponse a).2.2, .code ");"]]) := by
    refine hasMargin.says_line rfl rfl .nil (.text ⟨⟨(cypress.spelling.remarkText [.code "   cy.wait(",
      .literal "@apiRequest", .code ").its(", .literal "response.statusCode", .code ").should(", .literal "eq",
      .code ", "]).toList, ");".toList, ?_⟩, fun hclose => absurd hclose (not_closes rfl)⟩ .nil)
    simp [cypressVoice, Spelling.remarkText, Spelling.piece, hstatus]
  exact (hasMargin.says_told hdescription rfl (by decide)).cons ((hasMargin.says_own rfl (flat_text rfl rfl)).cons
    ((hasMargin.says_own rfl rfl).cons hend))

lemma says_assertion (a : Assertion) :
    cypressVoice.Says (assertionTexts a) (assertionRemarks a) (cypress.indented (assertion a)) := by
  unfold assertionTexts assertionRemarks assertion
  cases a.kind with
  | urlChanged | urlContains | redirect => exact hasMargin.says_call call_url (.own (by decide) (.text rfl .nil))
  | visibleText =>
    dsimp only
    cases nonempty? a.expected with
    | none => exact hasMargin.says_own rfl (flat_text rfl rfl)
    | some text =>
      exact hasMargin.says_call (call_quote rfl (fits_text rfl fits_should) rfl) (.text rfl (.own (by decide) .nil))
  | elementVisible | fieldError | elementHidden | toastMessage =>
    exact hasMargin.says_call (call_onElement fits_should rfl) (.text rfl (.own (by decide) .nil))
  | fieldValue =>
    exact hasMargin.says_call (call_onElement fits_shouldBe rfl) (.text rfl (.own (by decide) (.text rfl .nil)))
  | responseOk => exact says_response a

/-! ### Files -/

variable {texts texts' told told' : List String} {body : List Line}

/-- A test says what its body says. -/
lemma says_test {name : String} (hname : name ∈ cypressVoice.own) (h : cypressVoice.Says texts told body) :
    cypressVoice.Says texts told (test name body) := by
  have htitle : cypressVoice.Says [] [] [{ pieces := [.code "  it(", .literal name, .code ", () => \x7b"] }] :=
    .call (call_quote rfl (fits_end rfl) rfl) (.own hname .nil)
  have hend : cypressVoice.Says [] [] [.ofCode "  \x7d);"] := Voice.Says.nil.text rfl rfl
  have hall := (htitle.append h).append hend
  simp only [List.append_nil, List.nil_append] at hall
  exact hall

lemma says_file (p : Parts) (h : cypressVoice.Says texts told p.body)
    (h' : match p.negative with
      | some body => cypressVoice.Says texts' told' body
      | none => texts' = [] ∧ told' = []) :
    cypressVoice.Says ([p.options.testName] ++ texts ++ texts' ++ [])
      (labelRemarks p.options.testDescription ++ told ++ told') (file p) := by
  have htitle : cypressVoice.Says [p.options.testName] []
      [{ pieces := [.code "describe(", .literal p.options.testName, .code ", () => \x7b"] }] :=
    .call (call_quote rfl (fits_end rfl) rfl) (.text rfl .nil)
  have hname : (if p.fromRecording then "should complete recorded flow" else "should fill all fields") ∈
      cypressVoice.own := by
    split <;> decide
  have hnegative := Voice.says_optional (fun body => .blank :: test negativeTestName body)
    (fun body hbody => (says_test (by decide) hbody).skip) h'
  have hend : cypressVoice.Says [] [] [.ofCode "\x7d);"] := Voice.Says.nil.text rfl rfl
  have hall := ((((Voice.says_description rfl p.options.testDescription).append htitle).append (says_test hname h)).append
    hnegative).append hend
  simp only [List.append_nil, List.nil_append] at hall ⊢
  exact hall

end Cypress

lemma cypressVoice_sound : cypressVoice.Sound where
  suits := javaScript_suits
  opening := rfl
  margin := Cypress.hasMargin
  gap := rfl
  mark := by decide
  blank := by decide
  assert := rfl
  navigate := Cypress.speaks_navigate
  interact := Cypress.speaks_interact
  pressKey := Cypress.speaks_pressKey
  wait := Cypress.speaks_wait
  scroll := Cypress.speaks_scroll
  pause := Cypress.says_pause
  requiredCheck := Cypress.speaks_requiredCheck
  assertion := Cypress.says_assertion
  file p _ _ _ _ h h' := ⟨_, rfl, Cypress.says_file p h h'⟩

end PageTape.Script
