import PageTape.Proofs.Script.Words
import PageTape.Script.Pytest

/-!
# The voice of Playwright for Python
-/

namespace PageTape.Script

lemma python_ints : python.HasInts := rfl

lemma python_names : python.HasNames := by
  unfold Language.HasNames
  decide

/-- The voice of Playwright for Python.  The name of a test is no literal there, and a scroll is one. -/
def pytestVoice : Voice where
  dialect := pytest
  language := python
  own := ["visible", "hidden", "networkidle", "required", ""]
  valued g := g == .fill || g == .select
  keys key _ := [key]
  scrolls x y := [s!"window.scrollTo({x}, {y})"]
  titles _ := []
  objects _ _ := []

namespace Pytest

open Voice (describeResponse_printable)

variable {selector : String} {call : List Piece}

/-- A statement on a locator is program text again behind the selector. -/
lemma call_onLocator (hcall : ∀ o, fits python o call = true) (hbare : call.all Piece.isBare = true) :
    isCall python (onLocator selector call) = true := call_quote rfl (fits_text rfl hcall) hbare

lemma call_expectLocator (hcall : ∀ o, fits python o call = true) (hbare : call.all Piece.isBare = true) :
    isCall python (expectLocator selector call) = true := call_quote rfl (fits_text rfl hcall) hbare

lemma speaks_interact (g : Gesture) (selector value : String) :
    pytestVoice.Speaks (pytestVoice.gestureTexts g selector value) [interact g selector value] := by
  cases g with
  | fill | select =>
    exact .one (call_onLocator (fun _ => fits_quote rfl rfl (fits_end rfl)) rfl) (.text rfl (.text rfl .nil))
  | check | uncheck | radio | clear | hover | click | submit =>
    exact .one (call_onLocator (fun _ => fits_end rfl) rfl) (.text rfl .nil)

lemma call_waitFor (selector state : String) (timeout : Int) :
    isCall python (onLocator selector (waitFor state timeout)) = true := by
  have htimeout : fits python false [.code s!", timeout={timeout})"] = true :=
    fits_int python_ints rfl rfl
  exact call_onLocator (fun _ => fits_quote rfl rfl htimeout) rfl

lemma speaks_wait (w : Wait) : pytestVoice.Speaks (waitTexts w) (wait w) := by
  cases w with
  | visible selector timeout => exact .one (call_waitFor selector "visible" timeout) (.text rfl (.own (by decide) .nil))
  | hidden selector timeout => exact .one (call_waitFor selector "hidden" timeout) (.text rfl (.own (by decide) .nil))
  | url url => exact .one (call_quote rfl (fits_end rfl) rfl) (.text rfl .nil)
  | networkIdle => exact .one (call_quote rfl (fits_end rfl) rfl) (.own (by decide) .nil)

lemma speaks_navigate (url : String) : pytestVoice.Speaks [url] [pytest.navigate url] :=
  .one (call_quote rfl (fits_end rfl) rfl) (.text rfl .nil)

lemma speaks_pressKey (key selector : String) : pytestVoice.Speaks [key] [pytest.pressKey key selector] :=
  .one (call_quote rfl (fits_end rfl) rfl) (.text rfl .nil)

lemma speaks_scroll (x y : Int) : pytestVoice.Speaks [s!"window.scrollTo({x}, {y})"] [pytest.scroll x y] :=
  .one (call_quote rfl (fits_end rfl) rfl) (.text rfl .nil)

lemma speaks_requiredCheck (selector : String) : pytestVoice.Speaks [selector] [pytest.requiredCheck selector] :=
  .one (call_expectLocator (fun _ => fits_quote rfl rfl (fits_quote rfl rfl (fits_end rfl))) rfl)
    (.text rfl (.own (by decide) (.own (by decide) .nil)))

lemma hasMargin : pytestVoice.HasMargin := ⟨rfl, rfl⟩

lemma says_pause (delta : Int) : pytestVoice.Says [] [] (pytest.indented (pytest.pause delta)) :=
  hasMargin.says_paused rfl python_ints rfl rfl rfl rfl rfl delta

/-- Of a response the remarks tell the description and the status. -/
lemma says_response (a : Assertion) :
    pytestVoice.Says [] [(describeResponse a).1, (describeResponse a).2.2] (pytest.indented [
      [.remark, .code " HTTP response assertion: ", .prose (describeResponse a).1],
      [.remark, .code " To assert strictly, wrap the submit action:"],
      [.remark, .code "   with page.expect_response(lambda r: ", .literal (lastSegment (describeResponse a).2.1),
        .code " in r.url) as info:"],
      [.remark, .code "       ..."],
      [.remark, .code "   assert info.value.status == ", .prose (describeResponse a).2.2]]) := by
  obtain ⟨hdescription, hstatus⟩ := describeResponse_printable a
  exact (hasMargin.says_told hdescription rfl (by decide)).cons ((hasMargin.says_own rfl (flat_text rfl rfl)).cons
    ((hasMargin.says_own rfl (flat_text rfl rfl)).cons ((hasMargin.says_own rfl (flat_text rfl rfl)).cons
      (hasMargin.says_told hstatus rfl (by decide)))))

lemma says_assertion (a : Assertion) :
    pytestVoice.Says (assertionTexts a) (assertionRemarks a) (pytest.indented (assertion a)) := by
  unfold assertionTexts assertionRemarks assertion
  cases a.kind with
  | urlChanged | urlContains | redirect =>
    exact hasMargin.says_call (call_quote rfl (fits_end rfl) rfl) (.text rfl .nil)
  | visibleText =>
    dsimp only
    cases nonempty? a.expected with
    | none => exact hasMargin.says_own rfl (flat_text rfl rfl)
    | some text => exact hasMargin.says_call (call_quote rfl (fits_end rfl) rfl) (.text rfl .nil)
  | elementVisible | fieldError | elementHidden | toastMessage =>
    exact hasMargin.says_call (call_expectLocator (fun _ => fits_end rfl) rfl) (.text rfl .nil)
  | fieldValue =>
    exact hasMargin.says_call (call_expectLocator (fun _ => fits_quote rfl rfl (fits_end rfl)) rfl)
      (.text rfl (.text rfl .nil))
  | responseOk => exact says_response a

variable {texts texts' told told' : List String} {body : List Line}

lemma functionName_all (name : String) : (functionName name).toList.all Text.isSnakeChar = true := by
  rw [functionName, String.toList_append, List.all_append, Bool.and_eq_true]
  exact ⟨by decide, orText_all (snakeCase_all name) (by decide)⟩

/-- A test says what its body says, and its remarks tell the description first. -/
lemma says_test (name : String) (description : Option String) (h : pytestVoice.Says texts told body) :
    pytestVoice.Says texts (labelRemarks description ++ told) (test name description body) := by
  have hname : (functionName name).toList.all python.isPlain = true := isPlain_name python_names (functionName_all name)
  have hdef : pytestVoice.Says [] [] [.ofCode s!"def {functionName name}(page: Page) -> None:"] :=
    .outer (fits_code (isPlain_between rfl hname rfl)) (isUpright_between rfl) .nil .nil
  have hpass : pytestVoice.Says [] [] (if body.any Line.isStatement then [] else
      [{ margin := "    ", pieces := [.code "pass"] }]) := by
    split
    · exact .nil
    · exact hasMargin.says_call (call_text rfl rfl) .nil
  have hhead := ((Voice.Says.blank.cons .blank).append (Voice.says_description rfl description)).append hdef
  have hall := (hhead.append h).append hpass
  simp only [List.append_nil, List.nil_append] at hall
  exact hall

lemma says_file (p : Parts) (h : pytestVoice.Says texts told p.body)
    (h' : match p.negative with
      | some body => pytestVoice.Says texts' told' body
      | none => texts' = [] ∧ told' = []) :
    pytestVoice.Says ([] ++ texts ++ texts' ++ []) (labelRemarks p.options.testDescription ++ told ++ told') (file p) := by
  have himports : pytestVoice.Says [] [] [.ofCode "import re", .blank,
      .ofCode "from playwright.sync_api import Page, expect"] :=
    ((Voice.Says.nil.text rfl rfl).skip).text rfl rfl
  have hnegative := Voice.says_optional (test negativeTestName none)
    (fun body hbody => says_test negativeTestName none hbody) h'
  have hall := (himports.append (says_test p.options.testName p.options.testDescription h)).append hnegative
  simp only [List.append_nil, List.nil_append] at hall ⊢
  exact hall

end Pytest

lemma pytestVoice_sound : pytestVoice.Sound where
  suits := python_suits
  opening := rfl
  margin := Pytest.hasMargin
  gap := rfl
  mark := by decide
  blank := by decide
  assert := rfl
  navigate := Pytest.speaks_navigate
  interact := Pytest.speaks_interact
  pressKey := Pytest.speaks_pressKey
  wait := Pytest.speaks_wait
  scroll := Pytest.speaks_scroll
  pause := Pytest.says_pause
  requiredCheck := Pytest.speaks_requiredCheck
  assertion := Pytest.says_assertion
  file p _ _ _ _ h h' := ⟨_, rfl, Pytest.says_file p h h'⟩

end PageTape.Script
