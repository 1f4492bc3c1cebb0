import PageTape.Script.Dialect

/-!
Playwright tests for Python: one function a test, named after the test.
-/

namespace PageTape.Script.Pytest

/-- The name of a test function. -/
def functionName (name : String) : String :=
  "test_" ++ orText (some (Text.snakeCase name)) "recorded_flow"

/-- A statement on the locator of a selector. -/
def onLocator (selector : String) (call : List Piece) : List Piece :=
  [.code "page.locator(", .literal selector, .code ")"] ++ call

/-- An expectation on the locator of a selector. -/
def expectLocator (selector : String) (call : List Piece) : List Piece :=
  [.code "expect(page.locator(", .literal selector, .code "))"] ++ call

/-- The statement of a gesture. -/
def interact (g : Gesture) (selector value : String) : List Piece :=
  onLocator selector <| match g with
    | .fill => [.code ".fill(", .literal value, .code ")"]
    | .select => [.code ".select_option(", .literal value, .code ")"]
    | .check => [.code ".check()"]
    | .radio => [.code ".check()"]
    | .uncheck => [.code ".uncheck()"]
    | .clear => [.code ".clear()"]
    | .hover => [.code ".hover()"]
    | .click => [.code ".click()"]
    | .submit => [.code ".click()"]

/-- The call that waits for a state of an element. -/
def waitFor (state : String) (timeout : Int) : List Piece :=
  [.code ".wait_for(state=", .literal state, .code s!", timeout={timeout})"]

/-- The statements of a wait. -/
def wait : Wait → List (List Piece)
  | .visible selector timeout => [onLocator selector (waitFor "visible" timeout)]
  | .hidden selector timeout => [onLocator selector (waitFor "hidden" timeout)]
  | .url url => [[.code "page.wait_for_url(", .literal url, .code ")"]]
  | .networkIdle => [[.code "page.wait_for_load_state(", .literal "networkidle", .code ")"]]

/-- The statements of an assertion. -/
def assertion (a : Assertion) : List (List Piece) :=
  let selector := a.selector.getD ""
  let expected := a.expected.getD ""
  match a.kind with
  | .urlChanged => [[.code "expect(page).not_to_have_url(", .literal expected, .code ")"]]
  | .urlContains | .redirect =>
    [[.code "expect(page).to_have_url(re.compile(", .literal expected, .code "))"]]
  | .visibleText => match nonempty? a.expected with
    | none => [[.remark, .code " Expect visible validation feedback"]]
    | some text =>
      [[.code "expect(page.get_by_text(", .literal text, .code ")).to_be_visible()"]]
  | .elementHidden => [expectLocator selector [.code ".to_be_hidden()"]]
  | .toastMessage => [expectLocator (orText a.selector defaultToast) [.code ".to_be_visible()"]]
  | .fieldValue =>
    [expectLocator selector [.code ".to_have_value(", .literal expected, .code ")"]]
  | .responseOk =>
    let (description, url, status) := describeResponse a
    [[.remark, .code " HTTP response assertion: ", .prose description],
      [.remark, .code " To assert strictly, wrap the submit action:"],
      [.remark, .code "   with page.expect_response(lambda r: ", .literal (lastSegment url),
        .code " in r.url) as info:"],
      [.remark, .code "       ..."],
      [.remark, .code "   assert info.value.status == ", .prose status]]
  | .elementVisible | .fieldError => [expectLocator selector [.code ".to_be_visible()"]]

/-- A test function; a body without a statement is filled up with `pass`. -/
def test (name : String) (description : Option String) (body : List Line) : List Line :=
  [.blank, .blank]
  ++ (match nonempty? description with
    | some text => [{ pieces := [.remark, .code " ", .prose text] }]
    | none => [])
  ++ [.ofCode s!"def {functionName name}(page: Page) -> None:"]
  ++ body
  ++ (if body.any Line.isStatement then [] else [{ margin := "    ", pieces := [.code "pass"] }])

/-- The lines of a file. -/
def file (p : Parts) : List Line :=
  [.ofCode "import re", .blank, .ofCode "from playwright.sync_api import Page, expect"]
  ++ test p.options.testName p.options.testDescription p.body
  ++ (match p.negative with
    | some body => test negativeTestName none body
    | none => [])

end Pytest

/-- The dialect of Playwright for Python. -/
def pytest : Dialect where
  name := "playwright-python"
  title := "Playwright (Python)"
  spelling := { escape := lineEscape, mark := "#" }
  margin := "    "
  labelGap := "  "
  navigate url := [.code "page.goto(", .literal url, .code ")"]
  interact := Pytest.interact
  pressKey key _ := [.code "page.keyboard.press(", .literal key, .code ")"]
  wait := Pytest.wait
  scroll x y :=
    [.code "page.evaluate(", .literal s!"window.scrollTo({x}, {y})", .code ")"]
  pause delta := [[.remark, .code s!" User paused for ~{seconds delta}s"],
    [.code s!"page.wait_for_timeout({delta})"]]
  requiredCheck selector := Pytest.expectLocator selector
    [.code ".to_have_attribute(", .literal "required", .code ", ", .literal "", .code ")"]
  assertion := Pytest.assertion
  file := Pytest.file

end PageTape.Script
