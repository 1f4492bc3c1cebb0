import PageTape.Script.Dialect

/-!
Playwright tests, with a page object class on demand.
-/

namespace PageTape.Script.Playwright

/-- A statement on the locator of a selector. -/
def onLocator (selector : String) (call : List Piece) : List Piece :=
  [.code "await page.locator(", .literal selector, .code ")"] ++ call

/-- An expectation on the locator of a selector. -/
def expectLocator (selector : String) (call : List Piece) : List Piece :=
  [.code "await expect(page.locator(", .literal selector, .code "))"] ++ call

/-- The statement of a gesture. -/
def interact (g : Gesture) (selector value : String) : List Piece :=
  onLocator selector <| match g with
    | .fill => [.code ".fill(", .literal value, .code ");"]
    | .select => [.code ".selectOption(", .literal value, .code ");"]
    | .check => [.code ".check();"]
    | .radio => [.code ".check();"]
    | .uncheck => [.code ".uncheck();"]
    | .clear => [.code ".clear();"]
    | .hover => [.code ".hover();"]
    | .click => [.code ".click();"]
    | .submit => [.code ".click();"]

/-- The call that waits for a state of an element. -/
def waitFor (state : String) (timeout : Int) : List Piece :=
  [.code ".waitFor(\x7b state: ", .literal state, .code s!", timeout: {timeout} \x7d);"]

/-- The statements of a wait. -/
def wait : Wait → List (List Piece)
  | .visible selector timeout => [onLocator selector (waitFor "visible" timeout)]
  | .hidden selector timeout => [onLocator selector (waitFor "hidden" timeout)]
  | .url url => [[.code "await page.waitForURL(", .literal url, .code ");"]]
  | .networkIdle => [[.code "await page.waitForLoadState(", .literal "networkidle", .code ");"]]

/-- The statements of an assertion. -/
def assertion (a : Assertion) : List (List Piece) :=
  let selector := a.selector.getD ""
  let expected := a.expected.getD ""
  match a.kind with
  | .urlChanged => [[.code "await expect(page).not.toHaveURL(", .literal expected, .code ");"]]
  | .urlContains | .redirect =>
    [[.code "await expect(page).toHaveURL(new RegExp(", .literal expected, .code "));"]]
  | .visibleText => match nonempty? a.expected with
    | none => [[.remark, .code " Expect visible validation feedback"]]
    | some text =>
      [[.code "await expect(page.getByText(", .literal text, .code ")).toBeVisible();"]]
  | .elementHidden => [expectLocator selector [.code ".toBeHidden();"]]
  | .toastMessage => [expectLocator (orText a.selector defaultToast) [.code ".toBeVisible();"]]
  | .fieldValue =>
    [expectLocator selector [.code ".toHaveValue(", .literal expected, .code ");"]]
  | .responseOk =>
    let (description, url, status) := describeResponse a
    [[.remark, .code " HTTP response assertion: ", .prose description],
      [.remark, .code " To assert strictly, wrap the submit action:"],
      [.remark, .code "   const response = await page.waitForResponse((r) => r.url().includes(",
        .literal (lastSegment url), .code "));"],
      [.remark, .code "   expect(response.status()).toBe(", .prose status, .code ");"]]
  | .elementVisible | .fieldError => [expectLocator selector [.code ".toBeVisible();"]]

/-- The property of an action in the page object. -/
def property (a : Action) : String :=
  orText (some (Text.camelCase ((nonempty? a.label).getD (orText a.fieldType "field")))) "field"

/-- A getter of the page object. -/
def getter (name selector : String) : Line :=
  { pieces := [.code s!"  get {name}() \x7b return this.page.locator(", .literal selector,
      .code "); \x7d"] }

/-- The page object: a getter for every field and for the submit control, a method that fills the
form and one that submits it. -/
def pageObject (o : Options) (actions : List Action) : List Line :=
  let fields := actions.filter fun a => !a.kind.submits
  let fills := fields.filter fun a => a.kind == .fill
  let submit := actions.find? fun a => a.kind.submits
  let params := ", ".intercalate (fills.map fun a => property a ++ "Value: string")
  [{ pieces := [.code "import type \x7b Page \x7d from ", .literal "@playwright/test", .code ";"] },
    .blank, .ofCode "export class FormPage \x7b",
    .ofCode "  constructor(private readonly page: Page) \x7b\x7d", .blank]
  ++ fields.map (fun a => getter (property a) (actionSelector o a))
  ++ (match submit with
    | some a => [getter "submitButton" (actionSelector o a)]
    | none => [])
  ++ [.blank, .ofCode s!"  async fillForm({params}) \x7b"]
  ++ fills.map (fun a =>
    .ofCode s!"    await this.{property a}.fill({property a}Value);")
  ++ [.ofCode "  \x7d"]
  ++ (match submit with
    | some _ => [.blank, .ofCode "  async submit() \x7b",
        .ofCode "    await this.submitButton.click();", .ofCode "  \x7d"]
    | none => [])
  ++ [.ofCode "\x7d"]

/-- A test around its body. -/
def test (name : String) (body : List Line) : List Line :=
  [{ pieces := [.code "test(", .literal name, .code ", async (\x7b page \x7d) => \x7b"] }]
    ++ body ++ [.ofCode "\x7d);"]

/-- The lines of a file. -/
def file (p : Parts) : List Line :=
  [{ pieces := [.code "import \x7b test, expect \x7d from ", .literal "@playwright/test",
      .code ";"] }, .blank]
  ++ (match nonempty? p.options.testDescription with
    | some text => [{ pieces := [.remark, .code " ", .prose text] }]
    | none => [])
  ++ test p.options.testName p.body
  ++ (match p.negative with
    | some body => .blank :: test negativeTestName body
    | none => [])
  ++ (if p.options.includePageObject then
      [.blank, { pieces := [.remark, .code " --- Page Object Model ---"] }]
        ++ pageObject p.options p.actions
    else [])

end Playwright

/-- The Playwright dialect. -/
def playwright : Dialect where
  name := "playwright"
  title := "Playwright"
  spelling := { escape := lineEscape, mark := "//" }
  margin := "  "
  labelGap := "  "
  navigate url := [.code "await page.goto(", .literal url, .code ");"]
  interact := Playwright.interact
  pressKey key _ := [.code "await page.keyboard.press(", .literal key, .code ");"]
  wait := Playwright.wait
  scroll x y := [.code s!"await page.evaluate(() => window.scrollTo({x}, {y}));"]
  pause delta := [[.remark, .code s!" User paused for ~{seconds delta}s"],
    [.code s!"await page.waitForTimeout({delta});"]]
  requiredCheck selector := Playwright.expectLocator selector
    [.code ".toHaveAttribute(", .literal "required", .code ", ", .literal "", .code ");"]
  assertion := Playwright.assertion
  file := Playwright.file

end PageTape.Script
