import PageTape.Script.Dialect

/-!
Cypress tests: one `describe` block with a test in it.
-/

namespace PageTape.Script.Cypress

/-- A chain on the element of a selector. -/
def onElement (selector : String) (call : List Piece) : List Piece :=
  [.code "cy.get(", .literal selector, .code ")"] ++ call

/-- A `should` with a single chainer. -/
def should (chainer : String) : List Piece := [.code ".should(", .literal chainer, .code ");"]

/-- A `should` with a chainer and an expected text. -/
def shouldBe (chainer expected : String) : List Piece :=
  [.code ".should(", .literal chainer, .code ", ", .literal expected, .code ");"]

/-- The statement of a gesture. -/
def interact (g : Gesture) (selector value : String) : List Piece :=
  onElement selector <| match g with
    | .fill => [.code ".clear().type(", .literal value, .code ");"]
    | .select => [.code ".select(", .literal value, .code ");"]
    | .check => [.code ".check();"]
    | .radio => [.code ".check();"]
    | .uncheck => [.code ".uncheck();"]
    | .clear => [.code ".clear();"]
    | .hover => [.code ".trigger(", .literal "mouseover", .code ");"]
    | .click => [.code ".click();"]
    | .submit => [.code ".click();"]

/-- The statement that waits for an element. -/
def waitFor (selector : String) (timeout : Int) (chainer : String) : List Piece :=
  [.code "cy.get(", .literal selector, .code s!", \x7b timeout: {timeout} \x7d)"] ++ should chainer

/-- The statements of a wait. -/
def wait : Wait → List (List Piece)
  | .visible selector timeout => [waitFor selector timeout "be.visible"]
  | .hidden selector timeout => [waitFor selector timeout "not.exist"]
  | .url url => [[.code "cy.url()"] ++ shouldBe "include" url]
  | .networkIdle => [
      [.code "cy.intercept(", .literal "**", .code ").as(", .literal "requests", .code ");"],
      [.code "cy.wait(", .literal "@requests", .code ");"]]

/-- The statements of an assertion. -/
def assertion (a : Assertion) : List (List Piece) :=
  let selector := a.selector.getD ""
  let expected := a.expected.getD ""
  match a.kind with
  | .urlChanged => [[.code "cy.url()"] ++ shouldBe "not.eq" expected]
  | .urlContains | .redirect => [[.code "cy.url()"] ++ shouldBe "include" expected]
  | .visibleText => match nonempty? a.expected with
    | none => [[.remark, .code " Expect visible validation feedback"]]
    | some text => [[.code "cy.contains(", .literal text, .code ")"] ++ should "be.visible"]
  | .elementHidden => [onElement selector (should "not.be.visible")]
  | .toastMessage => [onElement (orText a.selector defaultToast) (should "be.visible")]
  | .fieldValue => [onElement selector (shouldBe "have.value" expected)]
  | .responseOk =>
    let (description, url, status) := describeResponse a
    [[.remark, .code " HTTP response assertion: ", .prose description],
      [.remark, .code " To assert strictly, add before the submit action:"],
      [.remark, .code "   cy.intercept(", .literal "*", .code ", ",
        .literal ("*" ++ lastSegment url ++ "*"), .code ").as(", .literal "apiRequest",
        .code ");"],
      [.remark, .code "   cy.wait(", .literal "@apiRequest", .code ").its(",
        .literal "response.statusCode", .code ").should(", .literal "eq", .code ", ",
        .prose status, .code ");"]]
  | .elementVisible | .fieldError => [onElement selector (should "be.visible")]

/-- A test around its body. -/
def test (name : String) (body : List Line) : List Line :=
  [{ pieces := [.code "  it(", .literal name, .code ", () => \x7b"] }] ++ body
    ++ [.ofCode "  \x7d);"]

/-- The lines of a file. -/
def file (p : Parts) : List Line :=
  (match nonempty? p.options.testDescription with
    | some text => [{ pieces := [.remark, .code " ", .prose text] }]
    | none => [])
  ++ [{ pieces := [.code "describe(", .literal p.options.testName, .code ", () => \x7b"] }]
  ++ test (if p.fromRecording then "should complete recorded flow" else "should fill all fields")
    p.body
  ++ (match p.negative with
    | some body => .blank :: test negativeTestName body
    | none => [])
  ++ [.ofCode "\x7d);"]

end Cypress

/-- The Cypress dialect. -/
def cypress : Dialect where
  name := "cypress"
  title := "Cypress"
  spelling := { escape := lineEscape, mark := "//" }
  margin := "    "
  labelGap := "  "
  navigate url := [.code "cy.visit(", .literal url, .code ");"]
  interact := Cypress.interact
  pressKey key _ := [.code "cy.get(", .literal "body", .code ").type(", .key key, .code ");"]
  wait := Cypress.wait
  scroll x y := [.code s!"cy.scrollTo({x}, {y});"]
  pause delta := [[.remark, .code s!" User paused for ~{seconds delta}s"],
    [.code s!"cy.wait({delta});"]]
  requiredCheck selector := Cypress.onElement selector (Cypress.shouldBe "have.attr" "required")
  assertion := Cypress.assertion
  file := Cypress.file

end PageTape.Script
