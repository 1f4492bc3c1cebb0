import PageTape.Script.Dialect

/-!
Pest tests for Laravel Dusk: one chain of calls on the browser, one call a line.  Its waits are in
whole seconds.
-/

namespace PageTape.Script.Pest

/-- A call with one text. -/
def call (name first : String) : List Piece := [.code s!"->{name}(", .literal first, .code ")"]

/-- A call with two texts. -/
def call₂ (name first second : String) : List Piece :=
  [.code s!"->{name}(", .literal first, .code ", ", .literal second, .code ")"]

/-- The call of a gesture. -/
def interact (g : Gesture) (selector value : String) : List Piece :=
  match g with
  | .fill => call₂ "type" selector value
  | .select => call₂ "select" selector value
  | .check => call "check" selector
  | .radio => call₂ "radio" selector value
  | .uncheck => call "uncheck" selector
  | .clear => call "clear" selector
  | .hover => call "mouseover" selector
  | .click => call "click" selector
  | .submit => call "click" selector

/-- A call that waits for an element some seconds. -/
def waitFor (name selector : String) (timeout : Int) : List Piece :=
  [.code s!"->{name}(", .literal selector, .code s!", {seconds timeout})"]

/-- The calls of a wait. -/
def wait : Wait → List (List Piece)
  | .visible selector timeout => [waitFor "waitFor" selector timeout]
  | .hidden selector timeout => [waitFor "waitUntilMissing" selector timeout]
  | .url url => [call "waitForLocation" url]
  | .networkIdle => [[.code "->pause(1000)"]]

/-- The calls of an assertion. -/
def assertion (a : Assertion) : List (List Piece) :=
  let selector := a.selector.getD ""
  let expected := a.expected.getD ""
  match a.kind with
  | .urlChanged => [call "assertUrlIsNot" expected]
  | .urlContains | .redirect => [call "assertPathContains" expected]
  | .visibleText => match nonempty? a.expected with
    | none => [[.remark, .code " Expect visible validation feedback"]]
    | some text => [call "assertSee" text]
  | .elementHidden => [call "assertMissing" selector]
  | .toastMessage => [call "assertVisible" (orText a.selector defaultToast)]
  | .fieldValue => [call₂ "assertInputValue" selector expected]
  | .responseOk =>
    let (description, _, status) := describeResponse a
    [[.remark, .code " HTTP response assertion: ", .prose description],
      [.remark, .code " $browser->assertStatus(", .prose status,
        .code "); // use after visiting the response URL directly"]]
  | .elementVisible | .fieldError => [call "assertVisible" selector]

/-- A test around its chain. -/
def test (name : String) (chain : List Line) : List Line :=
  [{ pieces := [.code "test(", .literal name, .code ", function () \x7b"] },
    .ofCode "    $this->browse(function (Browser $browser) \x7b", .ofCode "        $browser"]
  ++ chain
  ++ [.ofCode "        ;", .ofCode "    \x7d);", .ofCode "\x7d);"]

/-- The lines of a file. -/
def file (p : Parts) : List Line :=
  [.ofCode "<?php", .blank, .ofCode "use Laravel\\Dusk\\Browser;", .blank]
  ++ (match nonempty? p.options.testDescription with
    | some text => [{ pieces := [.remark, .code " ", .prose text] }]
    | none => [])
  ++ test p.options.testName p.body
  ++ (match p.negative with
    | some chain => .blank :: test negativeTestName chain
    | none => [])

end Pest

/-- The Pest dialect. -/
def pest : Dialect where
  name := "pest"
  title := "Pest (Laravel Dusk)"
  spelling := { escape := rawEscape, mark := "//" }
  margin := "            "
  labelGap := " "
  navigate := Pest.call "visit"
  interact := Pest.interact
  pressKey key selector :=
    [.code "->keys(", .literal (orText (some selector) "body"), .code ", ", .key key, .code ")"]
  wait := Pest.wait
  scroll x y := Pest.call "script" s!"window.scrollTo({x}, {y})"
  pause delta := [[.code s!"->pause({delta}) ", .remark,
    .code s!" User paused for ~{seconds delta}s"]]
  requiredCheck selector :=
    [.code "->assertAttribute(", .literal selector, .code ", ", .literal "required", .code ", ",
      .literal "", .code ")"]
  assertion := Pest.assertion
  file := Pest.file

end PageTape.Script
