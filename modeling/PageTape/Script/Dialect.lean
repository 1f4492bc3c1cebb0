import PageTape.Recording.Basic
import PageTape.Script.Line
import PageTape.Text.Names

/-!
A dialect is the way one test framework writes things down: the statement for each kind of
interaction, wait and assertion, and the frame of a whole file.
-/

namespace PageTape.Script

/-- What is done to an element. -/
inductive Gesture where
  | fill | select | check | uncheck | radio | click | submit | clear | hover
  deriving DecidableEq, Repr, Inhabited

/-- The gesture of an action. -/
def ActionKind.gesture : ActionKind → Gesture
  | .fill => .fill
  | .select => .select
  | .check => .check
  | .uncheck => .uncheck
  | .radio => .radio
  | .click => .click
  | .submit => .submit
  | .clear => .clear

/-- What a wait waits for. -/
inductive Wait where
  | visible (selector : String) (timeout : Int)
  | hidden (selector : String) (timeout : Int)
  | url (url : String)
  | networkIdle
  deriving DecidableEq, Repr, Inhabited

/-- The parts of a test file. -/
structure Parts where
  body : List Line
  negative : Option (List Line)
  actions : List Action
  options : Options
  fromRecording : Bool

/-- A test framework's way of writing. -/
structure Dialect where
  name : String
  title : String
  spelling : Spelling
  margin : String
  labelGap : String
  navigate : String → List Piece
  interact : Gesture → String → String → List Piece
  pressKey : String → String → List Piece
  wait : Wait → List (List Piece)
  scroll : Int → Int → List Piece
  pause : Int → List (List Piece)
  requiredCheck : String → List Piece
  assertion : Assertion → List (List Piece)
  file : Parts → List Line

/-- The name of the test that leaves required fields empty. -/
def negativeTestName : String := "should show validation errors for empty required fields"

/-- The selector of a toast that has none of its own. -/
def defaultToast : String := "[role='alert']"

/-- The selector that is written for an action or a step: the best alternative if those are used
and there is one, else the plain selector. -/
def writtenSelector (plain : Option String) (alternatives : Option (List SmartSelector))
    (useAlternatives : Bool) : String :=
  let selector := plain.getD ""
  if useAlternatives then pickSelector alternatives selector else selector

/-- The selector written for an action. -/
def actionSelector (o : Options) (a : Action) : String :=
  writtenSelector (some a.selector) a.smartSelectors o.useSmartSelectors

/-- The selector written for a step. -/
def stepSelector (o : Options) (s : Step) : String :=
  writtenSelector s.selector s.smartSelectors o.useSmartSelectors

/-- The seconds of a time in milliseconds, a half rounded up. -/
def seconds (ms : Int) : Int := roundHalfUp (quotient ms 1000)

/-- What a remark says about a response: a description, its URL and its status. -/
def describeResponse (a : Assertion) : String × String × String :=
  let url := a.selector.getD ""
  let status := Text.printable (orText a.expected "200")
  (Text.printable (orText a.description (url ++ " → " ++ status)), url, status)

/-- The part of a URL after its last slash. -/
def lastSegment (url : String) : String :=
  String.ofList (url.toList.reverse.takeWhile (· != '/')).reverse

/-- A remark line of a test body. -/
def Dialect.remark (d : Dialect) (text : String) : Line :=
  { margin := d.margin, pieces := [.remark, .code " ", .prose text] }

/-- Statements as lines of a test body. -/
def Dialect.indented (d : Dialect) (statements : List (List Piece)) : List Line :=
  statements.map fun ps => { margin := d.margin, pieces := ps }

/-- Statements as lines, the last one with a label in a remark. -/
def Dialect.labelled (d : Dialect) (statements : List (List Piece)) (label : Option String) :
    List Line :=
  match nonempty? label, statements.reverse with
  | some text, last :: before =>
    d.indented (before.reverse ++ [last ++ [.code d.labelGap, .remark, .code " ", .prose text]])
  | _, _ => d.indented statements

end PageTape.Script
