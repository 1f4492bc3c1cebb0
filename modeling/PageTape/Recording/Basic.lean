/-!
What is recorded: steps with the selectors of their elements, the session they belong to, the
responses seen meanwhile; and the actions on form fields that a script can be written from without
a recording.
-/

namespace PageTape

/-- Where an alternative selector takes its value from, most stable first. -/
inductive SelectorStrategy where
  | testId | ariaLabel | role | name | id | placeholder | css
  deriving DecidableEq, Repr, Inhabited

/-- A selector for an element beside its plain one. -/
structure SmartSelector where
  strategy : SelectorStrategy
  value : String
  description : Option String := none
  deriving DecidableEq, Repr, Inhabited

/-- A scroll position in pixels. -/
structure ScrollPosition where
  x : Int := 0
  y : Int := 0
  deriving DecidableEq, Repr, Inhabited

/-- What an assertion expects of the page. -/
inductive AssertionKind where
  | urlChanged | urlContains | visibleText | elementVisible | elementHidden | toastMessage
  | fieldValue | fieldError | redirect | responseOk
  deriving DecidableEq, Repr, Inhabited

/-- An expectation that a script checks.  For a response the selector is the URL of the request and
the expected text its status. -/
structure Assertion where
  kind : AssertionKind
  selector : Option String := none
  expected : Option String := none
  description : Option String := none
  deriving DecidableEq, Repr, Inhabited

/-- What a recorded step does. -/
inductive StepKind where
  | navigate | fill | select | check | uncheck | click | submit | pressKey | hover | clear
  | scroll | assert | waitForElement | waitForHidden | waitForUrl | waitForNetworkIdle
  deriving DecidableEq, Repr, Inhabited

/-- A recorded step.  Which of the optional parts are used follows from its kind. -/
structure Step where
  kind : StepKind
  timestamp : Int
  selector : Option String := none
  smartSelectors : Option (List SmartSelector) := none
  value : Option String := none
  label : Option String := none
  url : Option String := none
  key : Option String := none
  waitTimeout : Option Int := none
  scrollPosition : Option ScrollPosition := none
  assertion : Option Assertion := none
  fieldType : Option String := none
  required : Option Bool := none
  deriving DecidableEq, Repr, Inhabited

/-- The state of a recording. -/
inductive Status where
  | idle | recording | paused | stopped
  deriving DecidableEq, Repr, Inhabited

/-- One recording: where and when it began, and its steps in order. -/
structure Session where
  status : Status := .recording
  startUrl : String := ""
  startTime : Int := 0
  steps : List Step := []
  deriving DecidableEq, Repr, Inhabited

/-- A response seen while recording; a request that failed has status 0. -/
structure Response where
  url : String
  method : String
  status : Int
  timestamp : Int
  deriving DecidableEq, Repr, Inhabited

/-- What an action does to a form control. -/
inductive ActionKind where
  | fill | select | check | uncheck | radio | click | submit | clear
  deriving DecidableEq, Repr, Inhabited

/-- An action on a form control with a known value. -/
structure Action where
  selector : String
  value : String := ""
  kind : ActionKind
  label : Option String := none
  fieldType : Option String := none
  required : Option Bool := none
  smartSelectors : Option (List SmartSelector) := none
  deriving DecidableEq, Repr, Inhabited

/-- How a script is written. -/
structure Options where
  pageUrl : Option String := none
  testName : String := "fill form"
  testDescription : Option String := none
  useSmartSelectors : Bool := true
  includeAssertions : Bool := false
  assertions : List Assertion := []
  includeNegativeTest : Bool := false
  includePageObject : Bool := false
  minWaitThreshold : Int := 1000
  includeScrollSteps : Bool := false
  includeHoverSteps : Bool := false
  deriving DecidableEq, Repr, Inhabited

/-- A text that is present and not empty. -/
def nonempty? : Option String → Option String
  | some s => if s.isEmpty then none else some s
  | none => none

/-- The text that is present and not empty, else another. -/
def orText (s : Option String) (other : String) : String := (nonempty? s).getD other

namespace ActionKind

/-- A click or a submit, which ends the filling of a form. -/
def submits (k : ActionKind) : Bool := k == .click || k == .submit

end ActionKind

namespace StepKind

/-- A step after which a field is known to have a value. -/
def givesValue (k : StepKind) : Bool := k == .fill || k == .select || k == .check || k == .uncheck

/-- The action that a step on a form control amounts to. -/
def action? : StepKind → Option ActionKind
  | fill => some .fill
  | select => some .select
  | check => some .check
  | uncheck => some .uncheck
  | clear => some .clear
  | click => some .click
  | submit => some .submit
  | _ => none

end StepKind

/-- The actions of the steps on form controls; a step without a selector, a wait and an assertion
give none. -/
def Step.action? (s : Step) : Option Action := do
  let kind ← s.kind.action?
  let selector ← nonempty? s.selector
  return {
    selector, kind
    value := s.value.getD ""
    label := s.label
    fieldType := s.fieldType
    required := s.required
    smartSelectors := s.smartSelectors }

/-- The value of the first alternative, or a fallback where there is none. -/
def pickSelector (alternatives : Option (List SmartSelector)) (fallback : String) : String :=
  match alternatives with
  | some (best :: _) => best.value
  | _ => fallback

end PageTape
