import PageTape.Recording.Basic
import PageTape.Checked

/-!
The written form of recordings, actions and options: the word of every enumeration, the check that
reads each from data and the data that writes it.  Keys are in camel case, a plain key is read too;
a part that is absent is not written.
-/

namespace PageTape

namespace SelectorStrategy

/-- The strategies, best first. -/
def all : List SelectorStrategy := [testId, ariaLabel, role, name, id, placeholder, css]

/-- The word of a strategy. -/
def word : SelectorStrategy → String
  | testId => "data-testid"
  | ariaLabel => "aria-label"
  | role => "role"
  | name => "name"
  | id => "id"
  | placeholder => "placeholder"
  | css => "css"

end SelectorStrategy

namespace AssertionKind

/-- All kinds of assertion. -/
def all : List AssertionKind := [urlChanged, urlContains, visibleText, elementVisible,
  elementHidden, toastMessage, fieldValue, fieldError, redirect, responseOk]

/-- The word of a kind of assertion. -/
def word : AssertionKind → String
  | urlChanged => "url-changed"
  | urlContains => "url-contains"
  | visibleText => "visible-text"
  | elementVisible => "element-visible"
  | elementHidden => "element-hidden"
  | toastMessage => "toast-message"
  | fieldValue => "field-value"
  | fieldError => "field-error"
  | redirect => "redirect"
  | responseOk => "response-ok"

end AssertionKind

namespace StepKind

/-- All kinds of step. -/
def all : List StepKind := [navigate, fill, select, check, uncheck, click, submit, pressKey, hover,
  clear, scroll, assert, waitForElement, waitForHidden, waitForUrl, waitForNetworkIdle]

/-- The word of a kind of step. -/
def word : StepKind → String
  | navigate => "navigate"
  | fill => "fill"
  | select => "select"
  | check => "check"
  | uncheck => "uncheck"
  | click => "click"
  | submit => "submit"
  | pressKey => "press-key"
  | hover => "hover"
  | clear => "clear"
  | scroll => "scroll"
  | assert => "assert"
  | waitForElement => "wait-for-element"
  | waitForHidden => "wait-for-hidden"
  | waitForUrl => "wait-for-url"
  | waitForNetworkIdle => "wait-for-network-idle"

end StepKind

namespace Status

/-- All states of a recording. -/
def all : List Status := [idle, recording, paused, stopped]

/-- The word of a state. -/
def word : Status → String
  | idle => "idle"
  | recording => "recording"
  | paused => "paused"
  | stopped => "stopped"

end Status

namespace ActionKind

/-- All kinds of action. -/
def all : List ActionKind := [fill, select, check, uncheck, radio, click, submit, clear]

/-- The word of a kind of action. -/
def word : ActionKind → String
  | fill => "fill"
  | select => "select"
  | check => "check"
  | uncheck => "uncheck"
  | radio => "radio"
  | click => "click"
  | submit => "submit"
  | clear => "clear"

end ActionKind

namespace Datum

/-- An entry for a text that is present. -/
def text? (key : String) (value : Option String) : List (String × Datum) :=
  optional key (value.map .text)

end Datum

open Datum (optional text?)

/-- Text in a recording, where a number counts as its text. -/
def Check.prose : Check String := Check.text true

namespace SmartSelector

/-- Reads an alternative selector. -/
def check : Check SmartSelector := Check.model fun es =>
  SmartSelector.mk
    <$> Check.required es "strategy" "strategy" (Check.word SelectorStrategy.all (·.word))
    <*> Check.required es "value" "value" Check.prose
    <*> Check.maybe es "description" "description" Check.prose

/-- Writes an alternative selector. -/
def toDatum (s : SmartSelector) : Datum := .map <|
  [("strategy", .text s.strategy.word), ("value", .text s.value)]
    ++ text? "description" s.description

end SmartSelector

namespace ScrollPosition

/-- Reads a scroll position. -/
def check : Check ScrollPosition := Check.model fun es =>
  ScrollPosition.mk <$> Check.withDefault es "x" "x" Check.int 0
    <*> Check.withDefault es "y" "y" Check.int 0

/-- Writes a scroll position. -/
def toDatum (p : ScrollPosition) : Datum := .map [("x", .int p.x), ("y", .int p.y)]

end ScrollPosition

namespace Assertion

/-- Reads an assertion. -/
def check : Check Assertion := Check.model fun es =>
  Assertion.mk
    <$> Check.required es "type" "type" (Check.word AssertionKind.all (·.word))
    <*> Check.maybe es "selector" "selector" Check.prose
    <*> Check.maybe es "expected" "expected" Check.prose
    <*> Check.maybe es "description" "description" Check.prose

/-- Writes an assertion. -/
def toDatum (a : Assertion) : Datum := .map <|
  [("type", .text a.kind.word)] ++ text? "selector" a.selector ++ text? "expected" a.expected
    ++ text? "description" a.description

end Assertion

/-- Reads a list of alternative selectors. -/
def SmartSelector.checkAll : Check (List SmartSelector) := Check.list SmartSelector.check

/-- Writes a list of alternative selectors. -/
def SmartSelector.listDatum (ss : List SmartSelector) : Datum := .list (ss.map toDatum)

namespace Step

/-- Reads a step. -/
def check : Check Step := Check.model fun es =>
  Step.mk
    <$> Check.required es "type" "type" (Check.word StepKind.all (·.word))
    <*> Check.required es "timestamp" "timestamp" Check.int
    <*> Check.maybe es "selector" "selector" Check.prose
    <*> Check.maybe es "smartSelectors" "smart_selectors" SmartSelector.checkAll
    <*> Check.maybe es "value" "value" Check.prose
    <*> Check.maybe es "label" "label" Check.prose
    <*> Check.maybe es "url" "url" Check.prose
    <*> Check.maybe es "key" "key" Check.prose
    <*> Check.maybe es "waitTimeout" "wait_timeout" Check.int
    <*> Check.maybe es "scrollPosition" "scroll_position" ScrollPosition.check
    <*> Check.maybe es "assertion" "assertion" Assertion.check
    <*> Check.maybe es "fieldType" "field_type" Check.prose
    <*> Check.maybe es "required" "required" Check.bool

/-- Writes a step. -/
def toDatum (s : Step) : Datum := .map <|
  [("type", .text s.kind.word), ("timestamp", .int s.timestamp)]
    ++ text? "selector" s.selector
    ++ optional "smartSelectors" (s.smartSelectors.map SmartSelector.listDatum)
    ++ text? "value" s.value
    ++ text? "label" s.label
    ++ text? "url" s.url
    ++ text? "key" s.key
    ++ optional "waitTimeout" (s.waitTimeout.map .int)
    ++ optional "scrollPosition" (s.scrollPosition.map ScrollPosition.toDatum)
    ++ optional "assertion" (s.assertion.map Assertion.toDatum)
    ++ text? "fieldType" s.fieldType
    ++ optional "required" (s.required.map .bool)

end Step

namespace Session

/-- Reads a session. -/
def check : Check Session := Check.model fun es =>
  Session.mk
    <$> Check.withDefault es "status" "status" (Check.word Status.all (·.word)) .recording
    <*> Check.withDefault es "startUrl" "start_url" Check.prose ""
    <*> Check.withDefault es "startTime" "start_time" Check.int 0
    <*> Check.withDefault es "steps" "steps" (Check.list Step.check) []

/-- Writes a session. -/
def toDatum (s : Session) : Datum := .map [
  ("status", .text s.status.word), ("startUrl", .text s.startUrl),
  ("startTime", .int s.startTime), ("steps", .list (s.steps.map Step.toDatum))]

end Session

namespace Response

/-- Reads a response. -/
def check : Check Response := Check.model fun es =>
  Response.mk
    <$> Check.required es "url" "url" Check.prose
    <*> Check.required es "method" "method" Check.prose
    <*> Check.required es "status" "status" Check.int
    <*> Check.required es "timestamp" "timestamp" Check.int

/-- Writes a response. -/
def toDatum (r : Response) : Datum := .map [
  ("url", .text r.url), ("method", .text r.method), ("status", .int r.status),
  ("timestamp", .int r.timestamp)]

end Response

namespace Action

/-- Reads an action. -/
def check : Check Action := Check.model fun es =>
  Action.mk
    <$> Check.required es "selector" "selector" Check.prose
    <*> Check.withDefault es "value" "value" Check.prose ""
    <*> Check.required es "actionType" "action_type" (Check.word ActionKind.all (·.word))
    <*> Check.maybe es "label" "label" Check.prose
    <*> Check.maybe es "fieldType" "field_type" Check.prose
    <*> Check.maybe es "required" "required" Check.bool
    <*> Check.maybe es "smartSelectors" "smart_selectors" SmartSelector.checkAll

/-- Writes an action. -/
def toDatum (a : Action) : Datum := .map <|
  [("selector", .text a.selector), ("value", .text a.value), ("actionType", .text a.kind.word)]
    ++ text? "label" a.label
    ++ text? "fieldType" a.fieldType
    ++ optional "required" (a.required.map .bool)
    ++ optional "smartSelectors" (a.smartSelectors.map SmartSelector.listDatum)

end Action

namespace Options

/-- Reads options from a map. -/
def check : Check Options := Check.model fun es =>
  Options.mk
    <$> Check.maybe es "pageUrl" "page_url" Check.prose
    <*> Check.withDefault es "testName" "test_name" Check.prose "fill form"
    <*> Check.maybe es "testDescription" "test_description" Check.prose
    <*> Check.withDefault es "useSmartSelectors" "use_smart_selectors" Check.bool true
    <*> Check.withDefault es "includeAssertions" "include_assertions" Check.bool false
    <*> Check.withDefault es "assertions" "assertions" (Check.list Assertion.check) []
    <*> Check.withDefault es "includeNegativeTest" "include_negative_test" Check.bool false
    <*> Check.withDefault es "includePOM" "include_pom" Check.bool false
    <*> Check.withDefault es "minWaitThreshold" "min_wait_threshold" Check.int 1000
    <*> Check.withDefault es "includeScrollSteps" "include_scroll_steps" Check.bool false
    <*> Check.withDefault es "includeHoverSteps" "include_hover_steps" Check.bool false

/-- Reads options, where nothing stands for the defaults. -/
def checkGiven : Check Options
  | .null => .good {}
  | d => check d

/-- Writes options. -/
def toDatum (o : Options) : Datum := .map <|
  text? "pageUrl" o.pageUrl
    ++ [("testName", .text o.testName)]
    ++ text? "testDescription" o.testDescription
    ++ [("useSmartSelectors", .bool o.useSmartSelectors),
      ("includeAssertions", .bool o.includeAssertions),
      ("assertions", .list (o.assertions.map Assertion.toDatum)),
      ("includeNegativeTest", .bool o.includeNegativeTest),
      ("includePOM", .bool o.includePageObject),
      ("minWaitThreshold", .int o.minWaitThreshold),
      ("includeScrollSteps", .bool o.includeScrollSteps),
      ("includeHoverSteps", .bool o.includeHoverSteps)]

end Options

/-- Reads items one by one; the first that fails gives its own issues, without its position. -/
def checkEach {α : Type} (check : Check α) : List Datum → Checked (List α)
  | [] => .good []
  | d :: rest => (check d).andThen fun a => (checkEach check rest).map (a :: ·)

end PageTape
