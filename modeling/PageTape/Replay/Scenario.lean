import PageTape.Checked
import PageTape.Text.Quoted

/-!
A scenario is what a visitor does on a page, written down: the address of the page, the time at
which it begins, and the events in order.  An event is known by the first key of its kind that it
has; unlike a recording, a scenario takes no number for a text.
-/

namespace PageTape.Replay

/-- One event on a page. -/
inductive Event where
  | type (target text : String) (interval : Int)
  | fill (target value : String)
  | select (target value : String)
  | click (target : String)
  | press (target key : String)
  | submit (target : String)
  | wait (ms : Int)
  | fetch (url method : String) (status : Int)
  | xhr (url method : String) (status duration : Int)
  | append (target html : String)
  | remove (target : String)
  | navigate (url : String)
  | hash (fragment : String)
  | popState (url : String)
  | pause (marker : Bool)
  | resume (marker : Bool)
  deriving DecidableEq, Repr, Inhabited

/-- Text of a scenario. -/
def checkText : Check String := Check.text false

namespace Event

/-- The kinds of event by their keys, with the check of each; the first key that is there
decides. -/
def kinds : List (String × (List (String × Datum) → Checked Event)) :=
  let text := fun (es : List (String × Datum)) (key : String) => Check.required es key key checkText
  let method := fun (es : List (String × Datum)) =>
    Check.withDefault es "method" "method" checkText "GET"
  let status := fun (es : List (String × Datum)) =>
    Check.withDefault es "status" "status" Check.int 200
  [("type", fun es => Event.type <$> text es "type" <*> text es "text"
      <*> Check.withDefault es "interval" "interval" Check.int 50),
    ("fill", fun es => Event.fill <$> text es "fill" <*> text es "value"),
    ("select", fun es => Event.select <$> text es "select" <*> text es "value"),
    ("click", fun es => Event.click <$> text es "click"),
    ("press", fun es => Event.press <$> text es "press" <*> text es "key"),
    ("submit", fun es => Event.submit <$> text es "submit"),
    ("wait", fun es => Event.wait <$> Check.required es "wait" "wait" Check.natural),
    ("fetch", fun es => Event.fetch <$> text es "fetch" <*> method es <*> status es),
    ("xhr", fun es => Event.xhr <$> text es "xhr" <*> method es <*> status es
      <*> Check.withDefault es "duration" "duration" Check.natural 0),
    ("append", fun es => Event.append <$> text es "append" <*> text es "html"),
    ("remove", fun es => Event.remove <$> text es "remove"),
    ("navigate", fun es => Event.navigate <$> text es "navigate"),
    ("hash", fun es => Event.hash <$> text es "hash"),
    ("popState", fun es => Event.popState <$> text es "popState"),
    ("pause", fun es => Event.pause <$> Check.required es "pause" "pause" Check.bool),
    ("resume", fun es => Event.resume <$> Check.required es "resume" "resume" Check.bool)]

/-- Reads an event; data without a known key is no event at all. -/
def check? (d : Datum) : Option (Checked Event) :=
  match d with
  | .map entries =>
    (kinds.find? fun k => (entries.lookup k.1).isSome).map fun k => k.2 entries
  | _ => none

/-- The message on data that is no event. -/
def unknownMessage (d : Datum) : String := s!"不明なイベントです: {d.quoted}"

/-- The key of an event and its parts in order. -/
def toEntries : Event → List (String × Datum)
  | type target text interval =>
    [("type", .text target), ("text", .text text), ("interval", .int interval)]
  | fill target value => [("fill", .text target), ("value", .text value)]
  | select target value => [("select", .text target), ("value", .text value)]
  | click target => [("click", .text target)]
  | press target key => [("press", .text target), ("key", .text key)]
  | submit target => [("submit", .text target)]
  | wait ms => [("wait", .int ms)]
  | fetch url method status =>
    [("fetch", .text url), ("method", .text method), ("status", .int status)]
  | xhr url method status duration =>
    [("xhr", .text url), ("method", .text method), ("status", .int status),
      ("duration", .int duration)]
  | append target html => [("append", .text target), ("html", .text html)]
  | remove target => [("remove", .text target)]
  | navigate url => [("navigate", .text url)]
  | hash fragment => [("hash", .text fragment)]
  | popState url => [("popState", .text url)]
  | pause marker => [("pause", .bool marker)]
  | resume marker => [("resume", .bool marker)]

/-- An event written down. -/
def toDatum (e : Event) : Datum := .map e.toEntries

end Event

/-- A page's address, the time of the beginning, and the events. -/
structure Scenario where
  url : String := "about:blank"
  startTime : Int := 0
  events : List Event := []
  deriving DecidableEq, Repr, Inhabited

/-- Why data is no scenario: issues of its fields, or events that are no sequence. -/
inductive ScenarioFault where
  | invalid (issues : List Issue)
  | eventsNotIterable
  deriving DecidableEq, Repr, Inhabited

/-- Reads events one by one up to the first that fails. -/
def checkEvents : List Datum → Checked (List Event)
  | [] => .good []
  | d :: rest => match Event.check? d with
    | none => .fault .valueError
    | some event => event.andThen fun e => (checkEvents rest).map (e :: ·)

namespace Scenario

/-- Reads a scenario. -/
def read (d : Datum) : Except ScenarioFault Scenario :=
  match d with
  | .map es =>
    match ((es.lookup "events").getD .null).items? with
    | none => .error .eventsNotIterable
    | some items =>
      let events : Checked (List Event) := (checkEvents items).within (.key "events")
      let scenario := Scenario.mk
        <$> Check.withDefault es "url" "url" checkText "about:blank"
        <*> Check.withDefault es "startTime" "start_time" Check.int 0
        <*> events
      scenario.toExcept.mapError .invalid
  | _ => .error (.invalid [⟨[], .modelType⟩])

end Scenario

end PageTape.Replay
