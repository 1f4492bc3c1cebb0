import PageTape.Replay.Scenario
import PageTape.Scene.Action

/-!
Playing a scenario: a page is opened, a recorder begins, and everything in the scenario happens in
order, as time passes between the events.  At the end nothing waits any more and the session is
stopped.
-/

namespace PageTape.Replay

open Dom (Id)
open Scene (Act)

/-- The element that a selector selects first; there must be one. -/
def target (selector : String) : Act Id := do
  Scene.ofExcept ((← get).find selector)

/-- Lets time pass. -/
def pass (ms : Int) : Act Unit := Scene.byRecorder fun p => Recorder.advance p ms

/-- The user types characters, with a pause after each. -/
def typeSlowly (element : Id) (interval : Int) : List Char → Act Unit
  | [] => return
  | c :: rest => do
    Scene.typeText element c.toString
    pass interval
    typeSlowly element interval rest

/-- The page calls `fetch`; what it does if that fails is its own concern. -/
def fetch (url method : String) (status : Int) : Act Unit := do
  let init := Datum.map [("method", .text method)]
  try discard <| Scene.fetch (.address url) init status false
  catch
    | .networkFailed _ => return
    | fault => throw fault

/-- The page sends a request object, which ends after a while. -/
def exchange (url method : String) (status duration : Int) : Act Unit := do
  let key := ""
  Scene.makeExchange key
  Scene.openExchange key method (.text url)
  Scene.sendExchange key []
  if duration != 0 then pass duration
  if status == 0 then Scene.fail key else Scene.respond key status ""

/-- Lets an event happen. -/
def Event.play : Event → Act Unit
  | type selector text interval => do typeSlowly (← target selector) interval text.toList
  | fill selector value => do Scene.fill (← target selector) value
  | select selector value => do Scene.fill (← target selector) value
  | click selector => do Scene.click (← target selector)
  | press selector key => do Scene.press (← target selector) key
  | submit selector => do Scene.submit (← target selector)
  | wait ms => pass ms
  | fetch url method status => Replay.fetch url method status
  | xhr url method status duration => exchange url method status duration
  | append selector html => do discard <| Scene.appendHtml (← target selector) html
  | remove selector => do Scene.remove (← target selector)
  | navigate url => Scene.navigate url
  | hash fragment => Scene.setHash fragment
  | popState url => Scene.popState url
  | pause _ => discard <| Scene.byRecorder Recorder.pause
  | resume _ => discard <| Scene.byRecorder fun _ => Recorder.resume

/-- Lets events happen in order. -/
def playAll : List Event → Act Unit
  | [] => return
  | e :: rest => do
    e.play
    playAll rest

/-- What a replay has recorded. -/
structure Take where
  session : Session
  responses : List Response
  deriving DecidableEq, Repr, Inhabited

/-- The recorder before a replay, with its clock at the time of the scenario. -/
def Scenario.recorder (s : Scenario) (config : Recorder.Config) : Recorder :=
  { config, clock := { now := s.startTime }, onAdded := .off, onUpdated := .off }

/-- The scene before a replay. -/
def Scenario.scene (s : Scenario) (html : String) (config : Recorder.Config) : Scene :=
  Scene.ofPage (Page.ofHtml s.url html) (s.recorder config) { url := s.url, html }

/-- Records a scenario from its beginning to its end. -/
def Scenario.perform (s : Scenario) : Act Unit := do
  discard Scene.start
  playAll s.events
  Scene.byRecorder Recorder.runAll
  discard Scene.stop

/-- What is recorded when a scenario is played on the page of an HTML text. -/
def Scenario.play (s : Scenario) (html : String) (config : Recorder.Config) :
    Except Fault Take :=
  let (result, scene) := s.perform.run (s.scene html config)
  result.map fun _ =>
    { session := scene.recorder.session?.getD {}, responses := scene.recorder.responses }

end PageTape.Replay
