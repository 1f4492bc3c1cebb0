import PageTape.Scene.Record
import PageTape.Scene.Browser

/-!
Everything that can happen in a scene, as data: what is asked of the recorder, what the page and
its user do, what the network and the browser do, and the passing of time.
-/

namespace PageTape.Scene

open Dom (Id)

/-- What happens in a scene.  Elements are given by their identity; request objects, calls and the
requests of a browser by a name. -/
inductive Action where
  | start | pause | resume | stop | clear
  | addStep (step : Datum)
  | removeStep (index : Int)
  | updateStep (index : Int) (value : Option String) (waitTimeout : Option Int)
  | callbacks (added updated : Option Reaction)
  | type (element : Id) (text : String)
  | fill (element : Id) (value : String)
  | click (element : Id)
  | press (element : Id) (key : String)
  | submit (form : Id)
  | appendHtml (parent : Id) (html : String)
  | append (parent child : Id)
  | create (name : String) (attrs : List (String × String)) (text : Option String)
  | remove (element : Id)
  | setAttr (element : Id) (name value : String)
  | eraseAttr (element : Id) (name : String)
  | load (html : String)
  | sync (element : Id) (value : Option String) (checked : Option Bool)
  | dispatch (hall : Hall) (event : Page.Event)
  | listen (hall : Hall) (name type : String) (capture : Bool) (behaviour : Page.Behaviour)
  | unlisten (hall : Hall) (name type : String) (capture : Bool)
  | observe (name : String) (watch : Page.Watch) (behaviour : Page.Behaviour)
  | disconnect (name : String)
  | navigate (url : String)
  | setHash (fragment : String)
  | popState (url : String)
  | fetch (resource : Page.Resource) (init : Datum) (status : Int) (offline : Bool)
  | startCall (key : String) (resource : Page.Resource) (init : Datum)
  | settleCall (key : String) (status : Int)
  | makeExchange (key : String)
  | openExchange (key method : String) (url : Datum)
  | sendExchange (key : String) (arguments : List Datum)
  | respond (key : String) (status : Int) (text : String)
  | fail (key : String)
  | hearExchange (key type : String) (behaviour : Page.Behaviour)
  | requestBegun
  | requestEnded (url method : String) (status : Int)
  | link
  | syncContent
  | showPage (url html : Option String)
  | pageLoaded
  | bring (report : Datum)
  | requestReported (key : String) (reported : Reported)
  | endReported (key : String) (status : Int)
  | advance (ms : Rat)
  | runAll
  deriving Inhabited

/-- What an action answers. -/
inductive Answer where
  | nothing
  | truth (value : Bool)
  | session (value : Option Session)
  | element (id : Id)
  | reply (value : Option Reply)
  deriving Inhabited

/-- The functions with one more, unless it is there already: its first behaviour stays. -/
def withFunction (name : String) (behaviour : Page.Behaviour)
    (functions : List (String × Page.Behaviour)) : List (String × Page.Behaviour) :=
  if (functions.lookup name).isSome then functions else functions ++ [(name, behaviour)]

/-- The page listens for a type of event. -/
def listen (hall : Hall) (name type : String) (capture : Bool) (behaviour : Page.Behaviour) :
    Act Unit :=
  modify fun s => { s with
    listeners := withFunction name behaviour s.listeners
    page := hall.change (·.add ⟨type, .page name, capture⟩) s.page }

/-- The page watches for changes. -/
def observe (name : String) (watch : Page.Watch) (behaviour : Page.Behaviour) : Act Unit :=
  modify fun s => { s with
    observers := withFunction name behaviour s.observers
    page := { s.page with
      watches := Page.addWatch { watch with observer := .page name } s.page.watches } }

/-- The page watches no longer. -/
def disconnect (name : String) : Act Unit :=
  changePage fun p => { p with watches := p.watches.filter (·.observer != .page name) }

/-- Other callbacks for the recorder; one that is not given stays. -/
def setCallbacks (added updated : Option Reaction) : Act Unit :=
  modify fun s => { s with recorder := { s.recorder with
    onAdded := added.getD s.recorder.onAdded
    onUpdated := updated.getD s.recorder.onUpdated } }

/-- Does something that has no answer. -/
def unanswered (act : Act Unit) : Act Answer := do
  act
  return .nothing

/-- Does what happens in a scene. -/
def perform : Action → Act Answer
  | .start => .session <$> start
  | .pause => .session <$> byRecorder Recorder.pause
  | .resume => .session <$> byRecorder fun _ => Recorder.resume
  | .stop => .session <$> stop
  | .clear => unanswered <| clear
  | .addStep step => .truth <$> byRecorder fun p => Recorder.addByHand p step
  | .removeStep index => .truth <$> byRecorder fun _ => Recorder.removeStep index
  | .updateStep index value waitTimeout =>
    .truth <$> byRecorder fun _ => Recorder.updateStep index value waitTimeout
  | .callbacks added updated => unanswered <| setCallbacks added updated
  | .type element text => unanswered <| typeText element text
  | .fill element value => unanswered <| fill element value
  | .click element => unanswered <| click element
  | .press element key => unanswered <| press element key
  | .submit form => unanswered <| submit form
  | .appendHtml parent html => .element <$> appendHtml parent html
  | .append parent child => unanswered <| append parent child
  | .create name attrs text => .element <$> create name attrs text
  | .remove element => unanswered <| remove element
  | .setAttr element name value => unanswered <| setAttr element name value
  | .eraseAttr element name => unanswered <| eraseAttr element name
  | .load html => unanswered <| load html
  | .sync element value checked => unanswered <| sync element value checked
  | .dispatch hall event => .truth <$> deliver hall event
  | .listen hall name type capture behaviour =>
    unanswered <| listen hall name type capture behaviour
  | .unlisten hall name type capture =>
    unanswered <| changePage (hall.change (·.remove ⟨type, .page name, capture⟩))
  | .observe name watch behaviour => do observe name watch behaviour; return .truth true
  | .disconnect name => do disconnect name; return .truth false
  | .navigate url => unanswered <| navigate url
  | .setHash fragment => unanswered <| setHash fragment
  | .popState url => unanswered <| popState url
  | .fetch resource init status offline =>
    (.reply ∘ some) <$> fetch resource init status offline
  | .startCall key resource init => unanswered <| startCall key resource init
  | .settleCall key status => .reply <$> settleCall key status
  | .makeExchange key => unanswered <| makeExchange key
  | .openExchange key method url => unanswered <| openExchange key method url
  | .sendExchange key arguments => unanswered <| sendExchange key arguments
  | .respond key status text => unanswered <| respond key status text
  | .fail key => unanswered <| fail key
  | .hearExchange key type behaviour => unanswered <| hearExchange key type behaviour
  | .requestBegun => unanswered <| byRecorder fun _ => Recorder.requestBegun
  | .requestEnded url method status =>
    unanswered <| byRecorder fun _ => Recorder.requestEnded url method status
  | .link => unanswered <| link
  | .syncContent => unanswered <| syncContent
  | .showPage url html => unanswered <| showPage url html
  | .pageLoaded => unanswered <| pageLoaded
  | .bring report => unanswered <| bring report
  | .requestReported key reported => unanswered <| requestReported key reported
  | .endReported key status => unanswered <| endReported key status
  | .advance ms => unanswered <| byRecorder fun p => Recorder.advance p ms
  | .runAll => unanswered <| byRecorder Recorder.runAll

/-- What has happened: the answer or the fault, what the onlookers saw, and the scene after it. -/
structure Outcome where
  result : Except Fault Answer
  seen : List Entry
  scene : Scene
  deriving Inhabited

/-- Lets something happen in a scene. -/
def step (s : Scene) (action : Action) : Outcome :=
  let (result, after) := (perform action).run { s with log := [] }
  ⟨result, after.log, { after with log := [] }⟩

/-- The scene after things have happened one after another, whether they failed or not. -/
def after (s : Scene) (actions : List Action) : Scene :=
  actions.foldl (fun s action => (s.step action).scene) s

end PageTape.Scene
