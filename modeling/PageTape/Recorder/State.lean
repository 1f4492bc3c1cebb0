import PageTape.Recorder.Config
import PageTape.Recording.Basic
import PageTape.Clock.Debouncer
import PageTape.Page.State

/-!
A recorder and its state.  A recorder works on one session at a time.  Besides the session, what it
keeps while it works is the text that is being typed, the changes of the page that it has not
looked at yet, and what it knows of the network.  Its timers are on its own clock, and everybody
who wants to know of new and changed steps is told by a notice.
-/

namespace PageTape

open Dom (Id)

/-- What a timer of a recorder is for: the text typed into the field of a selector, the changes of
the page, or an idle network. -/
inductive Alarm where
  | input (selector : String)
  | mutations
  | idle
  deriving DecidableEq, Repr, Inhabited

/-- What happens when a callback is called: it is not there, it takes note, or it takes note and
fails. -/
inductive Reaction where
  | off | note | fail
  deriving DecidableEq, Repr, Inhabited

/-- What a callback is told: a step as it then is, and its position. -/
structure Notice where
  callback : Callback
  position : Nat
  step : Step
  deriving DecidableEq, Repr, Inhabited

namespace Recorder

/-- Text that is being typed into an element: what it was at the last event, and when that was. -/
structure Typed where
  element : Id
  value : String
  since : Rat
  deriving DecidableEq, Repr, Inhabited

/-- What is known of the network during one session: the responses so far, how many requests are
under way, when one last began or ended, the timer for an idle network, whether one has ended since
the last wait for an idle network, and the requests that are open but not sent, by the numbers of
their request objects. -/
structure Traffic where
  responses : List Response := []
  inFlight : Nat := 0
  lastActivity : Rat := 0
  idleTimer : Option Nat := none
  settledSinceIdle : Bool := false
  opened : List (Nat × String × String) := []
  deriving Repr, Inhabited

/-- A session that is being recorded, with all that belongs to it.  Its number tells it from all
other sessions of the recorder. -/
structure Active where
  serial : Nat
  session : Session
  inputs : Debouncer String Typed
  mutations : Debouncer Unit (List Page.Mutation)
  traffic : Traffic := {}
  deriving Repr, Inhabited

end Recorder

/-- A recorder.  `isBound` says that its clock can run. -/
structure Recorder where
  config : Recorder.Config := {}
  clock : Clock Alarm := {}
  isBound : Bool := true
  active : Option Recorder.Active := none
  stopped : Option Session := none
  stoppedResponses : List Response := []
  lastUserActionAt : Int := 0
  nextSerial : Nat := 0
  onAdded : Reaction := .note
  onUpdated : Reaction := .note
  notices : List Notice := []
  deriving Repr, Inhabited

namespace Recorder

/-- The session, be it active or stopped. -/
def session? (r : Recorder) : Option Session :=
  match r.active with
  | some a => some a.session
  | none => r.stopped

/-- The state of the recording. -/
def status (r : Recorder) : Status :=
  match r.active with
  | some a => a.session.status
  | none => if r.stopped.isSome then .stopped else .idle

/-- A session is being recorded, and not paused. -/
def isRecording (r : Recorder) : Bool := r.active.any (·.session.status == .recording)

/-- The responses of the session. -/
def responses (r : Recorder) : List Response :=
  match r.active with
  | some a => a.traffic.responses
  | none => r.stoppedResponses

/-- A time in whole milliseconds. -/
def stampOf (time : Rat) : Int := time.num.tdiv time.den

/-- The time in whole milliseconds. -/
def now (r : Recorder) : Int := stampOf r.clock.now

/-- The steps of the active session. -/
def steps (r : Recorder) : List Step := (r.active.map (·.session.steps)).getD []

/-- The newest step of the active session, and its position. -/
def newest? (r : Recorder) : Option (Nat × Step) :=
  r.steps.getLast?.map fun step => (r.steps.length - 1, step)

/-! ### Changes of one part -/

/-- The recorder with its active session changed. -/
def changeActive (r : Recorder) (f : Active → Active) : Recorder :=
  { r with active := r.active.map f }

/-- The recorder with the steps of its active session changed. -/
def changeSteps (r : Recorder) (f : List Step → List Step) : Recorder :=
  r.changeActive fun a => { a with session := { a.session with steps := f a.session.steps } }

/-- The recorder with the state of its active session set. -/
def setStatus (r : Recorder) (status : Status) : Recorder :=
  r.changeActive fun a => { a with session := { a.session with status } }

/-- The recorder with what it knows of the network changed. -/
def changeTraffic (r : Recorder) (f : Traffic → Traffic) : Recorder :=
  r.changeActive fun a => { a with traffic := f a.traffic }

/-! ### Doing and failing -/

/-- What a recorder does; it may fail halfway, and what was done until then stays done. -/
abbrev Act := ExceptT Fault (StateM Recorder)

/-- Tells the callbacks of one kind of a step.  It fails if they do. -/
def tell (callback : Callback) (position : Nat) (step : Step) : Act Unit := do
  let r ← get
  match (match callback with
    | .added => r.onAdded
    | .updated => r.onUpdated) with
  | .off => return
  | .note => modify fun r => { r with notices := r.notices ++ [⟨callback, position, step⟩] }
  | .fail =>
    modify fun r => { r with notices := r.notices ++ [⟨callback, position, step⟩] }
    throw (.callbackFailed callback)

/-- Adds a step while recording, and says whether it did. -/
def add (step : Step) : Act Bool := do
  let r ← get
  if r.isRecording then
    set (r.changeSteps (· ++ [step]))
    tell .added r.steps.length step
    return true
  else return false

/-- Adds the step of a user action, whose time is kept. -/
def addUserStep (step : Step) : Act Bool := do
  if (← get).isRecording then
    modify fun r => { r with lastUserActionAt := step.timestamp }
  add step

/-- Changes the step at a position, and tells of it. -/
def change (position : Nat) (f : Step → Step) : Act Unit := do
  match (← get).steps[position]? with
  | none => return
  | some step =>
    modify fun r => r.changeSteps (·.set position (f step))
    tell .updated position (f step)

end Recorder

end PageTape
