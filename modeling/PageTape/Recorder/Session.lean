import PageTape.Recorder.Gesture
import PageTape.Recorder.Growth
import PageTape.Recorder.Traffic
import PageTape.Recording.Codec

/-!
The life of a session: it begins with a step that opens the page, is recorded or paused, and comes
to an end, after which it does not change any more.  While it lives, steps can be added, removed
and changed by hand.
-/

namespace PageTape.Recorder

/-- The session that begins on a page. -/
def freshSession (p : Page) (now : Int) : Session :=
  { status := .recording, startUrl := p.url, startTime := now
    steps := [{
      kind := .navigate, timestamp := now, url := some p.url
      label := some (orText (some p.title) "Page") }] }

/-- Begins a session; there must be none. -/
def begin (p : Page) : Act Unit :=
  modify fun r => { r with
    stopped := none, stoppedResponses := [], lastUserActionAt := r.now
    nextSerial := r.nextSerial + 1
    active := some {
      serial := r.nextSerial, session := freshSession p r.now
      inputs := { delay := r.config.inputDelay }
      mutations := { delay := r.config.mutationDelay } } }

/-- Pauses the session if it is recorded. -/
def pause (p : Page) : Act (Option Session) := do
  if (← get).isRecording then
    recordAllWaiting p
    modify fun r => r.setStatus .paused
    return (← get).session?
  else return none

/-- Records the session again if it is paused. -/
def resume : Act (Option Session) := do
  if (← get).status == .paused then
    modify fun r => r.setStatus .recording
    return (← get).session?
  else return none

/-- The recorder without its active session and all timers of it. -/
def drop (r : Recorder) : Recorder :=
  match r.active with
  | none => r
  | some a =>
    let (_, clock) := a.inputs.cancelAll r.clock
    let (_, clock) := a.mutations.cancelAll clock
    let clock := match a.traffic.idleTimer with
      | some timer => clock.cancel timer
      | none => clock
    { r with clock, active := none }

/-- The recorder with its active session stopped. -/
def conclude (r : Recorder) : Recorder :=
  match r.active with
  | none => r
  | some a => { r.drop with
      stopped := some { a.session with status := .stopped }
      stoppedResponses := a.traffic.responses, lastUserActionAt := 0 }

/-- Stops the session, if there is one: what waits is recorded first. -/
def stop (p : Page) : Act (Option Session) := do
  if (← get).active.isSome then
    recordAllWaiting p
    noteUnsettled
    modify conclude
    return (← get).stopped
  else return none

/-- Forgets the session. -/
def clear : Act Unit :=
  modify fun r => { r.drop with stopped := none, stoppedResponses := [], lastUserActionAt := 0 }

/-! ### By hand -/

/-- Adds a step that is given as data, while recording. -/
def addByHand (p : Page) (d : Datum) : Act Bool := do
  if !(← get).isRecording then return false
  match Step.check d with
  | .bad issues => throw (.invalidStep issues)
  | .good step =>
    recordAllWaiting p
    addUserStep step

/-- The position that a number stands for among the steps of the active session. -/
def position? (r : Recorder) (index : Int) : Option (Nat × Step) :=
  match index with
  | .ofNat n => r.steps[n]?.map fun step => (n, step)
  | .negSucc _ => none

/-- Removes a step. -/
def removeStep (index : Int) : Act Bool := do
  match (← get).position? index with
  | none => return false
  | some (n, step) =>
    modify fun r => r.changeSteps (·.eraseIdx n)
    tell .updated n step
    return true

/-- Changes the value or the waiting time of a step, or both. -/
def updateStep (index : Int) (value : Option String) (waitTimeout : Option Int) : Act Bool := do
  match (← get).position? index with
  | none => return false
  | some (n, _) =>
    change n fun step => { step with
      value := value.orElse fun _ => step.value
      waitTimeout := waitTimeout.orElse fun _ => step.waitTimeout }
    return true

/-! ### Time -/

/-- A timer has gone off. -/
def goOff (p : Page) : Alarm → Act Unit
  | .input selector => wakeText p selector
  | .mutations => wakeMutations p
  | .idle => wakeIdle

/-- Lets the next timers go off that are due by a time, at most a number of them. -/
def runDue (p : Page) (target : Rat) : Nat → Act Unit
  | 0 => return
  | n + 1 => do
    match (← get).clock.popDue? target with
    | none => return
    | some (timer, clock) =>
      modify fun r => { r with clock }
      goOff p timer.alarm
      runDue p target n

/-- Lets time pass until a time.  No timer sets another one, so there are at most as many to go off
as are set now. -/
def advanceTo (p : Page) (target : Rat) : Act Unit := do
  runDue p target (← get).clock.pending
  modify fun r => { r with clock := { r.clock with now := target } }

/-- Lets time pass. -/
def advance (p : Page) (ms : Rat) : Act Unit := do
  advanceTo p ((← get).clock.now + ms)

/-- Lets time pass from timer to timer, at most a number of times. -/
def runTimers (p : Page) : Nat → Act Unit
  | 0 => return
  | n + 1 => do
    let clock := (← get).clock
    match clock.earliest? with
    | none => return
    | some timer =>
      advanceTo p (@max Rat Rat.instMax clock.now timer.due)
      runTimers p n

/-- Lets time pass until no timer is set. -/
def runAll (p : Page) : Act Unit := do
  runTimers p (← get).clock.pending

end PageTape.Recorder
