import PageTape.Recorder.State

/-!
The requests of a page.  Every response that comes in while recording is kept.  When the network
has been idle for a while after a user action, a step says to wait for that.
-/

namespace PageTape.Recorder

/-- Cancels the timer for an idle network. -/
def cancelIdle : Act Unit :=
  modify fun r => match r.active.bind (·.traffic.idleTimer) with
    | some timer =>
      { r.changeTraffic fun t => { t with idleTimer := none } with clock := r.clock.cancel timer }
    | none => r

/-- Sets the timer for an idle network. -/
def awaitIdle : Act Unit := do
  cancelIdle
  modify fun r =>
    let (timer, clock) := r.clock.setTimer r.config.idleDelay .idle
    { r.changeTraffic fun t => { t with idleTimer := some timer } with clock }

/-- A request has begun. -/
def requestBegun : Act Unit := do
  modify fun r => r.changeTraffic fun t =>
    { t with inFlight := t.inFlight + 1, lastActivity := r.clock.now }
  cancelIdle

/-- The methods that only read. -/
def readingMethods : List String := ["GET", "HEAD", "OPTIONS"]

/-- The step that expects a response. -/
def responseStep (response : Response) : Step :=
  let { url, method, status, timestamp } := response
  { kind := .assert, timestamp, url := some url, value := some method
    label := some s!"HTTP {method} → {status}"
    assertion := some {
      kind := .responseOk, selector := some url, expected := some (toString status)
      description := some s!"{method} {url} → {status}" } }

/-- A request of the active session has ended. -/
def requestEnded (url method : String) (status : Int) : Act Unit := do
  modify fun r => r.changeTraffic fun t => { t with inFlight := t.inFlight - 1 }
  let r ← get
  if !r.isRecording then return
  let response : Response := { url, method, status, timestamp := r.now }
  set (r.changeTraffic fun t => { t with
    lastActivity := r.clock.now, settledSinceIdle := true
    responses := t.responses ++ [response] })
  if r.config.notesResponses && !readingMethods.contains method then
    discard <| add (responseStep response)
  if (← get).active.any (·.traffic.inFlight == 0) then awaitIdle

/-- A request has ended that was counted for a session; it counts no more once that session is
over. -/
def requestEndedIn (serial : Nat) (url method : String) (status : Int) : Act Unit := do
  if (← get).active.any (·.serial == serial) then requestEnded url method status

/-- Records that one must wait for an idle network, if there was a user action recently. -/
def noteIdle : Act Unit := do
  let r ← get
  if (r.config.actionWindow : Rat) ≤ r.clock.now - r.lastUserActionAt then return
  let added ← add {
    kind := .waitForNetworkIdle, timestamp := r.now
    label := some "Wait for network requests to complete"
    waitTimeout := some r.config.idleTimeout }
  if added then modify fun r => r.changeTraffic fun t => { t with settledSinceIdle := false }

/-- The network has been idle for a while. -/
def wakeIdle : Act Unit := do
  modify fun r => r.changeTraffic fun t => { t with idleTimer := none }
  if (← get).isRecording then noteIdle

/-- A request has ended just now, and no step says yet to wait for it. -/
def Traffic.isRecent (t : Traffic) (now : Rat) (window : Int) : Bool :=
  t.settledSinceIdle && 0 < t.lastActivity && now - t.lastActivity < window

/-- Before the end of a session, records that one must wait for the requests that are under way or
have just ended. -/
def noteUnsettled : Act Unit := do
  let r ← get
  match r.active with
  | none => return
  | some a =>
    let t := a.traffic
    if t.idleTimer.isSome || t.inFlight != 0 || t.isRecent r.clock.now r.config.stopWindow then
      cancelIdle
      noteIdle

/-! ### Request objects -/

/-- Keeps the method and the address that a request object is opened with. -/
def requestOpened (number : Nat) (url method : String) : Act Unit :=
  modify fun r => r.changeTraffic fun t =>
    { t with opened := (number, url, method) :: t.opened.filter (·.1 != number) }

/-- The number of the session that counts a request object which is sent now, with the address and
the method it was opened with; the request has begun. -/
def requestSent? (number : Nat) : Act (Option (Nat × String × String)) := do
  let r ← get
  match r.active with
  | none => return none
  | some a => match a.traffic.opened.lookup number with
    | some (url, method) =>
      if r.isRecording then
        requestBegun
        return some (a.serial, url, method)
      else return none
    | none => return none

/-- A request object that was sent while a session was recorded has ended. -/
def requestDone (number serial : Nat) (url method : String) (status : Int) : Act Unit := do
  if (← get).active.any (·.serial == serial) then
    modify fun r => r.changeTraffic fun t =>
      { t with opened := t.opened.filter (·.1 != number) }
    requestEnded url method status

end PageTape.Recorder
