import PageTape.Scene.Deliver

/-!
Recording a page.  While a session is active its recorder listens to the document and the window,
watches the body, and stands between the page and the network; when the session is over it has
left the page as it was.
-/

namespace PageTape.Scene

open Page (Registration Watch)

/-- The recorder listens for a type of event. -/
def recorderListens (capture : Bool) (type : String) : Registration :=
  { type, listener := .recorder, capture }

/-- What the recorder listens for on the document, before all others. -/
def documentRegistrations : List Registration :=
  Recorder.documentEvents.map (recorderListens true)

/-- What the recorder listens for on the window. -/
def windowRegistrations : List Registration :=
  Recorder.windowEvents.map (recorderListens false)

/-- What the recorder watches: all of the body of the page. -/
def recorderWatch (p : Page) : Watch :=
  { observer := .recorder, root := p.body?.map (·.tag.id), subtree := true, attributes := true
    filter := Recorder.watchedAttributes }

/-- The page with the recorder of a session at work on it. -/
def attach (p : Page) (serial : Nat) : Page :=
  { p with
    documentListeners := documentRegistrations.foldl Page.Listeners.add p.documentListeners
    windowListeners := windowRegistrations.foldl Page.Listeners.add p.windowListeners
    watches := Page.addWatch (recorderWatch p) p.watches
    layers := serial :: p.layers }

/-- The page without the recorder. -/
def detach (p : Page) : Page :=
  { p with
    documentListeners := documentRegistrations.foldl Page.Listeners.remove p.documentListeners
    windowListeners := windowRegistrations.foldl Page.Listeners.remove p.windowListeners
    watches := p.watches.filter (·.observer != .recorder)
    layers := p.layers.tail }

/-- Takes the recorder off the page once its session is over. -/
def release (wasActive : Bool) : Act Unit := if wasActive then changePage detach else return

/-- Stops the session, if there is one. -/
def stop : Act (Option Session) := do
  let wasActive := (← get).recorder.active.isSome
  let session ← byRecorder Recorder.stop
  release wasActive
  return session

/-- Begins a session; one that is active is stopped first.  The clock of the recorder must be able
to run. -/
def start : Act (Option Session) := do
  if !(← get).recorder.isBound then throw .noEventLoop
  discard stop
  let serial := (← get).recorder.nextSerial
  byRecorder Recorder.begin
  changePage (attach · serial)
  return (← get).recorder.session?

/-- Forgets the session. -/
def clear : Act Unit := do
  let wasActive := (← get).recorder.active.isSome
  byRecorder fun _ => Recorder.clear
  release wasActive

end PageTape.Scene
