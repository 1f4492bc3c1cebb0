import PageTape.Scene.State

/-!
How events and changes of a page reach those who listen and watch.  A failure of one of them is no
concern of the others, nor of the page.
-/

namespace PageTape.Scene

open Dom (Id)

/-- Where an event is delivered: to those who listen to the document, or to the window. -/
inductive Hall where
  | document | window
  deriving DecidableEq, Repr, Inhabited

/-- The listeners of a hall. -/
def Hall.listeners (hall : Hall) (p : Page) : Page.Listeners :=
  match hall with
  | document => p.documentListeners
  | window => p.windowListeners

/-- The page with the listeners of a hall changed. -/
def Hall.change (hall : Hall) (f : Page.Listeners → Page.Listeners) (p : Page) : Page :=
  match hall with
  | document => { p with documentListeners := f p.documentListeners }
  | window => { p with windowListeners := f p.windowListeners }

/-- What a listener of the page does when it is called. -/
def listenerBehaviour (s : Scene) (name : String) : Page.Behaviour :=
  (s.listeners.lookup name).getD .watch

/-- Calls a listener; says whether it lets the page go on. -/
def callListener (event : Page.Event) : Page.Listener → Act Bool
  | .recorder => do
    quietly (byRecorder fun p => Recorder.hear p event)
    return true
  | .page name => do
    let s ← get
    see (.event name event (targetName s.page.forest event.target))
    return listenerBehaviour s name != .prevent

/-- Calls listeners in order; says whether all of them let the page go on. -/
def callListeners (event : Page.Event) : List Page.Listener → Act Bool
  | [] => return true
  | listener :: rest => do
    let allowed ← callListener event listener
    return (← callListeners event rest) && allowed

/-- Delivers an event; says whether the page goes on to do what the event is for. -/
def deliver (hall : Hall) (event : Page.Event) : Act Bool := do
  callListeners event ((hall.listeners (← get).page).called event.type)

/-- Delivers an event of an element. -/
def fire (type : String) (id : Id) (key : Option String) : Act Bool :=
  deliver .document { type, target := .element id, key }

/-- Shows a change to an observer. -/
def callObserver (mutation : Page.Mutation) : Page.Observer → Act Unit
  | .recorder => quietly (byRecorder fun _ => Recorder.heed [mutation])
  | .page name => do
    let f := (← get).page.forest
    let target := nameOf f mutation.target
    match mutation.change with
    | .children added removed =>
      see (.children name target (added.map (nameOf f)) (removed.map (nameOf f)))
    | .attr changed => see (.attr name target changed)

/-- Shows a change to those who watch for it. -/
def notify (target : Id) (change : Page.Change) : Act Unit := do
  let mutation : Page.Mutation := ⟨target, change⟩
  let p := (← get).page
  (p.watches.filter (·.sees p.forest mutation)).forM fun w => callObserver mutation w.observer

end PageTape.Scene
