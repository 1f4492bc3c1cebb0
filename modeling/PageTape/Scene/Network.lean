import PageTape.Scene.Deliver

/-!
How requests leave a page and how they end.  While a session is recorded, its recorder stands
between the page and the network and counts them.
-/

namespace PageTape.Scene

open Page (Request Resource Exchange Hearer)

/-- The answer to a request. -/
structure Reply where
  url : String
  status : Int
  deriving DecidableEq, Repr, Inhabited

/-- The reply is a success. -/
def Reply.isGood (r : Reply) : Bool := Page.isSuccess r.status

/-! ### Calls of `fetch` -/

/-- Counts a call for the session that is recorded, and gives its number. -/
def countCall : Act (Option Nat) := do
  let s ← get
  match s.page.layers with
  | [] => return none
  | serial :: _ =>
    if s.recorder.isRecording then
      byRecorder fun _ => Recorder.requestBegun
      return some serial
    else return none

/-- A call has ended with a status, or has failed with status zero. -/
def endCall (request : Request) (serial : Option Nat) (status : Int) : Act Reply := do
  match serial with
  | some serial =>
    byRecorder fun _ => Recorder.requestEndedIn serial request.url request.method status
  | none => pure ()
  if status == 0 then throw (.networkFailed request.url)
  return ⟨request.url, status⟩

/-- The page calls `fetch` and waits for the end.  Without a network the request does not leave the
page. -/
def fetch (resource : Resource) (init : Datum) (status : Int) (offline : Bool) : Act Reply := do
  let request := Request.ofCall resource init
  let serial ← countCall
  if offline then endCall request serial 0
  else
    see (.request request)
    endCall request serial status

/-- The page calls `fetch` and goes on. -/
def startCall (key : String) (resource : Resource) (init : Datum) : Act Unit := do
  let request := Request.ofCall resource init
  let countedBy ← countCall
  see (.request request)
  changePage fun p =>
    { p with calls := (key, { request, countedBy }) :: p.calls.filter (·.1 != key) }

/-- A call that the page has started ends. -/
def settleCall (key : String) (status : Int) : Act (Option Reply) := do
  match (← get).page.calls.lookup key with
  | none => return none
  | some call =>
    changePage fun p => { p with calls := p.calls.filter (·.1 != key) }
    some <$> endCall call.request call.countedBy status

/-! ### Request objects -/

/-- The page makes a request object. -/
def makeExchange (key : String) : Act Unit := changePage (·.newExchange key)

/-- The page opens a request object. -/
def openExchange (key : String) (method : String) (url : Datum) : Act Unit := do
  let s ← get
  match s.page.exchange? key with
  | none => return
  | some e =>
    let method := Text.upper method
    if !s.page.layers.isEmpty then
      byRecorder fun _ => Recorder.requestOpened e.number url.plain method
    changePage (·.changeExchange key fun e =>
      { e with method, url := url.plain, phase := .opened })

/-- The page sends a request object with the given arguments, of which there may be one. -/
def sendExchange (key : String) (arguments : List Datum) : Act Unit := do
  let s ← get
  match s.page.exchange? key with
  | none => return
  | some e =>
    if !s.page.layers.isEmpty then
      match ← byRecorder fun _ => Recorder.requestSent? e.number with
      | some (serial, url, method) =>
        changePage (·.changeExchange key fun e =>
          { e with hearers := e.hearers ++ [("loadend", .recorder serial url method)] })
      | none => pure ()
    if 1 < arguments.length then throw .tooManyArguments
    if e.phase != .opened then throw .sendBeforeOpen
    changePage (·.changeExchange key fun e =>
      { e with body := arguments.headD .null, phase := .sent })

/-- The page wants to hear of one kind of end of a request object. -/
def hearExchange (key type : String) (behaviour : Page.Behaviour) : Act Unit :=
  changePage (·.changeExchange key fun e =>
    { e with hearers := e.hearers ++ [(type, .page behaviour)] })

/-- Tells one who wants to hear of an end. -/
def callHearer (key type : String) (e : Exchange) : Hearer → Act Unit
  | .page _ => see (.ended key type e.status)
  | .recorder serial url method =>
    quietly (byRecorder fun _ => Recorder.requestDone e.number serial url method e.status)

/-- Tells those who want to hear of one kind of end. -/
def callHearers (key type : String) : Act Unit := do
  match (← get).page.exchange? key with
  | none => return
  | some e => (e.hearers.filter (·.1 == type)).forM fun h => callHearer key type e h.2

/-- A request object ends, with a response or without. -/
def endExchange (key type : String) (f : Exchange → Exchange) : Act Unit := do
  changePage (·.changeExchange key fun e => { f e with phase := .done })
  callHearers key type
  callHearers key "loadend"

/-- The response to a request object comes in. -/
def respond (key : String) (status : Int) (text : String) : Act Unit :=
  endExchange key "load" fun e => { e with status, responseText := text }

/-- A request object fails. -/
def fail (key : String) : Act Unit := endExchange key "error" fun e => { e with status := 0 }

end PageTape.Scene
