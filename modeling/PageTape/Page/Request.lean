import PageTape.Text.Quoted
import PageTape.Text.Case
import PageTape.Page.Event

/-!
Requests that a page makes: calls of `fetch`, and request objects that are opened, sent and
finished step by step.
-/

namespace PageTape

/-- A value as plain text: text as it is, all else as a message quotes it. -/
def Datum.plain : Datum → String
  | .text s => s
  | d => d.quoted

/-- A method name in capitals. -/
def methodName (d : Datum) : String := Text.upper d.plain

namespace Page

/-- A request as it leaves the page. -/
structure Request where
  url : String
  method : String
  body : Datum := .null
  headers : Datum := .map []
  deriving Repr, Inhabited

/-- What `fetch` is called with: an address, or a request made before. -/
inductive Resource where
  | address (url : String)
  | request (url : String) (method body headers : Datum)
  deriving Repr, Inhabited

/-- The request of a call; what the call itself says goes before what the resource says. -/
def Request.ofCall (resource : Resource) (init : Datum) : Request :=
  let given := fun (key : String) (other : Datum) => (init.get? key).getD other
  match resource with
  | .address url =>
    { url, method := methodName (given "method" (.text "GET")), body := given "body" .null
      headers := given "headers" (.map []) }
  | .request url method body headers =>
    { url, method := methodName (given "method" method), body := given "body" body
      headers := given "headers" headers }

/-- How far a request object has come. -/
inductive Phase where
  | unsent | opened | sent | done
  deriving DecidableEq, Repr, Inhabited

/-- The number of a phase as the page sees it. -/
def Phase.number : Phase → Nat
  | unsent => 0
  | opened => 1
  | sent => 2
  | done => 4

/-- Who hears how a request object ends: the page, or the recorder of a session, which then notes
the response to what was sent. -/
inductive Hearer where
  | page (behaviour : Behaviour)
  | recorder (serial : Nat) (url method : String)
  deriving DecidableEq, Repr, Inhabited

/-- A request object.  Its number tells it from all others. -/
structure Exchange where
  number : Nat
  method : String := ""
  url : String := ""
  status : Int := 0
  phase : Phase := .unsent
  body : Datum := .null
  responseText : String := ""
  hearers : List (String × Hearer) := []
  deriving Repr, Inhabited

/-- How the response to a request is given: it is good if its status is a success. -/
def isSuccess (status : Int) : Bool := 200 ≤ status && status < 300

/-- A call of `fetch` that has not ended: its request, and the session that counts it. -/
structure Call where
  request : Request
  countedBy : Option Nat
  deriving Repr, Inhabited

end Page

end PageTape
