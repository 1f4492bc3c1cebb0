import PageTape.Page.Mutation
import PageTape.Page.Request
import PageTape.Page.Query
import PageTape.Html.Reader

/-!
A page in a browser: its address, its elements, those who listen and watch, and its requests.  The
sessions of the recorder that stand between the page and the network are kept as layers, the
outermost first; without one the page reaches the network itself.
-/

namespace PageTape

open Dom (Id Forest Location)

/-- A page. -/
structure Page where
  url : String
  forest : Forest
  documentListeners : Page.Listeners := []
  windowListeners : Page.Listeners := []
  watches : List Page.Watch := []
  layers : List Nat := []
  exchanges : List (String × Page.Exchange) := []
  nextExchange : Nat := 0
  calls : List (String × Page.Call) := []
  deriving Inhabited

namespace Page

/-- The page of an address and an HTML text. -/
def ofHtml (url html : String) : Page := { url, forest := Html.document html }

/-- The document. -/
def document (p : Page) : Location := p.forest.document

/-- The body. -/
def body? (p : Page) : Option Location := p.forest.findName? "body"

/-- The title without blanks at its ends. -/
def title (p : Page) : String :=
  ((p.forest.findName? "title").map fun l => Text.strip l.textContent).getD ""

/-- The fragment of an address with its sharp, if it has one. -/
def hashOf (url : String) : String :=
  String.ofList (url.toList.dropWhile (· != '#'))

/-- The address without its fragment. -/
def withoutHash (url : String) : String :=
  String.ofList (url.toList.takeWhile (· != '#'))

/-- The page with its forest changed. -/
def changeForest (p : Page) (f : Forest → Forest) : Page := { p with forest := f p.forest }

/-- The address after its fragment is set. -/
def urlWithHash (url fragment : String) : String :=
  withoutHash url ++ "#" ++ String.ofList (fragment.toList.dropWhile (· == '#'))

/-- A request object of the page. -/
def exchange? (p : Page) (key : String) : Option Exchange := p.exchanges.lookup key

/-- The page with a request object changed. -/
def changeExchange (p : Page) (key : String) (f : Exchange → Exchange) : Page :=
  { p with exchanges := p.exchanges.map fun e => if e.1 == key then (e.1, f e.2) else e }

/-- The page with a new request object. -/
def newExchange (p : Page) (key : String) : Page :=
  { p with
    nextExchange := p.nextExchange + 1
    exchanges := (key, { number := p.nextExchange }) :: p.exchanges.filter (·.1 != key) }

end Page

/-! ### Loading -/

namespace Dom.Forest

/-- An element in place of another, which becomes a tree of its own. -/
def replace (f : Forest) (old new : Id) : Forest :=
  match f.take? new with
  | none => f
  | some (tree, rest) => match rest.locate? old with
    | none => rest.addTree tree
    | some l => (rest.rewrite old fun _ _ => [tree]).addTree l.node

/-- The first element of a name below an element. -/
def findBelow? (f : Forest) (id : Id) (name : String) : Option Id :=
  ((f.locate? id).bind fun l => l.node.findName? name).bind fun n => n.tag?.map (·.id)

/-- The forest with the head of a fresh tree put in place of its own, or before what is in its
`html` element. -/
def takeHead (f : Forest) (fresh : Id) : Forest :=
  match f.findBelow? fresh "head" with
  | none => f
  | some head => match f.findBelow? documentId "head", f.findBelow? documentId "html" with
    | some old, _ => f.replace old head
    | none, some html => f.prepend html head
    | none, none => f

/-- The forest with the attributes and the children of the body of a fresh tree moved to its own
body, which stays the same element and loses what it had.  There must be a body. -/
def takeBody (f : Forest) (fresh : Id) : Except Fault Forest :=
  match f.findBelow? documentId "body" with
  | none => .error .bodyMissing
  | some body =>
    let f := f.replaceChildren body []
    match (f.findBelow? fresh "body").bind f.locate? with
    | none => .ok f
    | some source =>
      let f := f.rewrite source.tag.id fun tag _ => [.element tag []]
      .ok (f.rewrite body fun tag children =>
        [.element { tag with attrs := source.tag.attrs } (children ++ source.children)])

/-- The forest with its page replaced by an HTML text: what was loaded, even where it fails, and
whether there was a body to fill. -/
def load (f : Forest) (html : String) : Option Fault × Forest :=
  let (nodes, nextId) := Html.read f.nextId html
  let (fresh, f) := { f with nextId }.create "[document]" [] nodes
  let f := f.takeHead fresh
  let drop := fun (f : Forest) => f.rewrite fresh fun _ _ => []
  match f.takeBody fresh with
  | .ok f => (none, drop f)
  | .error fault => (some fault, drop f)

/-- The first element of an HTML text as a tree of its own. -/
def addFragment (f : Forest) (html : String) : Except Fault (Id × Forest) :=
  let (nodes, nextId) := Html.read f.nextId html
  match nodes.findSome? fun n => n.tag?.map fun tag => (tag.id, n) with
  | some (id, n) => .ok (id, { f with nextId }.addTree n)
  | none => .error (.emptyFragment html)

end Dom.Forest

end PageTape
