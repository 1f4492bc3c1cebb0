import PageTape.Html.Token
import PageTape.Dom.Forest

/-!
The nodes of an HTML text.  Nothing is implied: an element ends where its end tag or that of an
element around it stands, and an end tag that closes nothing is passed over.
-/

namespace PageTape.Html

open Dom

/-- The elements that never have children. -/
def voidNames : List String := [
  "area", "base", "br", "col", "embed", "hr", "img", "input", "keygen", "link", "menuitem", "meta",
  "param", "source", "track", "wbr", "basefont", "bgsound", "command", "frame", "image", "isindex",
  "nextid", "spacer"]

/-- The elements that keep blank text as it is. -/
def blankKeepers : List String := ["pre", "textarea"]

/-- The state of reading: the open elements, innermost first, each with its children so far, last
first; the nodes outside of them; text not yet a node; the next identity; and the names of void
elements whose end tag may still come. -/
structure Reading where
  stack : List (Tag × List Node) := []
  top : List Node := []
  pending : List Char := []
  nextId : Id
  awaited : List String := []
  deriving Repr, Inhabited

namespace Reading

/-- A node added at the place that is open. -/
def add (r : Reading) (n : Node) : Reading :=
  match r.stack with
  | (tag, children) :: rest => { r with stack := (tag, n :: children) :: rest }
  | [] => { r with top := n :: r.top }

/-- ASCII white space, as HTML counts it. -/
def isAsciiSpace (c : Char) : Bool :=
  c == ' ' || c == '\n' || c == '\t' || c == '\r' || c == Char.ofNat 12

/-- The content of a node: blank content is one line break or one space, unless an open element
keeps it. -/
def content (r : Reading) (cs : List Char) : String :=
  if cs.all isAsciiSpace && !(r.stack.any fun e => blankKeepers.contains e.1.name) then
    if cs.contains '\n' then "\n" else " "
  else String.ofList cs

/-- The kind of text at the place that is open: the innermost open element that keeps its text
apart decides. -/
def textKind (r : Reading) : TextKind :=
  (r.stack.findSome? fun e => TextKind.keepers.lookup e.1.name).getD .plain

/-- The pending text made a node. -/
def flush (r : Reading) : Reading :=
  if r.pending.isEmpty then r
  else { r.add (.text r.textKind (r.content r.pending)) with pending := [] }

/-- The innermost open element closed. -/
def pop (r : Reading) : Reading :=
  match r.stack with
  | (tag, children) :: rest =>
    Reading.add { r with stack := rest } (.element tag children.reverse)
  | [] => r

/-- A number of open elements closed, from the inside. -/
def popMany : Nat → Reading → Reading
  | 0, r => r
  | n + 1, r => popMany n r.pop

/-- The innermost open element of a name closed, with those inside it; without one nothing
happens. -/
def close (r : Reading) (name : String) : Reading :=
  match r.stack.findIdx? fun e => e.1.name == name with
  | some depth => popMany (depth + 1) r
  | none => r

/-- A node that is no text, in place of its content. -/
def special (r : Reading) (cs : List Char) (node : String → Node) : Reading :=
  let r := r.flush
  r.add (node (r.content cs))

/-- One token read. -/
def token (r : Reading) : Token → Reading
  | .text value => { r with pending := r.pending ++ value }
  | .start name attrs closed =>
    let r := r.flush
    let tag : Tag := ⟨r.nextId, name, Attrs.ofTexts name attrs⟩
    let r := { r with stack := (tag, []) :: r.stack, nextId := r.nextId + 1 }
    if closed then r.pop
    else if voidNames.contains name then { r.pop with awaited := name :: r.awaited }
    else r
  | .finish name =>
    if r.awaited.contains name then { r with awaited := r.awaited.erase name }
    else r.flush.close name
  | .comment value => r.special value .comment
  | .doctype value => r.special value (.special .doctype)
  | .cdata value => r.special value (.special .cdata)
  | .declaration value => r.special value (.special .declaration)
  | .instruction value => r.special value (.special .instruction)

/-- All that is open closed. -/
def finish (r : Reading) : Reading := popMany r.stack.length r.flush

end Reading

/-- The nodes of a text, their identities from `nextId` on, and the next identity after them. -/
def read (nextId : Id) (s : String) : List Node × Id :=
  let r := ((tokens s).foldl Reading.token { nextId }).finish
  (r.top.reverse, r.nextId)

/-- The page that stands for an empty text. -/
def emptyPage : String := "<html><head><title></title></head><body></body></html>"

/-- A forest whose document is an HTML text.  A page without a body has an empty one added. -/
def document (html : String) : Forest :=
  let (nodes, nextId) := read (documentId + 1) (if html.isEmpty then emptyPage else html)
  let forest : Forest := { trees := [.element documentTag nodes], nextId }
  match forest.findName? "body" with
  | some _ => forest
  | none =>
    let (body, forest) := forest.create "body" [] []
    forest.append (((forest.findName? "html").map (·.tag.id)).getD documentId) body

end PageTape.Html
