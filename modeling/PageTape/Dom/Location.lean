import PageTape.Dom.Node

/-!
A location is an element together with everything around it: the elements that hold it, and its
siblings on both sides.  What depends on the place of an element is asked of its location.
-/

namespace PageTape.Dom

/-- What stands around a node: nothing, or a parent with the nodes before it (nearest first), the
nodes after it, and what stands around the parent. -/
inductive Context where
  | top
  | inside (parent : Tag) (before after : List Node) (outer : Context)
  deriving Repr, Inhabited

/-- An element in its surroundings. -/
structure Location where
  tag : Tag
  children : List Node
  context : Context
  deriving Repr, Inhabited

namespace Context

/-- The tags of the elements that hold the place, from the inside out. -/
def tags : Context → List Tag
  | top => []
  | inside parent _ _ outer => parent :: outer.tags

/-- The locations of the elements that hold a node, from the inside out. -/
def ancestors : Context → Node → List Location
  | top, _ => []
  | inside parent before after outer, node =>
    let children := before.reverse ++ node :: after
    ⟨parent, children, outer⟩ :: ancestors outer (.element parent children)

end Context

mutual
/-- The locations of the elements below a node in document order, the node's own included. -/
def locations (context : Context) : Node → List Location
  | .element tag children =>
    ⟨tag, children, context⟩ :: locationsList tag context [] children
  | _ => []

/-- The locations below the children of an element, those in `before` already passed. -/
def locationsList (parent : Tag) (outer : Context) (before : List Node) :
    List Node → List Location
  | [] => []
  | n :: rest =>
    locations (.inside parent before rest outer) n
      ++ locationsList parent outer (n :: before) rest
end

namespace Location

/-- The element itself. -/
def node (l : Location) : Node := .element l.tag l.children

/-- The locations below an element, in document order, without its own. -/
def descendants (l : Location) : List Location := locationsList l.tag l.context [] l.children

/-- The locations of the elements around an element, from the inside out. -/
def ancestors (l : Location) : List Location := l.context.ancestors l.node

/-- The location of the parent. -/
def parent? (l : Location) : Option Location := l.ancestors.head?

/-- An element and the elements around it, from the inside out. -/
def outward (l : Location) : List Location := l :: l.ancestors

/-- The outermost element around an element. -/
def root (l : Location) : Location := l.ancestors.getLast?.getD l

/-- The nodes before an element, nearest first. -/
def nodesBefore (l : Location) : List Node :=
  match l.context with
  | .top => []
  | .inside _ before _ _ => before

/-- The nodes after an element, nearest first. -/
def nodesAfter (l : Location) : List Node :=
  match l.context with
  | .top => []
  | .inside _ _ after _ => after

/-- The locations of the element siblings before, nearest first, given the siblings still to pass
and those already passed. -/
def before (parent : Tag) (outer : Context) (passed : List Node) : List Node → List Location
  | [] => []
  | n :: rest =>
    let others := before parent outer (n :: passed) rest
    match n with
    | .element tag children => ⟨tag, children, .inside parent rest passed outer⟩ :: others
    | _ => others

/-- The element siblings before an element, nearest first. -/
def elementsBefore (l : Location) : List Location :=
  match l.context with
  | .top => []
  | .inside parent nodes after outer => before parent outer (l.node :: after) nodes

/-- The tags of the element siblings before an element, nearest first. -/
def tagsBefore (l : Location) : List Tag := l.nodesBefore.filterMap Node.tag?

/-- The tags of the element siblings after an element, nearest first. -/
def tagsAfter (l : Location) : List Tag := l.nodesAfter.filterMap Node.tag?

/-- The text of the element. -/
def textContent (l : Location) : String := l.node.textContent

/-- The locations without those of an element that stands before them, or that was seen. -/
def distinct : List Id → List Location → List Location
  | _, [] => []
  | seen, l :: rest =>
    if seen.contains l.tag.id then distinct seen rest
    else l :: distinct (l.tag.id :: seen) rest

end Location

end PageTape.Dom
