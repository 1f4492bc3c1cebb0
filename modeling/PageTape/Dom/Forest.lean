import PageTape.Dom.Location

/-!
The nodes that a page has made: the tree of its document, and the trees of elements that are not in
the document.  Elements are known by their identity, which is given out once and outlives every
edit.
-/

namespace PageTape.Dom

/-- The identity of the document, the element that holds a whole page. -/
def documentId : Id := 0

/-- The tag of the document. -/
def documentTag : Tag := { id := documentId, name := "[document]" }

/-- The tag belongs to the document itself, which is no element of the page. -/
def Tag.isDocument (t : Tag) : Bool := t.id == documentId

namespace Node

mutual
/-- The node with the element of an identity rewritten. -/
def rewrite (id : Id) (f : Tag → List Node → List Node) : Node → List Node
  | element tag children =>
    if tag.id == id then f tag children else [element tag (rewriteList id f children)]
  | text kind value => [text kind value]
  | comment value => [comment value]
  | special kind value => [special kind value]

/-- The nodes with the element of an identity rewritten. -/
def rewriteList (id : Id) (f : Tag → List Node → List Node) : List Node → List Node
  | [] => []
  | n :: rest => rewrite id f n ++ rewriteList id f rest
end

end Node

/-- All nodes of a page.  The first tree is the document. -/
structure Forest where
  trees : List Node := [.element documentTag []]
  nextId : Id := documentId + 1
  deriving Repr, Inhabited

namespace Forest

/-- The locations of all elements, the document first. -/
def locations (f : Forest) : List Location := f.trees.flatMap (Dom.locations .top)

/-- The location of an element. -/
def locate? (f : Forest) (id : Id) : Option Location := f.locations.find? fun l => l.tag.id == id

/-- The location of the document. -/
def document (f : Forest) : Location :=
  (f.locate? documentId).getD ⟨documentTag, [], .top⟩

/-- The first element of a name in the document. -/
def findName? (f : Forest) (name : String) : Option Location :=
  f.document.descendants.find? fun l => l.tag.name == name

/-- The forest with the element of an identity rewritten. -/
def rewrite (f : Forest) (id : Id) (g : Tag → List Node → List Node) : Forest :=
  { f with trees := Node.rewriteList id g f.trees }

/-- The forest with the tag of an element changed; its identity stays. -/
def changeTag (f : Forest) (id : Id) (g : Tag → Tag) : Forest :=
  f.rewrite id fun tag children => [.element { g tag with id := tag.id } children]

/-- The forest with an attribute of an element set to a text. -/
def setAttr (f : Forest) (id : Id) (name value : String) : Forest :=
  f.changeTag id (·.set name (.text value))

/-- The forest without an attribute of an element. -/
def eraseAttr (f : Forest) (id : Id) (name : String) : Forest := f.changeTag id (·.erase name)

/-- An element taken out of its place: the element, and the forest without it. -/
def take? (f : Forest) (id : Id) : Option (Node × Forest) :=
  (f.locate? id).map fun l => (l.node, f.rewrite id fun _ _ => [])

/-- The forest with a tree of its own more. -/
def addTree (f : Forest) (tree : Node) : Forest := { f with trees := f.trees ++ [tree] }

/-- The forest with an element out of its parent, a tree of its own. -/
def detach (f : Forest) (id : Id) : Forest :=
  match f.take? id with
  | some (tree, rest) => rest.addTree tree
  | none => f

/-- The forest with an element moved into another one by `place`, which puts it among the children
there.  An element that holds the other one stays apart. -/
def move (f : Forest) (id parent : Id) (place : Node → List Node → List Node) : Forest :=
  match f.take? id with
  | none => f
  | some (tree, rest) =>
    match rest.locate? parent with
    | some _ => rest.rewrite parent fun tag children => [.element tag (place tree children)]
    | none => rest.addTree tree

/-- The forest with an element as the last child of another. -/
def append (f : Forest) (parent child : Id) : Forest :=
  f.move child parent fun tree children => children ++ [tree]

/-- The forest with an element as the first child of another. -/
def prepend (f : Forest) (parent child : Id) : Forest :=
  f.move child parent fun tree children => tree :: children

/-- The forest with other children for an element; the element children it had become trees of
their own. -/
def replaceChildren (f : Forest) (id : Id) (children : List Node) : Forest :=
  match f.locate? id with
  | none => f
  | some l =>
    let loose := l.children.filter fun n => n.tag?.isSome
    let changed := f.rewrite id fun tag _ => [.element tag children]
    { changed with trees := changed.trees ++ loose }

/-- The forest with a text as the only child of an element. -/
def setText (f : Forest) (id : Id) (value : String) : Forest :=
  f.replaceChildren id [.text .plain value]

/-- The forest with a new element, not yet in the document, and its identity. -/
def create (f : Forest) (name : String) (attrs : Attrs) (children : List Node) : Id × Forest :=
  let id := f.nextId
  (id, { f with nextId := id + 1, trees := f.trees ++ [.element ⟨id, name, attrs⟩ children] })

end Forest

end PageTape.Dom
