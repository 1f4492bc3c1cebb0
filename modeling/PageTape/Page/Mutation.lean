import PageTape.Page.Event

/-!
Changes of the elements of a page and those who watch for them.
-/

namespace PageTape.Page

open Dom (Id Forest)

/-- What has changed at an element: its children, or one of its attributes. -/
inductive Change where
  | children (added removed : List Id)
  | attr (name : String)
  deriving DecidableEq, Repr, Inhabited

/-- A change and the element that changed. -/
structure Mutation where
  target : Id
  change : Change
  deriving DecidableEq, Repr, Inhabited

namespace Mutation

/-- The elements that were added. -/
def added (m : Mutation) : List Id :=
  match m.change with
  | .children added _ => added
  | .attr _ => []

/-- The elements that were removed. -/
def removed (m : Mutation) : List Id :=
  match m.change with
  | .children _ removed => removed
  | .attr _ => []

end Mutation

/-- Who watches: a function of the page, known by its name, or the recorder. -/
inductive Observer where
  | page (name : String)
  | recorder
  deriving DecidableEq, Repr, Inhabited

/-- What an observer watches: an element, or everything below it too; its children, its
attributes, or only some of these. -/
structure Watch where
  observer : Observer
  root : Option Id
  subtree : Bool := false
  children : Bool := true
  attributes : Bool := false
  filter : List String := []
  deriving DecidableEq, Repr, Inhabited

namespace Watch

/-- The watch is for this kind of change. -/
def wants (w : Watch) (change : Change) : Bool :=
  match change with
  | .children _ _ => w.children
  | .attr name => w.attributes && (w.filter.isEmpty || w.filter.contains name)

/-- The watch covers an element as the page stands. -/
def covers (w : Watch) (forest : Forest) (target : Id) : Bool :=
  match w.root with
  | none => false
  | some root =>
    root == target
      || w.subtree && ((forest.locate? target).any fun l => l.context.tags.any (·.id == root))

/-- The watch notices a change. -/
def sees (w : Watch) (forest : Forest) (m : Mutation) : Bool :=
  w.wants m.change && w.covers forest m.target

end Watch

/-- The watches of a page with another one: in place of an earlier one of the same observer. -/
def addWatch (w : Watch) : List Watch → List Watch
  | [] => [w]
  | v :: rest => if v.observer = w.observer then w :: rest else v :: addWatch w rest

end PageTape.Page
