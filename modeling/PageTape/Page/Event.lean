import PageTape.Dom.Forest

/-!
Events and those who listen to them.  An event goes to the listeners of its type in the order in
which they were registered, those that capture first.
-/

namespace PageTape.Page

open Dom (Id)

/-- Where an event comes from. -/
inductive Target where
  | element (id : Id)
  | document
  | window
  deriving DecidableEq, Repr, Inhabited

/-- The element that an event comes from. -/
def Target.element? : Target → Option Id
  | element id => some id
  | _ => none

/-- An event, with the key that was pressed. -/
structure Event where
  type : String
  target : Target
  key : Option String := none
  deriving DecidableEq, Repr, Inhabited

/-- What a function of the page does when it is called, besides being noted. -/
inductive Behaviour where
  | watch | fail | prevent
  deriving DecidableEq, Repr, Inhabited

/-- Who listens: a function of the page, known by its name, or the recorder. -/
inductive Listener where
  | page (name : String)
  | recorder
  deriving DecidableEq, Repr, Inhabited

/-- A listener for a type of event. -/
structure Registration where
  type : String
  listener : Listener
  capture : Bool
  deriving DecidableEq, Repr, Inhabited

/-- The listeners of one event target, in the order of their registration. -/
abbrev Listeners := List Registration

namespace Listeners

/-- With a listener more, unless it is there already. -/
def add (ls : Listeners) (r : Registration) : Listeners := if ls.contains r then ls else ls ++ [r]

/-- Without a listener. -/
def remove (ls : Listeners) (r : Registration) : Listeners := ls.filter (· != r)

/-- The listeners for a type of event, in the order in which they are called. -/
def called (ls : Listeners) (type : String) : List Listener :=
  let mine := ls.filter (·.type == type)
  (mine.filter (·.capture) ++ mine.filter (!·.capture)).map (·.listener)

/-- How many listen, to one type of event or to any. -/
def count (ls : Listeners) (type : Option String) : Nat :=
  match type with
  | some t => (ls.filter (·.type == t)).length
  | none => ls.length

end Listeners

end PageTape.Page
