import PageTape.Css.Escape
import PageTape.Dom.Control

/-!
The selector that a recording knows an element by: its id, a test id, its name, or else its place,
told by the names of the elements around it up to the nearest one with an id.
-/

namespace PageTape.Locator

open Dom

/-- An attribute with a value, as a selector asks for it. -/
def attrOf (name value : String) : String := s!"[{name}=\"{Css.escape value}\"]"

/-- The element with an id, as a selector asks for it. -/
def ident (value : String) : String := "#" ++ Css.escape value

/-- An attribute that is there and not empty. -/
def given? (tag : Tag) (name : String) : Option String :=
  (tag.attr? name).filter (!·.isEmpty)

/-- The position of an element among its siblings of the same name, counted from one, if it has
such siblings.  At the top of a document an element has none. -/
def position? (l : Location) : Option Nat :=
  match l.context with
  | .top => none
  | .inside parent _ _ _ =>
    let same := fun (tags : List Tag) => (tags.filter (·.name == l.tag.name)).length
    let before := same l.tagsBefore
    if parent.isDocument || before + same l.tagsAfter == 0 then none else some (before + 1)

/-- An element by its name and its position. -/
def component (l : Location) : String :=
  match position? l with
  | some n => s!"{l.tag.lowerName}:nth-of-type({n})"
  | none => l.tag.lowerName

/-- The components for elements from the inside out, up to the body, the document or the first
element with an id. -/
def componentsFrom : List Location → List String
  | [] => []
  | l :: rest =>
    if l.tag.isDocument || l.tag.lowerName == "body" then []
    else if l.tag.ident.isEmpty then component l :: componentsFrom rest
    else [ident l.tag.ident]

/-- The place of an element. -/
def structural (l : Location) : String :=
  textOr (some (String.intercalate " > " (componentsFrom l.outward).reverse))
    (textOr (some l.tag.lowerName) "*")

/-- The attributes that hold a test id for a plain selector. -/
def testIdNames : List String := ["data-testid", "data-test-id"]

/-- The selector of an element. -/
def quick (l : Location) : String :=
  if !l.tag.ident.isEmpty then ident l.tag.ident
  else match testIdNames.findSome? fun n => (given? l.tag n).map (attrOf n) with
    | some selector => selector
    | none => match given? l.tag "name" with
      | some name => l.tag.lowerName ++ attrOf "name" name
      | none => structural l

end PageTape.Locator
