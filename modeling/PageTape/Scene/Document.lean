import PageTape.Scene.Deliver
import PageTape.Dom.Control

/-!
What happens to the elements of a page: changes that the page makes itself, and what a user does
with its controls.
-/

namespace PageTape.Scene

open Dom (Id Forest Location)

/-! ### Changes -/

/-- The page puts an element last into another. -/
def append (parent child : Id) : Act Unit := do
  if parent == child then throw .selfInsertion
  changeForest (·.append parent child)
  notify parent (.children [child] [])

/-- The page makes an element of an HTML text and puts it last into another. -/
def appendHtml (parent : Id) (html : String) : Act Id := do
  let (child, forest) ← ofExcept ((← get).page.forest.addFragment html)
  changeForest fun _ => forest
  append parent child
  return child

/-- The page makes an element that is in no other. -/
def create (name : String) (attrs : List (String × String)) (text : Option String) : Act Id := do
  let children := (text.map fun t => Dom.Node.text .plain t).toList
  let (id, forest) := (← get).page.forest.create name (Dom.Attrs.ofTexts name attrs) children
  changeForest fun _ => forest
  return id

/-- The page takes an element out of the one that holds it. -/
def remove (id : Id) : Act Unit := do
  match ((← get).page.forest.locate? id).bind (·.parent?) with
  | none => return
  | some parent =>
    changeForest (·.detach id)
    notify parent.tag.id (.children [] [id])

/-- The page sets an attribute. -/
def setAttr (id : Id) (name value : String) : Act Unit := do
  changeForest (·.setAttr id name value)
  notify id (.attr name)

/-- The page takes away an attribute that is there. -/
def eraseAttr (id : Id) (name : String) : Act Unit := do
  if ((← get).page.forest.locate? id).any (·.tag.has name) then
    changeForest (·.eraseAttr id name)
    notify id (.attr name)

/-- The whole page is replaced, which nobody is told of. -/
def load (html : String) : Act Unit := do
  let (fault, forest) := (← get).page.forest.load html
  changeForest fun _ => forest
  match fault with
  | some fault => throw fault
  | none => return

/-! ### Controls -/

/-- An element as it is now. -/
def located (id : Id) : Act (Option Location) := return (← get).page.forest.locate? id

/-- No radio button of the group that an element belongs to is chosen any more. -/
def clearGroup (f : Forest) (l : Location) : Forest :=
  match Locator.given? l.tag "name" with
  | none => f
  | some group =>
    let radios := f.document.descendants.filter fun r =>
      r.tag.name.map Char.toLower == "input"
        && r.tag.attrs.any (fun a => a.1.map Char.toLower == "type"
          && a.2.toText.map Char.toLower == "radio")
        && r.tag.isAttr "name" group
    radios.foldl (fun f r => f.setChecked r.tag.id false) f

/-- What is checked when an element is clicked: a box changes, a radio button is chosen. -/
inductive Toggle where
  | none | box | radio
  deriving DecidableEq, Repr, Inhabited

/-- What a click does to the state of an element. -/
def toggleOf (tag : Dom.Tag) : Toggle :=
  if tag.lowerName != "input" then .none
  else if tag.inputType == "checkbox" then .box
  else if tag.inputType == "radio" then .radio
  else .none

/-- The forest after an element is clicked. -/
def toggle (f : Forest) (l : Location) : Forest :=
  match toggleOf l.tag with
  | .none => f
  | .box => f.setChecked l.tag.id !l.tag.isChecked
  | .radio => (clearGroup f l).setChecked l.tag.id true

/-- A click on the element submits the form around it. -/
def submitsForm (tag : Dom.Tag) : Bool :=
  (tag.lowerName == "button" && tag.inputType == "submit")
    || (tag.lowerName == "input" && (tag.inputType == "submit" || tag.inputType == "image"))

/-- The user submits a form. -/
def submit (form : Id) : Act Unit := discard <| fire "submit" form none

/-- The user gives a control its value at once. -/
def enter (id : Id) (value : String) : Act Unit := do
  changeForest (·.setValue id value)
  discard <| fire "input" id none

/-- The user types characters after a value. -/
def typeFrom (id : Id) (value : String) : List Char → Act Unit
  | [] => return
  | c :: rest => do
    enter id (value.push c)
    typeFrom id (value.push c) rest

/-- The user types a text after what a control holds. -/
def typeText (id : Id) (text : String) : Act Unit := do
  match ← located id with
  | none => return
  | some l => typeFrom id l.value text.toList

/-- The user fills a control, or chooses an option of a select. -/
def fill (id : Id) (value : String) : Act Unit := do
  enter id value
  discard <| fire "change" id none

/-- The user clicks an element. -/
def click (id : Id) : Act Unit := do
  match ← located id with
  | none => return
  | some l =>
    changeForest (toggle · l)
    if ← fire "click" id none then
      if toggleOf l.tag != .none then
        discard <| fire "input" id none
        discard <| fire "change" id none
      else if submitsForm l.tag then
        match (← located id).bind (Css.closest? [Locator.named "form"]) with
        | some form => submit form.tag.id
        | none => return

/-- The user presses a key. -/
def press (id : Id) (key : String) : Act Unit := discard <| fire "keydown" id (some key)

/-- The forest with a control brought to the state that it has in a browser: of a box or a radio
button whether it is checked, of all other fields the value. -/
def syncControl (f : Forest) (l : Location) (value : Option String) (checked : Option Bool) :
    Forest :=
  match toggleOf l.tag, checked, value with
  | .none, _, some value => if l.tag.isFormField then f.setValue l.tag.id value else f
  | .none, _, none => f
  | _, none, _ => f
  | .box, some checked, _ => f.setChecked l.tag.id checked
  | .radio, some checked, _ =>
    (if checked then clearGroup f l else f).setChecked l.tag.id checked

/-- Brings a control to the state that it has in a browser; nobody is told. -/
def sync (id : Id) (value : Option String) (checked : Option Bool) : Act Unit := do
  match ← located id with
  | none => return
  | some l => changeForest fun f => syncControl f l value checked

/-! ### The address -/

/-- The page is left for another address. -/
def navigate (url : String) : Act Unit := do
  discard <| deliver .window { type := "beforeunload", target := .window }
  changePage fun p => { p with url }

/-- The fragment of the address changes. -/
def setHash (fragment : String) : Act Unit := do
  changePage fun p => { p with url := Page.urlWithHash p.url fragment }
  discard <| deliver .window { type := "hashchange", target := .window }

/-- The user moves in the history. -/
def popState (url : String) : Act Unit := do
  changePage fun p => { p with url }
  discard <| deliver .window { type := "popstate", target := .window }

end PageTape.Scene
