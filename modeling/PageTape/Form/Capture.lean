import PageTape.Locator.Smart
import PageTape.Recording.Codec

/-!
Actions from fields found on a page and values chosen for them.  Fields and values come from
different sources and are brought together by the selector of the field.
-/

namespace PageTape.Form

open Dom

/-- A field that was found on a page. -/
structure Field where
  selector : String
  element : Option Location := none
  label : Option String := none
  name : Option String := none
  ident : Option String := none
  fieldType : Option String := none
  required : Bool := false
  deriving Inhabited

/-- A value chosen for the field of a selector, not yet known to be text. -/
structure Choice where
  selector : String
  value : Datum
  deriving Repr, Inhabited

/-- What is done to a control to give it a value. -/
def actionKind (l : Location) : ActionKind :=
  let type := l.tag.inputType
  match l.tag.lowerName with
  | "select" => .select
  | "input" =>
    if type == "checkbox" then if l.tag.isChecked then .check else .uncheck
    else if type == "radio" then .radio
    else if type == "submit" then .submit
    else .fill
  | "button" => if type == "submit" then .submit else .fill
  | _ => .fill

/-- What a field is called: its label, else its name, else its id. -/
def Field.title? (f : Field) : Option String :=
  [f.label, f.name, f.ident].findSome? nonempty?

/-- The action that gives a field a value. -/
def Field.action (f : Field) (value : String) : Action :=
  { selector := f.selector, value
    kind := (f.element.map actionKind).getD .fill
    label := f.title?
    fieldType := f.fieldType
    required := some f.required
    smartSelectors := some ((f.element.map Locator.smart).getD []) }

/-- The action for a choice, if there is a field for it.  Of several fields with one selector the
last counts. -/
def Choice.action? (c : Choice) (fields : List Field) : Option (Checked Action) :=
  (fields.reverse.find? fun f => f.selector == c.selector).map fun f =>
    ((Check.prose c.value).within (.key "value")).map f.action

/-- The actions for chosen values, up to the first value that is no text. -/
def collect : List (Checked Action) → Checked (List Action)
  | [] => .good []
  | action :: rest => action.andThen fun a => (collect rest).map (a :: ·)

/-- The actions for the chosen values, in their order; a value without a field is dropped. -/
def actions (fields : List Field) (choices : List Choice) : Checked (List Action) :=
  collect (choices.filterMap (·.action? fields))

end PageTape.Form
