import PageTape.Dom.Forest
import PageTape.Text.Case

/-!
Form controls: their type, value and checked state, and how these are changed.
-/

namespace PageTape.Dom

/-- A text without upper case, names being compared that way. -/
def Tag.lowerName (t : Tag) : String := Text.lower t.name

/-- A text that is not empty, else another. -/
def textOr (text : Option String) (other : String) : String :=
  match text with
  | some s => if s.isEmpty then other else s
  | none => other

/-- The type of a control: that of its attribute, else `submit` for a button and `text` for all
others. -/
def Tag.inputType (t : Tag) : String :=
  Text.lower (textOr (t.attr? "type") (if t.lowerName == "button" then "submit" else "text"))

/-- The element can be edited in place. -/
def Tag.isEditable (t : Tag) : Bool := t.isAttr "contenteditable" "true"

/-- The names of the elements that are form fields. -/
def fieldNames : List String := ["input", "select", "textarea"]

/-- The element is a form field. -/
def Tag.isFormField (t : Tag) : Bool :=
  fieldNames.contains (t.name.map Char.toLower)
    || t.attrs.any fun a => a.1.map Char.toLower == "contenteditable" && a.2.toText == "true"

/-- The control is checked. -/
def Tag.isChecked (t : Tag) : Bool := t.has "checked"

/-- The field must be filled in. -/
def Tag.isRequired (t : Tag) : Bool := t.has "required" || t.isAttr "aria-required" "true"

/-- The input is a box or a button that is checked rather than filled in. -/
def isCheckType (type : String) : Bool := type == "checkbox" || type == "radio"

/-- The text of an element without blanks at its ends. -/
def Node.strippedText (n : Node) : String := Text.strip n.textContent

/-- The options of a select. -/
def Node.options (n : Node) : List Node :=
  n.descendants.filter fun e => e.tag?.any (·.name == "option")

/-- The value of an option: that of its attribute, else its text. -/
def Node.optionValue (n : Node) : String :=
  ((n.tag?.bind (·.attr? "value"))).getD n.strippedText

/-- An option that is selected. -/
def Node.isSelected (n : Node) : Bool := n.tag?.any (·.has "selected")

namespace Location

/-- The value of a control: of a select its first selected option's, else its first option's; of a
text area or an editable element its text. -/
def value (l : Location) : String :=
  if l.tag.lowerName == "select" then
    let options := l.node.options
    match options.find? Node.isSelected with
    | some option => option.optionValue
    | none => (options.head?.map Node.optionValue).getD ""
  else if l.tag.lowerName == "textarea" || l.tag.isEditable then l.textContent
  else (l.tag.attr? "value").getD ""

end Location

namespace Forest

/-- The forest with a control checked or not. -/
def setChecked (f : Forest) (id : Id) (checked : Bool) : Forest :=
  if checked then f.setAttr id "checked" "" else f.eraseAttr id "checked"

/-- The forest with the options of a select selected that have a value, and no others. -/
def selectOptions (f : Forest) (value : String) (options : List Node) : Forest :=
  options.foldl (fun f option => match option.tag? with
    | some tag =>
      if option.optionValue == value then f.setAttr tag.id "selected" ""
      else f.eraseAttr tag.id "selected"
    | none => f) f

/-- The forest with the value of a control changed. -/
def setValue (f : Forest) (id : Id) (value : String) : Forest :=
  match f.locate? id with
  | none => f
  | some l =>
    if l.tag.lowerName == "select" then f.selectOptions value l.node.options
    else if l.tag.lowerName == "textarea" || l.tag.isEditable then f.setText id value
    else f.setAttr id "value" value

end Forest

end PageTape.Dom
