import PageTape.Locator.Label

/-!
The controls of a page that submit a form.
-/

namespace PageTape.Form

open Dom Css

/-- A control of a name whose type is `submit`. -/
def submitTyped (name : String) : Selector :=
  .compound [.name none name, .attribute ⟨"type", some (.equals, "submit"), true⟩]

/-- The controls that submit by their type. -/
def submitSelectors : List Selector := [submitTyped "button", submitTyped "input"]

/-- A button without a type, which submits the form around it. -/
def untypedButton : List Selector :=
  [.compound [.name none "button", .noneOf [.compound [.attribute ⟨"type", none, false⟩]]]]

/-- The controls below an element that submit a form: those of a type that does, then the buttons
without a type in the forms there. -/
def submitControls (root : Location) : List Location :=
  let forms := selectAll [Locator.named "form"] root
  Location.distinct [] (selectAll submitSelectors root ++ forms.flatMap (selectAll untypedButton))

/-- What a control that submits is called: an input by its value, a button by its text. -/
def submitLabel (l : Location) : String :=
  if l.tag.lowerName == "input" then textOr (l.tag.attr? "value") "Submit"
  else textOr (some (Text.strip l.textContent)) "Submit"

/-- The click on a control that submits. -/
def submitAction (l : Location) : Action :=
  { selector := Locator.quick l
    smartSelectors := some (Locator.smart l)
    kind := .click
    label := some (submitLabel l) }

/-- The clicks that submit the forms below an element. -/
def submitActions (root : Location) : List Action := (submitControls root).map submitAction

end PageTape.Form
