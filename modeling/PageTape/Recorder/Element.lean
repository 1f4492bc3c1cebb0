import PageTape.Recorder.State
import PageTape.Locator.Label
import PageTape.Dom.Visible

/-!
What a recorder asks of the elements that events come from: whether they belong to a tool and are
left alone, and how a step describes them.
-/

namespace PageTape.Recorder

open Dom (Id Location)

/-- The element is in one that belongs to a tool. -/
def isOwn (config : Config) (l : Location) : Except Fault Bool :=
  config.ownSelectors.anyM fun selector => (·.isSome) <$> l.closest? selector

/-- The element is in one that belongs to a tool; asking fails where a selector of the
configuration cannot be read. -/
def leavesAlone (l : Location) : Act Bool := do
  liftExcept (isOwn (← get).config l)
where
  /-- A result that was found without the state. -/
  liftExcept {α : Type} : Except Fault α → Act α
    | .ok a => return a
    | .error fault => throw fault

/-- The element that an event comes from, if the recorder is at work and the element is not left
alone. -/
def accepted? (p : Page) (event : Page.Event) : Act (Option Location) := do
  if !(← get).isRecording then return none
  match event.target.element?.bind p.forest.locate? with
  | none => return none
  | some l => return if ← leavesAlone l then none else some l

/-- A step with its element described: a selector and a label, where it has none yet, and the
alternative selectors. -/
def describe (l : Location) (step : Step) : Step :=
  { step with
    selector := some (step.selector.getD (Locator.quick l))
    smartSelectors := some (Locator.smart l)
    label := step.label.orElse fun _ => Locator.label? l }

/-- The names of the inputs that are buttons. -/
def buttonTypes : List String := ["submit", "button", "reset", "image"]

/-- How a control is given its value. -/
inductive ControlKind where
  | choice | box | radio | text
  deriving DecidableEq, Repr, Inhabited

/-- How an input element is given its value; a button has none. -/
def inputKind? (type : String) : Option ControlKind :=
  if type == "checkbox" then some .box
  else if type == "radio" then some .radio
  else if buttonTypes.contains type then none
  else some .text

/-- How an element is given a value by the user, if it can be. -/
def controlKind? (tag : Dom.Tag) : Option ControlKind :=
  if tag.lowerName == "select" then some .choice
  else if tag.lowerName == "input" then inputKind? tag.inputType
  else if tag.lowerName == "textarea" || tag.isEditable then some .text
  else none

end PageTape.Recorder
