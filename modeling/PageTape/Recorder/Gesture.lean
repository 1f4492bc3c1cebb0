import PageTape.Recorder.Typing

/-!
What a user does on a page, recorded as it happens.  Everything but typing first records the text
that waits, so that the steps keep the order of what was done.
-/

namespace PageTape.Recorder

open Dom (Location)

/-- Records a gesture on an element, or one without. -/
def record (l : Option Location) (step : Step) : Act Unit :=
  discard <| addUserStep (match l with
    | some l => describe l step
    | none => step)

/-- A step of a kind at the time it is. -/
def stepNow (kind : StepKind) : Act Step := return { kind, timestamp := (← get).now }

/-! ### Controls -/

/-- Records the option chosen in a select; if the newest step has chosen one there, it takes the
new value. -/
def recordChoice (p : Page) (l : Location) : Act Unit := do
  recordAllWaiting p
  let selector := Locator.quick l
  let value := l.value
  match (← get).newest?.filter fun newest => isAbout .select selector newest.2 with
  | some (position, newest) =>
    if newest.value != some value then
      change position fun step => { step with value := some value }
  | none =>
    record l { (← stepNow .select) with
      selector := some selector, value := some value, required := some l.tag.isRequired }

/-- Records that a box is checked or not. -/
def recordBox (p : Page) (l : Location) : Act Unit := do
  recordAllWaiting p
  record l { (← stepNow (if l.tag.isChecked then .check else .uncheck)) with
    required := some l.tag.isRequired }

/-- Records that a radio button is chosen. -/
def recordRadio (p : Page) (l : Location) : Act Unit := do
  recordAllWaiting p
  record l { (← stepNow .check) with
    value := some l.value, required := some l.tag.isRequired }

/-- The value of a control has changed by the user. -/
def onInput (p : Page) (event : Page.Event) : Act Unit := do
  match ← accepted? p event with
  | none => return
  | some l => match controlKind? l.tag with
    | some .choice => recordChoice p l
    | some .box => recordBox p l
    | some .radio => recordRadio p l
    | some .text => awaitText l
    | none => return

/-- The value of a control has changed for good, which says something new of a select only. -/
def onChange (p : Page) (event : Page.Event) : Act Unit := do
  match ← accepted? p event with
  | none => return
  | some l => if l.tag.lowerName == "select" then recordChoice p l

/-! ### Forms -/

/-- The step that gives a field the value it has, if it has one. -/
def snapshot? (l : Location) (selector : String) (now : Int) : Option Step :=
  let value := l.value
  let step (kind : StepKind) : Step := describe l {
    kind, timestamp := now, selector := some selector, required := some l.tag.isRequired }
  let filled (kind : StepKind) : Option Step :=
    if value.isEmpty then none else some { step kind with value := some value }
  match controlKind? l.tag with
  | some .choice => filled .select
  | some .box => if l.tag.isChecked then some (step .check) else none
  | some .radio =>
    if l.tag.isChecked then some { step .check with value := some value } else none
  | some .text => filled .fill
  | none => none

/-- Records the values of fields that can be seen and are not among those known. -/
def recordFields : List String → List Location → Act Unit
  | _, [] => return
  | known, l :: rest => do
    let selector := Locator.quick l
    if (← leavesAlone l) || !l.isVisible || known.contains selector then recordFields known rest
    else
      match snapshot? l selector (← get).now with
      | some step =>
        let added ← addUserStep step
        recordFields (if added then selector :: known else known) rest
      | none => recordFields known rest

/-- The fields of a form. -/
def formFields (form : Location) : List Location :=
  Css.selectAll (Dom.fieldNames.map Locator.named) form

/-- Records the values of the fields of a form that no step so far has given them. -/
def recordForm (form : Location) : Act Unit := do
  let known := (← get).steps.filterMap fun step =>
    if step.kind.givesValue then nonempty? step.selector else none
  recordFields known (formFields form)

/-- A text of this length names a click. -/
def clickLabelLength : Nat := 80

/-- An element that is no field is clicked.  A button that submits a form records the form
first. -/
def onClick (p : Page) (event : Page.Event) : Act Unit := do
  match ← accepted? p event with
  | none => return
  | some l =>
    if l.tag.isFormField then return
    recordAllWaiting p
    let text := Text.strip l.textContent
    if l.tag.lowerName == "button" && l.tag.inputType == "submit" then
      match Css.closest? [Locator.named "form"] l with
      | some form => recordForm form
      | none => pure ()
      record l { (← stepNow .submit) with label := nonempty? (some text) }
    else
      let label := String.ofList (text.toList.take clickLabelLength)
      record l { (← stepNow .click) with label := nonempty? (some label) }

/-- The newest step is a submit of just now. -/
def hasJustSubmitted (r : Recorder) : Bool :=
  r.newest?.any fun (_, step) =>
    step.kind == .submit && r.now - step.timestamp < r.config.submitWindow

/-- A form is submitted.  Right after another submit, this is what that one has done. -/
def onSubmit (p : Page) (event : Page.Event) : Act Unit := do
  match ← accepted? p event with
  | none => return
  | some form =>
    recordAllWaiting p
    if hasJustSubmitted (← get) then return
    recordForm form
    record form { (← stepNow .submit) with
      url := form.tag.attr? "action", label := some "Form submit" }

/-! ### Keys and addresses -/

/-- The keys that are recorded. -/
def recordedKeys : List String := ["Enter", "Escape", "Tab"]

/-- A key is pressed, on an element or on none. -/
def onKeyDown (p : Page) (event : Page.Event) : Act Unit := do
  if !(← get).isRecording || !event.key.any recordedKeys.contains then return
  let l := event.target.element?.bind p.forest.locate?
  if let some l := l then
    if ← leavesAlone l then return
  recordAllWaiting p
  record l { (← stepNow .pressKey) with key := event.key }

/-- Records something that happens to the page as a whole. -/
def recordPage (p : Page) (kind : StepKind) (f : Step → Step) : Act Unit := do
  if !(← get).isRecording then return
  recordAllWaiting p
  record none (f { (← stepNow kind) with url := some p.url })

/-- The page is left. -/
def onLeave (p : Page) : Act Unit :=
  recordPage p .navigate fun step => { step with label := some "Page navigation" }

/-- The fragment of the address has changed. -/
def onHashChange (p : Page) : Act Unit :=
  recordPage p .waitForUrl fun step =>
    { step with value := some (Page.hashOf p.url), label := some "URL hash changed" }

/-- The address has changed by a move in the history. -/
def onPopState (p : Page) : Act Unit :=
  recordPage p .waitForUrl fun step => { step with label := some "URL changed (popstate)" }

/-! ### All events -/

/-- The events of a document that are recorded. -/
def documentEvents : List String := ["input", "change", "click", "submit", "keydown"]

/-- The events of a window that are recorded. -/
def windowEvents : List String := ["beforeunload", "hashchange", "popstate"]

/-- Records an event. -/
def hear (p : Page) (event : Page.Event) : Act Unit :=
  match event.type with
  | "input" => onInput p event
  | "change" => onChange p event
  | "click" => onClick p event
  | "submit" => onSubmit p event
  | "keydown" => onKeyDown p event
  | "beforeunload" => onLeave p
  | "hashchange" => onHashChange p
  | "popstate" => onPopState p
  | _ => return

end PageTape.Recorder
