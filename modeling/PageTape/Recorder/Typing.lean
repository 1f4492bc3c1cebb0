import PageTape.Recorder.Element

/-!
Text that is typed.  What is typed into one field without a pause becomes one step: the text waits
under the selector of its field until there has been no more of it for a while, or until something
else is recorded.  If the newest step has filled the same field, it takes the new text.
-/

namespace PageTape.Recorder

open Dom (Location)

/-- Keeps the text of an element until there is no more of it. -/
def awaitText (l : Location) : Act Unit :=
  modify fun r => match r.active with
    | none => r
    | some a =>
      let selector := Locator.quick l
      let typed : Typed := ⟨l.tag.id, l.value, r.clock.now⟩
      let (inputs, clock) :=
        a.inputs.schedule r.clock r.clock.now (.input selector) selector typed
      { r with clock, active := some { a with inputs } }

/-- The step that fills the field of a selector with a text. -/
def fillStep (p : Page) (selector : String) (typed : Typed) : Step :=
  let step : Step := {
    kind := .fill, timestamp := stampOf typed.since, selector := some selector
    value := some typed.value }
  match p.forest.locate? typed.element with
  | some l => describe l { step with required := some l.tag.isRequired }
  | none => step

/-- The step has done something of a kind to the element of a selector. -/
def isAbout (kind : StepKind) (selector : String) (step : Step) : Bool :=
  step.kind == kind && step.selector == some selector

/-- Records a text that was typed. -/
def recordText (p : Page) (selector : String) (typed : Typed) : Act Unit := do
  let r ← get
  if !r.isRecording then return
  match r.newest?.filter fun newest => isAbout .fill selector newest.2 with
  | some (position, _) =>
    let stamp := stampOf typed.since
    modify fun r => { r with lastUserActionAt := stamp }
    change position fun step => { step with value := some typed.value, timestamp := stamp }
  | none => discard <| addUserStep (fillStep p selector typed)

/-- Takes out the text that waits under a selector. -/
def takeText (selector : String) : Act (Option Typed) :=
  modifyGet fun r => match r.active with
    | none => (none, r)
    | some a => match a.inputs.take? r.clock selector with
      | none => (none, r)
      | some (typed, inputs, clock) =>
        (some typed, { r with clock, active := some { a with inputs } })

/-- Records the text that waits under a selector. -/
def recordWaiting (p : Page) (selector : String) : Act Unit := do
  match ← takeText selector with
  | some typed => recordText p selector typed
  | none => return

/-- Records every text that waits, in the order of the last event of each. -/
def recordAllWaiting (p : Page) : Act Unit := do
  match (← get).active with
  | some a => a.inputs.waiting.forM fun w => recordWaiting p w.key
  | none => return

/-- The timer of a text has gone off. -/
def wakeText (p : Page) (selector : String) : Act Unit := do
  let typed ← modifyGet fun r => match r.active with
    | none => (none, r)
    | some a =>
      let (typed, inputs, clock) :=
        a.inputs.wake r.clock r.clock.now (.input selector) selector
      (typed, { r with clock, active := some { a with inputs } })
  match typed with
  | some typed => recordText p selector typed
  | none => return

end PageTape.Recorder
