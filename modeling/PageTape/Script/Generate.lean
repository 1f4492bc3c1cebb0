import PageTape.Script.Dialect

/-!
From actions or recorded steps to a script: which are written, where a pause stands, where the part
that submits begins, and the test that leaves required fields empty.
-/

namespace PageTape.Script

/-- The line that opens the page, if a URL is given. -/
def Dialect.opening (d : Dialect) (o : Options) : List Line :=
  match nonempty? o.pageUrl with
  | some url => d.indented [d.navigate url] ++ [.blank]
  | none => []

/-- The lines of an action. -/
def Dialect.actionLines (d : Dialect) (o : Options) (a : Action) : List Line :=
  d.labelled [d.interact (ActionKind.gesture a.kind) (actionSelector o a) a.value] a.label

/-- A timeout; zero stands for none. -/
def timeoutOr (timeout : Option Int) (default : Int) : Int :=
  match timeout with
  | some 0 => default
  | some t => t
  | none => default

/-- The lines of a step. -/
def Dialect.stepLines (d : Dialect) (o : Options) (s : Step) : List Line :=
  let selector := stepSelector o s
  let gesture := fun (g : Gesture) => [d.interact g selector (s.value.getD "")]
  let label := fun (statements : List (List Piece)) => d.labelled statements s.label
  match s.kind with
  | .navigate => label [d.navigate (s.url.getD "")]
  | .pressKey => label [d.pressKey (s.key.getD "") selector]
  | .waitForElement => label (d.wait (.visible selector (timeoutOr s.waitTimeout 5000)))
  | .waitForHidden => label (d.wait (.hidden selector (timeoutOr s.waitTimeout 10000)))
  | .waitForUrl => label (d.wait (.url (orText s.url (s.value.getD ""))))
  | .waitForNetworkIdle => label (d.wait .networkIdle)
  | .scroll =>
    let p := s.scrollPosition.getD {}
    label [d.scroll p.x p.y]
  | .assert => match s.assertion with
    | some a => d.indented (d.assertion a)
    | none => label [[.remark, .code " assert"]]
  | .fill => label (gesture .fill)
  | .select => label (gesture .select)
  | .check => label (gesture .check)
  | .uncheck => label (gesture .uncheck)
  | .click => label (gesture .click)
  | .submit => label (gesture .submit)
  | .hover => label (gesture .hover)
  | .clear => label (gesture .clear)

/-- The lines of the assertions that the options ask for. -/
def Dialect.assertionBlock (d : Dialect) (o : Options) : List Line :=
  if o.includeAssertions && !o.assertions.isEmpty then
    [.blank, d.remark "Assertions"] ++ o.assertions.flatMap fun a => d.indented (d.assertion a)
  else []

/-- The body of the test that leaves required fields empty, if any field is required. -/
def Dialect.negativeBody (d : Dialect) (o : Options) (actions : List Action) :
    Option (List Line) :=
  let required := actions.filter fun a => a.required == some true
  if required.isEmpty then none
  else
    let submit := match actions.find? fun a => a.kind.submits with
      | some a => d.indented [d.interact .click (actionSelector o a) ""]
      | none => []
    let errors := o.assertions.filter fun a => a.kind == .fieldError
    some (d.opening o ++ [d.remark "Leave required fields empty and submit"] ++ submit ++ [.blank]
      ++ errors.flatMap (fun a => d.indented (d.assertion a))
      ++ [d.remark "Required fields should show validation"]
      ++ d.indented (required.map fun a => d.requiredCheck (actionSelector o a)))

/-- The lines of a file from its body. -/
def Dialect.finish (d : Dialect) (o : Options) (body : List Line) (actions : List Action)
    (fromRecording : Bool) : List Line :=
  d.file {
    body, actions, fromRecording
    negative := if o.includeNegativeTest then d.negativeBody o actions else none
    options := o }

/-- The body of a script for actions: what fills first, then what submits. -/
def Dialect.actionsBody (d : Dialect) (o : Options) (actions : List Action) : List Line :=
  let submits := actions.filter fun a => a.kind.submits
  let fills := actions.filter fun a => !a.kind.submits
  let divider := if !submits.isEmpty && !fills.isEmpty then [Line.blank, d.remark "Submit"] else []
  d.opening o ++ fills.flatMap (d.actionLines o) ++ divider ++ submits.flatMap (d.actionLines o)
    ++ d.assertionBlock o

/-- The lines of a script for actions. -/
def Dialect.actionsScript (d : Dialect) (o : Options) (actions : List Action) : List Line :=
  d.finish o (d.actionsBody o actions) actions false

/-- A step that is not written: a scroll or a hover unless asked for, and an opening navigation
that the page URL already stands for. -/
def isSuppressed (o : Options) (first : Bool) (s : Step) : Bool :=
  (s.kind == .scroll && !o.includeScrollSteps) || (s.kind == .hover && !o.includeHoverSteps)
    || (first && s.kind == .navigate && (nonempty? o.pageUrl).isSome)

/-- The pause before a step: the time since the step before it, if that is long enough. -/
def Dialect.pauseBefore (d : Dialect) (o : Options) (previous : Option Step) (s : Step) :
    List Line :=
  match previous with
  | some p =>
    let delta := s.timestamp - p.timestamp
    if delta ≥ o.minWaitThreshold then d.indented (d.pause delta) else []
  | none => []

/-- The lines of steps, after a step and knowing whether a field was filled since the last
submission. -/
def Dialect.stepsFrom (d : Dialect) (o : Options) (previous : Option Step) (filled : Bool) :
    List Step → List Line
  | [] => []
  | s :: rest =>
    if isSuppressed o previous.isNone s then d.stepsFrom o (some s) filled rest
    else
      let submits := s.kind == .click || s.kind == .submit
      let divider := if submits && filled then [d.remark "Submit"] else []
      let filled' := if submits && filled then false else filled || s.kind == .fill
      d.pauseBefore o previous s ++ divider ++ d.stepLines o s ++ d.stepsFrom o (some s) filled' rest

/-- The body of a script for steps. -/
def Dialect.stepsBody (d : Dialect) (o : Options) (steps : List Step) : List Line :=
  d.opening o ++ d.stepsFrom o none false steps ++ d.assertionBlock o

/-- The lines of a script for steps. -/
def Dialect.stepsScript (d : Dialect) (o : Options) (steps : List Step) : List Line :=
  d.finish o (d.stepsBody o steps) (steps.filterMap Step.action?) true

/-- The script for actions. -/
def Dialect.generate (d : Dialect) (o : Options) (actions : List Action) : String :=
  d.spelling.render (d.actionsScript o actions)

/-- The script for recorded steps. -/
def Dialect.generateRecording (d : Dialect) (o : Options) (steps : List Step) : String :=
  d.spelling.render (d.stepsScript o steps)

end PageTape.Script
