import PageTape.Recorder.Typing
import PageTape.Locator.Written

/-!
Changes that a page makes by itself.  When they have come to rest, a recorder waits for the fields
that have appeared, and for a sign of loading to be gone.
-/

namespace PageTape.Recorder

open Dom (Id Location)
open Locator (Written writtenClass)

/-- The attributes that decide whether an element can be seen. -/
def watchedAttributes : List String := ["style", "class", "hidden", "disabled", "aria-hidden"]

/-- Keeps changes of the page until there are no more of them. -/
def heed (mutations : List Page.Mutation) : Act Unit :=
  modify fun r => match r.active with
    | none => r
    | some a =>
      if r.isRecording then
        let before := ((a.mutations.find? ()).map (·.payload)).getD []
        let (debouncer, clock) :=
          a.mutations.schedule r.clock r.clock.now .mutations () (before ++ mutations)
        { r with clock, active := some { a with mutations := debouncer } }
      else r

/-! ### Fields -/

/-- An element that was added, and the form fields in it. -/
def grown (p : Page) (id : Id) : List Location :=
  match p.forest.locate? id with
  | some l => l :: l.descendants.filter (·.tag.isFormField)
  | none => []

/-- The elements on the page that changes have brought. -/
def brought (p : Page) (mutations : List Page.Mutation) : List Location :=
  (Location.distinct [] (mutations.flatMap fun m => m.added.flatMap (grown p))).filter
    fun l => l.root.tag.isDocument

/-- The fields among elements that can be seen and are not left alone. -/
def newFields : List Location → Act (List Location)
  | [] => return []
  | l :: rest => do
    if l.tag.isFormField && l.isVisible then
      let isOwn ← leavesAlone l
      let more ← newFields rest
      return if isOwn then more else l :: more
    else newFields rest

/-- Records that one must wait for the fields that changes have brought. -/
def noteFields (p : Page) (mutations : List Page.Mutation) : Act Unit := do
  match ← newFields (brought p mutations) with
  | [] => return
  | first :: rest =>
    let r ← get
    discard <| add (describe first {
      kind := .waitForElement, timestamp := r.now
      label := some s!"Wait for {rest.length + 1} new field(s)"
      waitTimeout := some r.config.elementTimeout })

/-! ### Signs of loading -/

/-- The elements that show that something is being loaded. -/
def loadingSigns : List Written := [
  writtenClass "loading", writtenClass "spinner", writtenClass "loader",
  ("[aria-busy='true']", [.compound [.attribute ⟨"aria-busy", some (.equals, "true"), false⟩]]),
  writtenClass "ant-spin", writtenClass "MuiCircularProgress-root", writtenClass "sk-spinner"]

/-- The sign of loading that an element is or has in it. -/
def loadingSign? (l : Location) : Option String :=
  (loadingSigns.find? fun sign =>
    Css.selects sign.2 l || (Css.selectFirst? sign.2 l).isSome).map (·.1)

/-- The attributes by which an element can be told from all others. -/
def namingAttributes : List String := ["id", "data-testid", "data-test-id", "name"]

/-- The selector of what was a sign of loading: its own, if it can be told from others, else that
of the sign. -/
def goneSelector? (l : Location) : Option String :=
  (loadingSign? l).map fun sign =>
    if namingAttributes.any fun n => (Locator.given? l.tag n).isSome then Locator.quick l else sign

/-- The elements that changes have removed. -/
def removed (p : Page) (mutations : List Page.Mutation) : List Location :=
  mutations.flatMap fun m => m.removed.filterMap p.forest.locate?

/-- Records that one must wait for the first sign of loading to go that changes have removed. -/
def noteLoaded (p : Page) (mutations : List Page.Mutation) : Act Unit := do
  match (removed p mutations).findSome? goneSelector? with
  | none => return
  | some selector =>
    let r ← get
    discard <| add {
      kind := .waitForHidden, timestamp := r.now, selector := some selector
      label := some "Wait for loading to finish"
      waitTimeout := some r.config.hiddenTimeout }

/-- The changes of the page have come to rest. -/
def wakeMutations (p : Page) : Act Unit := do
  let mutations ← modifyGet fun r => match r.active with
    | none => (none, r)
    | some a =>
      let (mutations, debouncer, clock) :=
        a.mutations.wake r.clock r.clock.now .mutations ()
      (mutations, { r with clock, active := some { a with mutations := debouncer } })
  match mutations with
  | some mutations =>
    if (← get).isRecording then
      noteFields p mutations
      noteLoaded p mutations
  | none => return

end PageTape.Recorder
