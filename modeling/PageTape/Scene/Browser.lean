import PageTape.Scene.Document
import PageTape.Scene.Network

/-!
The link to a page in a browser.  What the browser reports is brought to the page of the scene, so
that the recorder there sees the same as it would in the browser.
-/

namespace PageTape.Scene

open Dom (Id Location)

/-- Changes what is known of the browser. -/
def changeBrowser (f : Browser → Browser) : Act Unit :=
  modify fun s => { s with browser := f s.browser }

/-- Links the page to the browser; a second link is the same. -/
def link : Act Unit := changeBrowser fun b => { b with isLinked := true }

/-- The page of the browser changes its address, its content or both. -/
def showPage (url html : Option String) : Act Unit :=
  changeBrowser fun b => { b with url := url.getD b.url, html := html.getD b.html }

/-- Loads the content of the browser's page. -/
def syncContent : Act Unit := do load (← get).browser.html

/-- The browser has loaded a page.  A page at another address means that the one before was
left. -/
def pageLoaded : Act Unit := do
  let s ← get
  if s.browser.isLinked then
    if s.browser.url != s.page.url then navigate s.browser.url
    syncContent

/-! ### What the page reports -/

/-- A truth value, as a report may give it by any other value. -/
def truth? (d : Datum) : Option Bool :=
  match d with
  | .null => none
  | d => some !d.isEmpty

/-- The element of the page that a report names, if it names one. -/
def named? (selector : Datum) : Act (Option Location) := do
  let selector := selector.plain
  if selector.isEmpty then return none
  ofExcept ((← get).page.document.query? selector)

/-- The text under a key of a report. -/
def reportText (report : Datum) (key : String) : Datum :=
  match (report.get? key).getD .null with
  | .null => .text ""
  | d => if d.isEmpty then .text "" else d

/-- The element that a report names; if it is not there, the content of the browser is loaded
first. -/
def resolve? (selector : Datum) : Act (Option Location) := do
  if selector.plain.isEmpty then return none
  match ← named? selector with
  | some l => return some l
  | none =>
    syncContent
    named? selector

/-- The browser reports that the page has added an element. -/
def bringAdded (report : Datum) : Act Unit := do
  match ← named? (reportText report "parent") with
  | none => return
  | some parent =>
    try discard <| appendHtml parent.tag.id (reportText report "html").plain
    catch
      | .emptyFragment _ => return
      | fault => throw fault

/-- The first element of an HTML text. -/
def firstElement? (html : String) : Option Dom.Tag :=
  (Html.read 0 html).1.findSome? Dom.Node.tag?

/-- The browser reports that the page has removed an element: the first child of the same name with
the same attributes is removed. -/
def bringRemoved (report : Datum) : Act Unit := do
  match ← named? (reportText report "parent") with
  | none => return
  | some parent => match firstElement? (reportText report "html").plain with
    | none => return
    | some gone =>
      let twin := (parent.children.filterMap Dom.Node.tag?).find? fun tag =>
        tag.name == gone.name && Dom.Attrs.same tag.attrs gone.attrs
      match twin with
      | some tag => remove tag.id
      | none => return

/-- The browser reports that the page has changed an attribute. -/
def bringAttr (report : Datum) : Act Unit := do
  let found ← named? (reportText report "selector")
  let name := (reportText report "name").plain
  match found with
  | none => return
  | some l =>
    if name.isEmpty then return
    match (report.get? "value").getD .null with
    | .null => eraseAttr l.tag.id name
    | value => setAttr l.tag.id name value.plain

/-- The browser reports an event of an element, with the state that its control has. -/
def bringEvent (type : String) (report : Datum) : Act Unit := do
  match ← resolve? (reportText report "selector") with
  | none => return
  | some l =>
    sync l.tag.id ((report.given? "value").map (·.plain)) ((report.get? "checked").bind truth?)
    discard <| fire type l.tag.id ((report.given? "key").map (·.plain))

/-- The text under a key of a report as it is, or none where the key is absent. -/
def plainEntry (report : Datum) (key : String) : String :=
  ((report.get? key).map (·.plain)).getD ""

/-- The text after the first sharp. -/
def afterSharp (url : String) : String := String.ofList ((Page.hashOf url).toList.drop 1)

/-- The browser reports something that has happened on its page. -/
def bring (report : Datum) : Act Unit := do
  if !(← get).browser.isLinked then return
  match plainEntry report "type" with
  | "hashchange" => setHash (afterSharp (plainEntry report "url"))
  | "popstate" => popState (plainEntry report "url")
  | "added" => bringAdded report
  | "removed" => bringRemoved report
  | "attribute" => bringAttr report
  | type => if Recorder.documentEvents.contains type then bringEvent type report

/-! ### Its requests -/

/-- The kinds of resources whose requests are counted. -/
def countedResources : List String := ["xhr", "fetch"]

/-- The browser reports that a request has begun. -/
def requestReported (key : String) (reported : Reported) : Act Unit := do
  let known := ((← get).browser.reported.lookup key).getD reported
  changeBrowser fun b =>
    { b with reported := (key, known) :: b.reported.filter (·.1 != key) }
  let s ← get
  if s.browser.isLinked && s.recorder.isRecording && countedResources.contains known.resource then
    changeBrowser fun b => { b with
      counted := (key, known.url, Text.upper known.method) :: b.counted.filter (·.1 != key) }
    byRecorder fun _ => Recorder.requestBegun

/-- The browser reports that a request has ended, with status zero if it has failed. -/
def endReported (key : String) (status : Int) : Act Unit := do
  let s ← get
  match s.browser.counted.lookup key with
  | none => return
  | some (url, method) =>
    changeBrowser fun b => { b with counted := b.counted.filter (·.1 != key) }
    if s.recorder.active.isSome then
      byRecorder fun _ => Recorder.requestEnded url method status

end PageTape.Scene
