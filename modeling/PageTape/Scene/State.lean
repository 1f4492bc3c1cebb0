import PageTape.Recorder.Session

/-!
A scene is a page together with the recorder that watches it.  It also keeps what the functions of
the page do when they are called, the browser that the page may be a copy of, and a log of all that
the onlookers see: the notices of the recorder, the calls of the page's functions, and the requests
that leave the page.
-/

namespace PageTape

open Dom (Id Forest Location)

namespace Scene

/-- What an onlooker sees. -/
inductive Entry where
  | step (notice : Notice)
  | event (listener : String) (event : Page.Event) (target : String)
  | children (observer target : String) (added removed : List String)
  | attr (observer target name : String)
  | ended (exchange type : String) (status : Int)
  | request (request : Page.Request)
  deriving Repr, Inhabited

/-- A request that a browser reports, with the kind of what is requested. -/
structure Reported where
  url : String
  method : String := "GET"
  resource : String := "fetch"
  deriving DecidableEq, Repr, Inhabited

/-- A page as a browser has it, and the link to it.  Once it is linked, the browser reports what
happens there.  The requests that are counted for the recorder are kept with their methods in
capitals. -/
structure Browser where
  url : String
  html : String
  isLinked : Bool := false
  reported : List (String × Reported) := []
  counted : List (String × String × String) := []
  deriving Repr, Inhabited

end Scene

/-- A scene. -/
structure Scene where
  page : Page
  recorder : Recorder
  browser : Scene.Browser
  listeners : List (String × Page.Behaviour) := []
  observers : List (String × Page.Behaviour) := []
  log : List Scene.Entry := []
  deriving Inhabited

namespace Scene

/-- The scene of a page, with a recorder that has not begun. -/
def ofPage (page : Page) (recorder : Recorder) (browser : Browser) : Scene :=
  { page, recorder, browser }

/-- What is done in a scene; it may fail halfway, and what was done until then stays done. -/
abbrev Act := ExceptT Fault (StateM Scene)

/-- A result that was found without the scene. -/
def ofExcept {α : Type} : Except Fault α → Act α
  | .ok a => return a
  | .error fault => throw fault

/-- An onlooker sees something. -/
def see (entry : Entry) : Act Unit := modify fun s => { s with log := s.log ++ [entry] }

/-- Changes the page. -/
def changePage (f : Page → Page) : Act Unit := modify fun s => { s with page := f s.page }

/-- Changes the elements of the page. -/
def changeForest (f : Forest → Forest) : Act Unit := changePage (·.changeForest f)

/-- Lets the recorder do something; its notices go to the log. -/
def byRecorder {α : Type} (act : Page → Recorder.Act α) : Act α := do
  let result ← modifyGet fun s =>
    let (result, recorder) := (act s.page).run s.recorder
    (result, { s with
      recorder := { recorder with notices := [] }
      log := s.log ++ recorder.notices.map .step })
  ofExcept result

/-- Does something that tells nobody if it fails. -/
def quietly (act : Act Unit) : Act Unit := do
  try act catch _ => return

/-- An element as an answer names it. -/
def nameOf (f : Forest) (id : Id) : String := ((f.locate? id).map Locator.quick).getD ""

/-- A target as an answer names it. -/
def targetName (f : Forest) : Page.Target → String
  | .element id => nameOf f id
  | .document => "document"
  | .window => "window"

/-- The element that a selector selects first. -/
def find (s : Scene) (selector : String) : Except Fault Id :=
  (s.page.document.require selector).map (·.tag.id)

end Scene

end PageTape
