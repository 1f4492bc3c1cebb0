import PageTape.Files.Folder
import PageTape.Recording.Codec
import PageTape.Replay.Scenario
import PageTape.Yaml.Reader
import PageTape.Yaml.Writer

/-!
Files that hold recordings, what scripts are made from, and scenarios.  All are maps in YAML; what
a map must hold depends on what it is read for.
-/

namespace PageTape

/-- Why a text is not YAML, as a message says it, where there is one. -/
def Yaml.Fault.message? : Yaml.Fault → Option String
  | .malformed (some mark) =>
    some s!"YAML 構文エラー (行 {mark.line + 1}, 列 {mark.column + 1})"
  | .malformed none => some "YAML 構文エラー"
  | .characterTooLarge => some "chr() arg not in range(0x110000)"
  | .noSuchDate why => some why
  | .notWhole digits base =>
    some s!"invalid literal for int() with base {base}: {Text.quoted digits}"
  | .notReal text => some s!"could not convert string to float: {Text.quoted text}"
  | .noDigits | .notTruth | .endless => none

/-- Why a file cannot be used. -/
inductive FileFault where
  | notFound (path : String)
  | isFolder
  | yaml (fault : Yaml.Fault)
  | empty (path : String)
  | notMap (path : String)
  | nothingToWrite (path : String)
  | notIterable
  | invalid (issues : List Issue)
  deriving DecidableEq, Repr, Inhabited

namespace FileFault

/-- The message of a fault, for those that have one. -/
def message? : FileFault → Option String
  | notFound path => some s!"ファイルが見つかりません: {path}"
  | yaml fault => fault.message?
  | empty path => some s!"ファイルが空です: {path}"
  | notMap path => some s!"トップレベルはマッピングである必要があります: {path}"
  | nothingToWrite path => some s!"steps または actions が必要です: {path}"
  | invalid _ => some "スキーマ検証エラー"
  | isFolder | notIterable => none

/-- A check's result as that of reading a file. -/
def ofChecked {α : Type} : Checked α → Except FileFault α
  | .good a => .ok a
  | .bad issues => .error (.invalid issues)

end FileFault

namespace RecordingFile

/-- The entries of the map that a text holds. -/
def entriesOf (path text : String) : Except FileFault (List (String × Datum)) :=
  match Yaml.read text with
  | .error fault => .error (.yaml fault)
  | .ok .null => .error (.empty path)
  | .ok (.map entries) => .ok entries
  | .ok _ => .error (.notMap path)

/-- The text of a file, line by line. -/
def textOf (folder : Files.Folder) (path : String) : Except FileFault String :=
  match folder path with
  | .text content => .ok (String.ofList (Files.unixLines content.toList))
  | .folder => .error .isFolder
  | .nothing => .error (.notFound path)

/-- The entries of the map that a file holds. -/
def read (folder : Files.Folder) (path : String) : Except FileFault (List (String × Datum)) := do
  entriesOf path (← textOf folder path)

/-! ### Recordings -/

/-- A recording as data; the responses come last, if there are any. -/
def toDatum (session : Session) (responses : List Response) : Datum :=
  match session.toDatum with
  | .map entries =>
    .map (entries ++ if responses.isEmpty then []
      else [("responses", .list (responses.map Response.toDatum))])
  | d => d

/-- A recording as the text of a file. -/
def write (session : Session) (responses : List Response) : String :=
  Yaml.write (toDatum session responses)

/-- The session among the entries of a file; the responses are not looked at. -/
def sessionOf (entries : List (String × Datum)) : Except FileFault Session :=
  FileFault.ofChecked (Session.check (.map (entries.filter fun e => e.1 != "responses")))

/-- The session of a file. -/
def load (folder : Files.Folder) (path : String) : Except FileFault Session := do
  sessionOf (← read folder path)

/-! ### Sources of scripts -/

/-- What a script is made from. -/
inductive Material where
  | steps (steps : List Step)
  | actions (actions : List Action)
  deriving DecidableEq, Repr, Inhabited

/-- What a file gives for a script: the steps or actions, the assertions, and for steps the page on
which they begin, whatever is written there. -/
structure Source where
  material : Material
  assertions : List Assertion := []
  startUrl : Datum := .null
  deriving Repr, Inhabited

/-- The checked items of an entry; the first that fails gives its issues. -/
def itemsOf {α : Type} (check : Check α) (entries : List (String × Datum)) (key : String) :
    Except FileFault (List α) :=
  match ((entries.lookup key).getD .null).items? with
  | some items => FileFault.ofChecked (checkEach check items)
  | none => .error .notIterable

/-- The address of the first page: the first of two keys whose value is not empty, else the value
of the second. -/
def startUrlOf (entries : List (String × Datum)) : Datum :=
  let value := fun (key : String) => (entries.lookup key).getD .null
  if (value "startUrl").isEmpty then value "start_url" else value "startUrl"

/-- What the entries of a file give for a script. -/
def sourceOf (path : String) (entries : List (String × Datum)) : Except FileFault Source := do
  let has := fun (key : String) => (entries.lookup key).isSome
  if !has "steps" && !has "actions" then throw (.nothingToWrite path)
  let assertions ← itemsOf Assertion.check entries "assertions"
  if has "steps" then
    let steps ← itemsOf Step.check entries "steps"
    return { material := .steps steps, assertions, startUrl := startUrlOf entries }
  else
    let actions ← itemsOf Action.check entries "actions"
    return { material := .actions actions, assertions }

/-- What a file gives for a script. -/
def loadSource (folder : Files.Folder) (path : String) : Except FileFault Source := do
  sourceOf path (← read folder path)

/-! ### Scenarios -/

/-- The scenario of a file. -/
def loadScenario (folder : Files.Folder) (path : String) : Except FileFault Replay.Scenario := do
  match Replay.Scenario.read (.map (← read folder path)) with
  | .ok scenario => return scenario
  | .error (.invalid issues) => throw (.invalid issues)
  | .error .eventsNotIterable => throw .notIterable

end RecordingFile

end PageTape
