import PageTape.Command.Arguments
import PageTape.Recording.File
import PageTape.Replay.Player
import PageTape.Script.Frameworks

/-!
The commands: a script is made from a file, a recording from a scenario and a page, and the
frameworks are listed.  What a command does depends on its arguments, the files and the
configuration alone; it answers what is to be printed and written.
-/

namespace PageTape

namespace Command

/-- What a script is made from, and how. -/
structure ScriptRequest where
  input : String
  framework : String := "playwright"
  output : Option String := none
  options : Options := {}
  deriving DecidableEq, Repr, Inhabited

/-- A command. -/
inductive Request where
  | generate (request : ScriptRequest)
  | replay (page scenario output : String)
  | frameworks
  | help
  deriving DecidableEq, Repr, Inhabited

/-! ### Reading the command line -/

/-- The option that asks for help. -/
def helpSwitch : Switch := { key := "help", names := ["--help"] }

/-- The options before a command. -/
def commonSwitches : List Switch :=
  [{ key := "verbose", names := ["--verbose", "-v"] }, helpSwitch]

/-- The option for the file that is written. -/
def outputSwitch : Switch := { key := "output", names := ["--output", "-o"], takesValue := true }

/-- The options of making a script. -/
def scriptSwitches : List Switch := [
  { key := "framework", names := ["--framework", "-f"], takesValue := true }, outputSwitch,
  { key := "page-url", names := ["--page-url"], takesValue := true },
  { key := "test-name", names := ["--test-name"], takesValue := true },
  { key := "min-wait", names := ["--min-wait"], takesValue := true },
  { key := "scroll", names := ["--include-scroll"] },
  { key := "hover", names := ["--include-hover"] },
  { key := "plain", names := ["--no-smart-selectors"] },
  { key := "negative", names := ["--negative"] },
  { key := "page-object", names := ["--pom"] },
  { key := "assertions", names := ["--assertions"] }, helpSwitch]

/-- The options that the arguments ask for; a wait must be a number. -/
def optionsOf? (a : Arguments) : Option Options := do
  let wait ← IntText.setting? ((a.value? "min-wait").getD "1000")
  return {
    pageUrl := a.value? "page-url"
    testName := (a.value? "test-name").getD "fill form"
    useSmartSelectors := !a.has "plain"
    includeAssertions := a.has "assertions"
    includeNegativeTest := a.has "negative"
    includePageObject := a.has "page-object"
    minWaitThreshold := wait
    includeScrollSteps := a.has "scroll"
    includeHoverSteps := a.has "hover" }

/-- The request for a script. -/
def scriptRequest? (args : List String) : Option Request := do
  let a ← Arguments.read? scriptSwitches args
  if a.has "help" then return .help
  match a.others with
  | [input] => return .generate {
      input := Files.tidy input
      framework := (a.value? "framework").getD "playwright"
      output := (a.value? "output").map Files.tidy
      options := ← optionsOf? a }
  | _ => none

/-- The file of a recording that is not named. -/
def defaultRecording : String := "recording.yaml"

/-- The request for a recording. -/
def replayRequest? (args : List String) : Option Request := do
  let a ← Arguments.read? [outputSwitch, helpSwitch] args
  if a.has "help" then return .help
  match a.others with
  | [page, scenario] =>
    return .replay (Files.tidy page) (Files.tidy scenario)
      (Files.tidy ((a.value? "output").getD defaultRecording))
  | _ => none

/-- The request for the list of frameworks. -/
def frameworksRequest? (args : List String) : Option Request := do
  let a ← Arguments.read? [helpSwitch] args
  if a.has "help" then return .help
  if a.others.isEmpty then return .frameworks else none

/-- What a command line asks for. -/
def request? (args : List String) : Option Request := do
  let a ← Arguments.readLeading? commonSwitches args
  if a.has "help" then return .help
  match a.others with
  | "generate" :: rest => scriptRequest? rest
  | "replay" :: rest => replayRequest? rest
  | "list-frameworks" :: rest => frameworksRequest? rest
  | _ => none

/-! ### What comes of it -/

/-- Why a command fails. -/
inductive CommandFault where
  | unknownFramework (name : String)
  | file (fault : FileFault)
  | page (fault : Fault)
  | outputIsFolder
  deriving DecidableEq, Repr, Inhabited

namespace CommandFault

/-- The names of the frameworks, separated by commas. -/
def frameworkNames : String := ", ".intercalate (Script.dialects.map (·.name))

/-- The message of a fault, for those that have one. -/
def message? : CommandFault → Option String
  | unknownFramework name =>
    some s!"未対応のフレームワークです: {name}（対応: {frameworkNames}）"
  | file fault => fault.message?
  | page fault => fault.message?
  | outputIsFolder => none

/-- The message of what was looked up in vain while a file was read; only making a recording reports
it. -/
def lookupMessage? : CommandFault → Option String
  | file (.yaml .noDigits) => some "string index out of range"
  | file (.yaml (@Yaml.Fault.notTruth word)) => some (Text.quoted word)
  | _ => none

end CommandFault

/-- What a request reports of a fault, if it does. -/
def Request.report? (r : Request) (fault : CommandFault) : Option String :=
  match r with
  | replay _ _ _ => fault.message?.or fault.lookupMessage?
  | _ => fault.message?

/-- How a command ends: the command line is not understood; it is done, with what is printed and
the file that is written; it fails with a message; or it fails without one. -/
inductive Outcome where
  | usage
  | done (printed : String) (written : Option (String × String))
  | failed (message : String)
  | broken (fault : CommandFault)
  deriving DecidableEq, Repr, Inhabited

namespace Outcome

/-- The number that a command ends with. -/
def exitCode : Outcome → Nat
  | usage => 2
  | done _ _ => 0
  | failed _ | broken _ => 1

/-- What is printed. -/
def printed : Outcome → String
  | done printed _ => printed
  | _ => ""

/-- What is reported. -/
def reported : Outcome → String
  | failed message => s!"エラー: {message}\n"
  | _ => ""

/-- The file that is written, with its text. -/
def written : Outcome → Option (String × String)
  | done _ written => written
  | _ => none

/-- A request ends in a fault, which it reports if it can. -/
def ofFault (r : Request) (fault : CommandFault) : Outcome :=
  match r.report? fault with
  | some message => failed message
  | none => broken fault

end Outcome

/-! ### The commands -/

/-- The column at which the titles of frameworks stand. -/
def titleColumn : Nat := 20

/-- The line of a framework in the list. -/
def frameworkLine (d : Script.Dialect) : String :=
  let gap := String.ofList (List.replicate (titleColumn - d.name.length) ' ')
  d.name ++ gap ++ " " ++ d.title ++ "\n"

/-- The list of frameworks. -/
def frameworkList : String := String.join (Script.dialects.map frameworkLine)

/-- How the program is used. -/
def usageText : String :=
  "generate INPUT [-f FRAMEWORK] [-o OUTPUT] [--page-url URL] [--test-name NAME] [--min-wait MS]\n"
    ++ "  [--include-scroll] [--include-hover] [--no-smart-selectors] [--negative] [--pom]\n"
    ++ "  [--assertions]\n"
    ++ "replay PAGE EVENTS [-o OUTPUT]\n"
    ++ "list-frameworks\n"

/-- A text is written to a file and a message printed, unless the file cannot be written. -/
def save (folder : Files.Folder) (path text message : String) : Except CommandFault Outcome :=
  match folder path with
  | .folder => .error .outputIsFolder
  | _ => .ok (.done (message ++ "\n") (some (path, text)))

/-- The script of a source. -/
def scriptOf (d : Script.Dialect) (o : Options) (source : RecordingFile.Source) : String :=
  let o := { o with assertions := source.assertions }
  match source.material with
  | .steps steps => d.generateRecording o steps
  | .actions actions => d.generate o actions

/-- Makes a script.  That the framework is unknown comes before all that is wrong with a file. -/
def generate (folder : Files.Folder) (r : ScriptRequest) : Except CommandFault Outcome := do
  match Script.dialect? r.framework with
  | none => throw (.unknownFramework r.framework)
  | some d =>
    let source ← (RecordingFile.loadSource folder r.input).mapError .file
    let script := scriptOf d r.options source
    match r.output with
    | none => return .done script none
    | some path => save folder path script s!"スクリプトを生成しました: {path}"

/-- What is recorded when the scenario of a file is played on the page of another. -/
def record (folder : Files.Folder) (config : Recorder.Config) (page scenario : String) :
    Except CommandFault Replay.Take := do
  let html ← (RecordingFile.textOf folder page).mapError .file
  let scenario ← (RecordingFile.loadScenario folder scenario).mapError .file
  (scenario.play html config).mapError .page

/-- Makes a recording. -/
def replay (folder : Files.Folder) (config : Recorder.Config) (page scenario output : String) :
    Except CommandFault Outcome := do
  let take ← record folder config page scenario
  save folder output (RecordingFile.write take.session take.responses)
    s!"記録を保存しました: {output}（{take.session.steps.length} ステップ）"

/-- What a request comes to. -/
def perform (folder : Files.Folder) (config : Recorder.Config) (r : Request) :
    Except CommandFault Outcome :=
  match r with
  | .generate r => generate folder r
  | .replay page scenario output => replay folder config page scenario output
  | .frameworks => .ok (.done frameworkList none)
  | .help => .ok (.done usageText none)

/-- What a command line comes to. -/
def run (folder : Files.Folder) (config : Recorder.Config) (args : List String) : Outcome :=
  match request? args with
  | none => .usage
  | some r => match perform folder config r with
    | .ok outcome => outcome
    | .error fault => .ofFault r fault

/-- The files that a request reads or writes. -/
def Request.paths : Request → List String
  | .generate r => r.input :: r.output.toList
  | .replay page scenario output => [page, scenario, output]
  | .frameworks | .help => []

end Command

end PageTape
