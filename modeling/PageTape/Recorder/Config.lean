import PageTape.Datum
import PageTape.Number.IntText
import PageTape.Text.Case

/-!
How a recorder works: how long it waits, what counts as recent, and which elements of a page it
leaves alone.  All times are in milliseconds.  A configuration can be read from the environment;
what cannot be read is reported and leaves the default.
-/

namespace PageTape.Recorder

/-- The elements that recording tools put on a page for themselves. -/
def toolSelectors : List String := [
  "#e2erec-field-icon", "#e2erec-notification", "#e2erec-record-indicator",
  "[id^='e2erec-btn-']", "[id^='e2erec-record-']", "[data-e2erec-ui]", ".e2erec-action-card",
  ".e2erec-record-dialog", ".e2erec-record-overlay"]

/-- How a recorder works.  Text in a field is recorded after `inputDelay` without more of it, and
changes of the page are looked at after `mutationDelay` without more of them.  The network is idle
after `idleDelay` without requests; a user action counts as recent for `actionWindow`, a submit as
a repetition of the one before for `submitWindow`, a request before the end for `stopWindow`. -/
structure Config where
  inputDelay : Int := 500
  mutationDelay : Int := 400
  idleDelay : Int := 500
  actionWindow : Int := 10000
  submitWindow : Int := 200
  stopWindow : Int := 5000
  elementTimeout : Int := 5000
  hiddenTimeout : Int := 10000
  idleTimeout : Int := 10000
  notesResponses : Bool := false
  ownSelectors : List String := toolSelectors
  deriving DecidableEq, Repr, Inhabited

namespace Config

/-- The times of a configuration by their names, each with how it is read and changed. -/
def times : List (String × (Config → Int) × (Config → Int → Config)) := [
  ("input_debounce_ms", (·.inputDelay), fun c n => { c with inputDelay := n }),
  ("mutation_debounce_ms", (·.mutationDelay), fun c n => { c with mutationDelay := n }),
  ("network_idle_ms", (·.idleDelay), fun c n => { c with idleDelay := n }),
  ("action_staleness_ms", (·.actionWindow), fun c n => { c with actionWindow := n }),
  ("submit_dedupe_ms", (·.submitWindow), fun c n => { c with submitWindow := n }),
  ("stop_network_window_ms", (·.stopWindow), fun c n => { c with stopWindow := n }),
  ("wait_element_timeout", (·.elementTimeout), fun c n => { c with elementTimeout := n }),
  ("wait_hidden_timeout", (·.hiddenTimeout), fun c n => { c with hiddenTimeout := n }),
  ("network_idle_timeout", (·.idleTimeout), fun c n => { c with idleTimeout := n })]

/-- A configuration written down. -/
def toDatum (c : Config) : Datum :=
  .map (times.map (fun (name, get, _) => (name, .int (get c)))
    ++ [("record_response_assertions", .bool c.notesResponses),
      ("extension_ui_selectors", .list (c.ownSelectors.map .text))])

/-- The texts among the items of a list. -/
def textsOf : Datum → List String
  | .list items => items.filterMap fun
    | .text s => some s
    | _ => none
  | _ => []

/-- The configuration with one entry changed; an entry that is none of its own is dropped. -/
def change (c : Config) (entry : String × Datum) : Config :=
  match entry with
  | ("record_response_assertions", d) => { c with notesResponses := !d.isEmpty }
  | ("extension_ui_selectors", d) => { c with ownSelectors := textsOf d }
  | (name, .int n) => match times.lookup name with
    | some (_, set) => set c n
    | none => c
  | _ => c

/-- The configuration with the entries of a map changed. -/
def changeAll (c : Config) : Datum → Config
  | .map entries => entries.foldl change c
  | _ => c

/-! ### The environment -/

/-- The variables that hold a time, with the name of the time. -/
def timeVariables : List (String × String) := [
  ("E2EREC_INPUT_DEBOUNCE_MS", "input_debounce_ms"),
  ("E2EREC_MUTATION_DEBOUNCE_MS", "mutation_debounce_ms"),
  ("E2EREC_NETWORK_IDLE_MS", "network_idle_ms"),
  ("E2EREC_ACTION_STALENESS_MS", "action_staleness_ms"),
  ("E2EREC_SUBMIT_DEDUPE_MS", "submit_dedupe_ms")]

/-- The variable that says whether responses are noted. -/
def responseVariable : String := "E2EREC_RESPONSE_ASSERTIONS"

/-- The words that say yes, in any case. -/
def yesWords : List String := ["true", "1", "yes"]

/-- Why a variable is not used. -/
inductive Warning where
  | malformed (name value : String)
  | negative (name value : String)
  deriving DecidableEq, Repr, Inhabited

/-- The text of a warning. -/
def Warning.message : Warning → String
  | malformed name value => s!"{name} の値が不正です: {value}"
  | negative name value => s!"{name} に負の値は指定できません: {value}"

/-- The time that a variable gives. -/
def timeOf (name value : String) : Except Warning Int :=
  match IntText.setting? value with
  | none => .error (.malformed name value)
  | some n => if n < 0 then .error (.negative name value) else .ok n

/-- The configuration after one variable is read, and the warnings so far. -/
def readTime (env : List (String × String)) (acc : Config × List Warning)
    (named : String × String) : Config × List Warning :=
  match env.lookup named.1 with
  | none => acc
  | some value => match timeOf named.1 value with
    | .ok n => (acc.1.change (named.2, .int n), acc.2)
    | .error warning => (acc.1, acc.2 ++ [warning])

/-- The configuration of an environment, and a warning for every variable that is not used. -/
def ofEnv (env : List (String × String)) : Config × List Warning :=
  let (config, warnings) := timeVariables.foldl (readTime env) ({}, [])
  match env.lookup responseVariable with
  | some value => ({ config with notesResponses := yesWords.contains (Text.lower value) }, warnings)
  | none => (config, warnings)

end Config

end PageTape.Recorder
