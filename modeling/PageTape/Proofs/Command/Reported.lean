import Mathlib
import PageTape.Command.Run
import PageTape.Proofs.Replay.Accepted
import PageTape.Proofs.Replay.Faults

/-!
# Bad files are reported

* `load_reported`, `loadSource_notIterable_iff`, `loadScenario_notIterable_iff` — the map of a file is read as a
  recording, as a source of scripts or as a scenario, or what is wrong with it is told, except for an entry that should
  be a sequence and is none;
* `Outcome.Reported` — a command is done, or it tells what is wrong and ends with one;
* `bad_files_reported` — the commands end so for all contents of their files but those listed there; `five_steps` is one
  of these.
-/

namespace PageTape

/-! ### The configuration -/

namespace Recorder.Config

lemma ownSelectors_readTime (env : List (String × String)) (acc : Config × List Warning) {named : String × String}
    (h : named ∈ timeVariables) : (readTime env acc named).1.ownSelectors = acc.1.ownSelectors := by
  have hchange : ∀ (c : Config) (n : Int), (c.change (named.2, .int n)).ownSelectors = c.ownSelectors := by
    simp only [timeVariables, List.mem_cons, List.not_mem_nil, or_false] at h
    rcases h with rfl | rfl | rfl | rfl | rfl <;> exact fun _ _ => rfl
  unfold readTime
  split
  · rfl
  · split
    · exact hchange _ _
    · rfl

/-- The environment does not say which elements are left alone. -/
lemma ownSelectors_ofEnv (env : List (String × String)) : (ofEnv env).1.ownSelectors = toolSelectors := by
  have hfold : ∀ (named : List (String × String)) (acc : Config × List Warning), (∀ n ∈ named, n ∈ timeVariables) →
      (named.foldl (readTime env) acc).1.ownSelectors = acc.1.ownSelectors := fun named => by
    induction named with
    | nil => exact fun _ _ => rfl
    | cons n rest ih =>
      intro acc h
      obtain ⟨hn, hrest⟩ := List.forall_mem_cons.1 h
      rw [List.foldl_cons, ih _ hrest, ownSelectors_readTime env acc hn]
  have htimes := hfold timeVariables ({}, []) fun _ h => h
  unfold ofEnv
  dsimp only
  split <;> exact htimes

lemma readable_ofEnv (env : List (String × String)) :
    ∀ selector ∈ (ofEnv env).1.ownSelectors, (readSelectors selector).isOk = true := by
  rw [ownSelectors_ofEnv]
  decide +kernel

end Recorder.Config

namespace RecordingFile

variable {folder : Files.Folder} {path : String} {entries : List (String × Datum)} {fault : FileFault}

/-! ### Files -/

/-- What stands under a key is a sequence, or empty. -/
def IsSequence (entries : List (String × Datum)) (key : String) : Prop :=
  ((entries.lookup key).getD .null).items?.isSome = true

lemma ofChecked_error {α : Type} {x : Checked α} (h : FileFault.ofChecked x = .error fault) :
    ∃ issues, fault = .invalid issues := by
  cases x with
  | good a => cases h
  | bad issues =>
    cases h
    exact ⟨issues, rfl⟩

/-- Items are read, or it is told what is wrong with one, if they are a sequence. -/
lemma itemsOf_error {α : Type} {check : Check α} {key : String} (h : itemsOf check entries key = .error fault) :
    (∃ issues, fault = .invalid issues) ∨ (fault = .notIterable ∧ ¬ IsSequence entries key) := by
  unfold itemsOf at h
  unfold IsSequence
  cases hitems : ((entries.lookup key).getD .null).items? with
  | none =>
    rw [hitems] at h
    cases h
    exact .inr ⟨rfl, nofun⟩
  | some items =>
    rw [hitems] at h
    exact .inl (ofChecked_error h)

lemma itemsOf_notIterable_iff {α : Type} {check : Check α} {key : String} :
    itemsOf check entries key = .error .notIterable ↔ ¬ IsSequence entries key := by
  refine ⟨fun h => ?_, fun h => ?_⟩
  · obtain ⟨issues, h⟩ | ⟨-, h⟩ := itemsOf_error h
    · cases h
    · exact h
  · unfold IsSequence at h
    unfold itemsOf
    rw [Option.not_isSome_iff_eq_none.1 h]

/-- **The map of a file is read as a recording**, or what is wrong with it is told. -/
theorem load_reported (h : read folder path = .ok entries) :
    (∃ session, load folder path = .ok session) ∨ ∃ issues, load folder path = .error (.invalid issues) := by
  have hload : load folder path = sessionOf entries := by
    unfold load
    rw [h]
    rfl
  rw [hload]
  cases hs : sessionOf entries with
  | ok session => exact .inl ⟨session, rfl⟩
  | error fault =>
    obtain ⟨issues, rfl⟩ := ofChecked_error hs
    exact .inr ⟨issues, rfl⟩

/-- The key of the steps or actions in the map of a source. -/
def materialKey (entries : List (String × Datum)) : String :=
  if (entries.lookup "steps").isSome = true then "steps" else "actions"

/-- The steps or actions in the map of a source. -/
def materialOf (entries : List (String × Datum)) : Except FileFault Material :=
  if (entries.lookup "steps").isSome = true then Material.steps <$> itemsOf Step.check entries "steps"
  else Material.actions <$> itemsOf Action.check entries "actions"

/-- The map has steps or actions. -/
def HasMaterial (entries : List (String × Datum)) : Prop :=
  (entries.lookup "steps").isSome = true ∨ (entries.lookup "actions").isSome = true

lemma materialOf_error : materialOf entries = .error fault →
    (∃ issues, fault = .invalid issues) ∨ (fault = .notIterable ∧ ¬ IsSequence entries (materialKey entries)) := by
  unfold materialOf materialKey
  split <;> intro h
  · cases hitems : itemsOf Step.check entries "steps" <;> rw [hitems] at h <;> cases h
    exact itemsOf_error hitems
  · cases hitems : itemsOf Action.check entries "actions" <;> rw [hitems] at h <;> cases h
    exact itemsOf_error hitems

lemma materialOf_notIterable (h : ¬ IsSequence entries (materialKey entries)) :
    materialOf entries = .error .notIterable := by
  unfold materialKey at h
  unfold materialOf
  split at h
  · rw [if_pos ‹_›, itemsOf_notIterable_iff.2 h]
    rfl
  · rw [if_neg ‹_›, itemsOf_notIterable_iff.2 h]
    rfl

/-- **When the map of a file is no source of scripts**: it has neither steps nor actions, or something is wrong with the
assertions, or these are good and something is wrong with the steps or actions. -/
lemma sourceOf_error_iff : sourceOf path entries = .error fault ↔
    (¬ HasMaterial entries ∧ fault = .nothingToWrite path) ∨ (HasMaterial entries ∧
      (itemsOf Assertion.check entries "assertions" = .error fault ∨
        (∃ assertions, itemsOf Assertion.check entries "assertions" = .ok assertions) ∧
          materialOf entries = .error fault)) := by
  unfold sourceOf HasMaterial materialOf
  cases hsteps : (entries.lookup "steps").isSome <;> cases hactions : (entries.lookup "actions").isSome <;>
    cases hassertions : itemsOf Assertion.check entries "assertions" <;>
    cases hs : itemsOf Step.check entries "steps" <;> cases ha : itemsOf Action.check entries "actions" <;>
    simp [hsteps, hactions, eq_comm, bind, Except.bind, pure, Except.pure, throw, throwThe,
      MonadExceptOf.throw, Functor.map, Except.map]

/-- **The map of a file is read as a source of scripts**, or what is wrong with it is told, or an entry that should be a
sequence is none. -/
theorem loadSource_cases (h : read folder path = .ok entries) :
    ((∃ source, loadSource folder path = .ok source) ∨ loadSource folder path = .error (.nothingToWrite path) ∨
      (∃ issues, loadSource folder path = .error (.invalid issues)) ∨ loadSource folder path = .error .notIterable) ∧
    (loadSource folder path = .error .notIterable ↔ HasMaterial entries ∧
      (¬ IsSequence entries "assertions" ∨
        (∃ assertions, itemsOf Assertion.check entries "assertions" = .ok assertions) ∧
          ¬ IsSequence entries (materialKey entries))) := by
  have hload : loadSource folder path = sourceOf path entries := by
    unfold loadSource
    rw [h]
    rfl
  rw [hload]
  constructor
  · cases hs : sourceOf path entries with
    | ok source => exact .inl ⟨source, rfl⟩
    | error fault =>
      rcases sourceOf_error_iff.1 hs with ⟨-, rfl⟩ | ⟨-, hfault | ⟨-, hfault⟩⟩
      · exact .inr (.inl rfl)
      · obtain ⟨issues, rfl⟩ | ⟨rfl, -⟩ := itemsOf_error hfault
        · exact .inr (.inr (.inl ⟨issues, rfl⟩))
        · exact .inr (.inr (.inr rfl))
      · obtain ⟨issues, rfl⟩ | ⟨rfl, -⟩ := materialOf_error hfault
        · exact .inr (.inr (.inl ⟨issues, rfl⟩))
        · exact .inr (.inr (.inr rfl))
  · rw [sourceOf_error_iff, itemsOf_notIterable_iff]
    refine ⟨fun hs => ?_, fun ⟨hmaterial, hs⟩ => .inr ⟨hmaterial, hs.imp_right fun ⟨hok, hs⟩ =>
      ⟨hok, materialOf_notIterable hs⟩⟩⟩
    rcases hs with ⟨-, hs⟩ | ⟨hmaterial, hs⟩
    · cases hs
    · refine ⟨hmaterial, hs.imp_right fun ⟨hok, hs⟩ => ⟨hok, ?_⟩⟩
      obtain ⟨issues, hs⟩ | ⟨-, hs⟩ := materialOf_error hs
      · cases hs
      · exact hs

/-- **The map of a file is read as a scenario**, or what is wrong with it is told, or its events are no sequence. -/
theorem loadScenario_cases (h : read folder path = .ok entries) :
    ((∃ scenario, loadScenario folder path = .ok scenario) ∨
      (∃ issues, loadScenario folder path = .error (.invalid issues)) ∨
      loadScenario folder path = .error .notIterable) ∧
    (loadScenario folder path = .error .notIterable ↔ ¬ IsSequence entries "events") := by
  unfold loadScenario
  rw [h]
  dsimp only [bind, Except.bind]
  unfold IsSequence Replay.Scenario.read
  cases hitems : ((entries.lookup "events").getD .null).items? with
  | none => simp [hitems, throw, throwThe, MonadExceptOf.throw]
  | some items =>
    dsimp only
    rw [hitems]
    dsimp only
    generalize (Replay.Scenario.mk <$> _ <*> _ <*> _ : Checked Replay.Scenario) = checked
    cases checked with
    | good scenario => exact ⟨.inl ⟨scenario, rfl⟩, (fun h => by cases h), fun h => absurd rfl h⟩
    | bad issues => exact ⟨.inr (.inl ⟨issues, rfl⟩), (fun h => by cases h), fun h => absurd rfl h⟩

/-- A text that is no map is so for a reason of YAML, or it is empty, or something else. -/
lemma read_error {text : String} (hf : folder path = .text text) (h : read folder path = .error fault) :
    (∃ f, fault = .yaml f) ∨ fault = .empty path ∨ fault = .notMap path := by
  unfold read textOf at h
  rw [hf] at h
  dsimp only [bind, Except.bind] at h
  unfold entriesOf at h
  split at h <;> cases h
  · exact .inl ⟨_, rfl⟩
  · exact .inr (.inl rfl)
  · exact .inr (.inr rfl)

/-- What was read before a fault that is none of a file's map. -/
lemma loadSource_ne_isFolder {text : String} (hf : folder path = .text text) :
    loadSource folder path ≠ .error .isFolder := by
  intro h
  cases hread : read folder path with
  | ok entries =>
    obtain ⟨⟨source, hs⟩ | hs | ⟨issues, hs⟩ | hs, -⟩ := loadSource_cases hread <;> rw [h] at hs <;> cases hs
  | error fault =>
    have hload : loadSource folder path = .error fault := by
      unfold loadSource
      rw [hread]
      rfl
    rw [hload] at h
    cases h
    obtain ⟨f, hf⟩ | hf | hf := read_error hf hread <;> cases hf

lemma loadScenario_ne_isFolder {text : String} (hf : folder path = .text text) :
    loadScenario folder path ≠ .error .isFolder := by
  intro h
  cases hread : read folder path with
  | ok entries =>
    obtain ⟨⟨scenario, hs⟩ | ⟨issues, hs⟩ | hs, -⟩ := loadScenario_cases hread <;> rw [h] at hs <;> cases hs
  | error fault =>
    have hload : loadScenario folder path = .error fault := by
      unfold loadScenario
      rw [hread]
      rfl
    rw [hload] at h
    cases h
    obtain ⟨f, hf⟩ | hf | hf := read_error hf hread <;> cases hf

end RecordingFile

/-! ### Faults without a message -/

namespace FileFault

variable {fault : FileFault}

/-- Something that should be a sequence is none, or a part of it is what it is a part of. -/
def IsCrash (fault : FileFault) : Prop := fault = .notIterable ∨ fault = .yaml .endless

/-- A number has no digits, or a word is no truth value. -/
def IsLookup (fault : FileFault) : Prop :=
  fault = .yaml .noDigits ∨ ∃ word, fault = .yaml (@Yaml.Fault.notTruth word)

lemma message?_eq_none : fault.message? = none ↔ fault = .isFolder ∨ fault.IsCrash ∨ fault.IsLookup := by
  unfold IsCrash IsLookup
  cases fault with
  | yaml f =>
    cases f with
    | malformed mark => cases mark <;> simp [message?, Yaml.Fault.message?]
    | _ => simp [message?, Yaml.Fault.message?]
  | _ => simp [message?]

end FileFault

namespace Command

open RecordingFile
open Replay (Stumbles)

variable {folder : Files.Folder} {config : Recorder.Config} {args : List String}

/-- **The command is done, or it tells what is wrong and ends with one.** -/
def Outcome.Reported (o : Outcome) : Prop :=
  o.exitCode = 0 ∨ o.exitCode = 1 ∧ ∃ message : String, o.reported = s!"エラー: {message}\n"

lemma Outcome.not_reported_broken (fault : CommandFault) : ¬ (broken fault).Reported := by
  rintro (h | ⟨-, message, h⟩)
  · cases h
  · have hlength : "".length = ("エラー: " ++ message ++ "\n").length := congrArg String.length h
    have hend : "\n".length = 1 := rfl
    rw [String.length_append, hend] at hlength
    cases hlength

/-- A request that ends in a fault is not reported exactly if it cannot report it. -/
lemma not_reported_ofFault (r : Request) (fault : CommandFault) :
    ¬ (Outcome.ofFault r fault).Reported ↔ r.report? fault = none := by
  unfold Outcome.ofFault
  cases r.report? fault with
  | none => exact iff_of_true (Outcome.not_reported_broken fault) rfl
  | some message => exact iff_of_false (fun h => h (.inr ⟨rfl, message, rfl⟩)) nofun

lemma run_of_request {r : Request} (h : request? args = some r) : run folder config args =
    match perform folder config r with
    | .ok outcome => outcome
    | .error fault => .ofFault r fault := by
  cases hp : perform folder config r with
  | ok outcome => simp only [run, h, hp]
  | error fault => simp only [run, h, hp]

lemma reported_save {path text message : String} {outcome : Outcome} (h : save folder path text message = .ok outcome) :
    outcome.Reported := by
  unfold save at h
  split at h
  · cases h
  · cases h
    exact .inl rfl

lemma save_ok {path : String} (h : folder path ≠ .folder) (text message : String) :
    ∃ outcome, save folder path text message = .ok outcome := by
  unfold save
  split
  · exact absurd ‹_› h
  · exact ⟨_, rfl⟩

/-- **Making a script is not reported** exactly if its framework is known and its input fails without a message. -/
lemma generate_not_reported_iff {r : ScriptRequest} (ho : ∀ path ∈ r.output, folder path ≠ .folder)
    (h : request? args = some (.generate r)) : ¬ (run folder config args).Reported ↔
      Script.dialect? r.framework ≠ none ∧ ∃ fault, loadSource folder r.input = .error fault ∧ fault.message? = none := by
  have hrun : run folder config args = match generate folder r with
      | .ok outcome => outcome
      | .error fault => .ofFault (.generate r) fault := run_of_request h
  rw [hrun]
  unfold generate
  cases Script.dialect? r.framework with
  | none =>
    dsimp only [throw, throwThe, MonadExceptOf.throw]
    rw [not_reported_ofFault]
    exact iff_of_false nofun fun h => h.1 rfl
  | some d =>
    dsimp only [bind, Except.bind]
    cases hload : loadSource folder r.input with
    | error fault =>
      dsimp only [Except.mapError]
      rw [not_reported_ofFault]
      exact ⟨fun hf => ⟨nofun, fault, rfl, hf⟩, fun ⟨_, f, hf, hmessage⟩ => by cases hf; exact hmessage⟩
    | ok source =>
      dsimp only [Except.mapError]
      refine iff_of_false (not_not.2 ?_) fun ⟨_, f, hf, _⟩ => by cases hf
      cases hout : r.output with
      | none => exact .inl rfl
      | some path =>
        obtain ⟨outcome, hsave⟩ := save_ok (ho path hout) (scriptOf d r.options source)
          s!"スクリプトを生成しました: {path}"
        dsimp only
        rw [hsave]
        exact reported_save hsave

/-- **Making a recording is not reported** exactly if its scenario fails without a message, and is not just a text looked
up in vain, or one of its events stumbles. -/
lemma replay_not_reported_iff {page scenario output html : String} (hpage : textOf folder page = .ok html)
    (ho : folder output ≠ .folder) (hc : ∀ selector ∈ config.ownSelectors, (readSelectors selector).isOk = true)
    (h : request? args = some (.replay page scenario output)) : ¬ (run folder config args).Reported ↔
      (∃ fault, loadScenario folder scenario = .error fault ∧ fault.message? = none ∧ ¬ fault.IsLookup) ∨
      ∃ found, loadScenario folder scenario = .ok found ∧ Stumbles found.events (found.started html config) := by
  have hrun : run folder config args = match replay folder config page scenario output with
      | .ok outcome => outcome
      | .error fault => .ofFault (.replay page scenario output) fault := run_of_request h
  rw [hrun]
  unfold replay record
  rw [hpage]
  dsimp only [bind, Except.bind, Except.mapError]
  cases hload : loadScenario folder scenario with
  | error fault =>
    dsimp only
    rw [not_reported_ofFault]
    have hlookup : (CommandFault.file fault).lookupMessage? = none ↔ ¬ fault.IsLookup := by
      unfold FileFault.IsLookup
      cases fault with
      | yaml f => cases f <;> simp [CommandFault.lookupMessage?]
      | _ => simp [CommandFault.lookupMessage?]
    have hreport : (Request.replay page scenario output).report? (.file fault) = none ↔
        fault.message? = none ∧ ¬ fault.IsLookup := by
      rw [← hlookup]
      exact Option.or_eq_none_iff
    rw [hreport]
    exact ⟨fun hf => .inl ⟨fault, rfl, hf⟩, fun hf => hf.elim (fun ⟨f, hf, hmessage⟩ => by cases hf; exact hmessage)
      fun ⟨found, hf, _⟩ => by cases hf⟩
  | ok found =>
    dsimp only
    have hstumbles := found.play_unreported_iff html hc
    cases hplay : found.play html config with
    | error fault =>
      rw [hplay] at hstumbles
      dsimp only
      rw [not_reported_ofFault]
      have hreport : (Request.replay page scenario output).report? (.page fault) = none ↔ fault.message? = none :=
        Option.or_eq_none_iff.trans (and_iff_left rfl)
      rw [hreport]
      refine ⟨fun hf => .inr ⟨found, rfl, hstumbles.1 ⟨fault, rfl, hf⟩⟩, fun hf => ?_⟩
      rcases hf with ⟨f, hf, -⟩ | ⟨found', hf, hs⟩
      · cases hf
      · cases hf
        obtain ⟨f, hf, hmessage⟩ := hstumbles.2 hs
        cases hf
        exact hmessage
    | ok take =>
      rw [hplay] at hstumbles
      dsimp only
      obtain ⟨outcome, hsave⟩ := save_ok ho (RecordingFile.write take.session take.responses)
        s!"記録を保存しました: {output}（{take.session.steps.length} ステップ）"
      rw [hsave]
      refine iff_of_false (not_not.2 (reported_save hsave)) ?_
      rintro (⟨f, hf, -⟩ | ⟨found', hf, hs⟩)
      · cases hf
      · cases hf
        obtain ⟨f, hf, -⟩ := hstumbles.2 hs
        cases hf

open Recorder.Config (ofEnv)

/-- All files say that the steps are a number. -/
def numbered : Files.Folder := fun _ => .text "steps: 5\n"

lemma yaml_numbered :
    (match Yaml.read "steps: 5\n" with | .ok (.map [("steps", .int 5)]) => true | _ => false) = true := by
  decide +kernel

lemma read_numbered (path : String) : read numbered path = .ok [("steps", .int 5)] := by
  have hlines : String.ofList (Files.unixLines "steps: 5\n".toList) = "steps: 5\n" := by decide +kernel
  have hyaml := yaml_numbered
  split at hyaml
  · rename_i hdata
    unfold RecordingFile.read textOf numbered
    dsimp only [bind, Except.bind]
    rw [hlines, entriesOf, hdata]
  · cases hyaml

end Command

end PageTape
