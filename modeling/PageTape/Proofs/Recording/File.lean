import PageTape.Command.Run
import PageTape.Proofs.Recording.Codec
import PageTape.Proofs.Yaml.Writable

/-!
# Recordings survive the disk

A recording that is written to a file is read back by two loaders, for another recording and for a script.  Both give
back what was written, as far as reading a text inverts writing it: that is assumed of the text format for the data at
hand, which are a tree (`isTree_toDatum`).  The rest is proved: the text comes through the file unchanged, and each
loader finds in the map what it wants and nothing of what the other one looks for.
-/

namespace PageTape

/-! ### What is written is a tree -/

section Trees

open Datum (IsTree AreTrees areTrees_optional)

lemma SmartSelector.isTree (s : SmartSelector) : s.toDatum.IsTree := by
  apply AreTrees.map
  simp [areTrees_optional IsTree.text]

lemma SmartSelector.list_isTree (ss : List SmartSelector) : (listDatum ss).IsTree :=
  IsTree.list_map SmartSelector.isTree ss

lemma ScrollPosition.isTree (p : ScrollPosition) : p.toDatum.IsTree := by
  apply AreTrees.map
  simp

lemma Assertion.isTree (a : Assertion) : a.toDatum.IsTree := by
  apply AreTrees.map
  simp [areTrees_optional IsTree.text]

lemma Step.isTree (s : Step) : s.toDatum.IsTree := by
  apply AreTrees.map
  simp [areTrees_optional IsTree.text, areTrees_optional IsTree.int, areTrees_optional IsTree.bool,
    areTrees_optional SmartSelector.list_isTree, areTrees_optional ScrollPosition.isTree,
    areTrees_optional Assertion.isTree]

lemma Response.isTree (r : Response) : r.toDatum.IsTree := by
  apply AreTrees.map
  simp

end Trees

/-- A text is read from its characters. -/
lemma Yaml.read_eq (text : String) : Yaml.read text =
    if text.toList.all isAllowed then (nodeOf? text.toList).bind fun found => found.elim (.ok .null) Node.toDatum
    else .error (.malformed none) := by
  cases hall : text.toList.all isAllowed with
  | false => simp [read, hall, bind, Except.bind]; rfl
  | true =>
    simp only [read, hall, Bool.not_true, Bool.false_eq_true, if_false, if_true, bind, Except.bind]
    cases nodeOf? text.toList with
    | error fault => rfl
    | ok found => cases found <;> rfl

namespace RecordingFile

/-- The entries of a session. -/
def sessionEntries (session : Session) : List (String × Datum) := [
  ("status", .text session.status.word), ("startUrl", .text session.startUrl),
  ("startTime", .int session.startTime), ("steps", .list (session.steps.map Step.toDatum))]

/-- The entry of the responses, if there are any. -/
def responseEntries (responses : List Response) : List (String × Datum) :=
  if responses.isEmpty then [] else [("responses", .list (responses.map Response.toDatum))]

lemma toDatum_eq (session : Session) (responses : List Response) :
    toDatum session responses = .map (sessionEntries session ++ responseEntries responses) := rfl

theorem isTree_toDatum (session : Session) (responses : List Response) : (toDatum session responses).IsTree := by
  have hresponses : Datum.AreTrees (responseEntries responses) := by
    unfold responseEntries
    split
    · exact Datum.areTrees_nil
    · exact Datum.areTrees_cons.2 ⟨Datum.IsTree.list_map Response.isTree responses, Datum.areTrees_nil⟩
  rw [toDatum_eq]
  apply Datum.AreTrees.map
  simp [sessionEntries, hresponses, Datum.IsTree.list_map Step.isTree]

lemma lookup_saved {session : Session} {responses : List Response} {key : String} (hkey : key ≠ "responses") :
    (sessionEntries session ++ responseEntries responses).lookup key = (sessionEntries session).lookup key := by
  have hother : (responseEntries responses).lookup key = none := by
    unfold responseEntries
    split <;> simp [hkey]
  rw [List.lookup_append, hother, Option.or_none]

/-! ### Both loaders -/

/-- The script of a source, with the options as they are. -/
def Source.script (d : Script.Dialect) (o : Options) (source : Source) : String :=
  match source.material with
  | .steps steps => d.generateRecording o steps
  | .actions actions => d.generate o actions

lemma scriptOf_eq (d : Script.Dialect) (o : Options) (source : Source) :
    Command.scriptOf d o source = source.script d { o with assertions := source.assertions } := rfl

section Saved

variable {folder : Files.Folder} {path : String} {session : Session} {responses : List Response}
  (hsaved : folder path = .text (write session responses))
  (hread : Yaml.read (write session responses) = .ok (toDatum session responses))

include hsaved

/-- The text of a recording comes through a file as it was written. -/
lemma textOf_saved : textOf folder path = .ok (write session responses) := by
  have hlines : Files.unixLines (write session responses).toList = (write session responses).toList :=
    Yaml.unixLines_write (isTree_toDatum session responses)
  simp only [textOf, hsaved, hlines, String.ofList_toList]

include hread

lemma read_saved : read folder path = .ok (sessionEntries session ++ responseEntries responses) := by
  simp only [read, textOf_saved hsaved, bind, Except.bind, entriesOf, hread, toDatum_eq]

/-- The responses, which stand under a key of their own, are dropped again. -/
lemma load_saved : load folder path = .ok session := by
  have hsession : (sessionEntries session).filter (fun e => e.1 != "responses") = sessionEntries session := by
    simp [sessionEntries]
  have hresponses : (responseEntries responses).filter (fun e => e.1 != "responses") = [] := by
    unfold responseEntries
    split <;> simp
  have hgood : Session.check (.map (sessionEntries session)) = .good session := Session.readsBack.good session
  simp only [load, read_saved hsaved hread, bind, Except.bind, sessionOf, List.filter_append, hsession, hresponses,
    List.append_nil, hgood, FileFault.ofChecked]

/-- Where a script begins: at the address of the session, if it has one. -/
def startOf (session : Session) : Datum := if session.startUrl.isEmpty then .null else .text session.startUrl

lemma loadSource_saved : loadSource folder path =
    .ok { material := .steps session.steps, assertions := [], startUrl := startOf session } := by
  simp only [loadSource, read_saved hsaved hread, bind, Except.bind]
  generalize hes : sessionEntries session ++ responseEntries responses = es
  have hlookup : ∀ key, key ≠ "responses" → es.lookup key = (sessionEntries session).lookup key := by
    intro key hkey
    rw [← hes, lookup_saved hkey]
  have hsteps : es.lookup "steps" = some (.list (session.steps.map Step.toDatum)) := by
    rw [hlookup "steps" (by decide)]
    simp [sessionEntries]
  have hassertions : es.lookup "assertions" = none := by
    rw [hlookup "assertions" (by decide)]
    simp [sessionEntries]
  have hstart : startUrlOf es = startOf session := by
    simp only [startUrlOf, hlookup "startUrl" (by decide), hlookup "start_url" (by decide)]
    simp [sessionEntries, startOf, Datum.isEmpty]
  have hitems : itemsOf Step.check es "steps" = .ok session.steps := by
    rw [itemsOf, hsteps]
    simp only [Option.getD_some, Datum.items?, Step.readsBack.checkEach session.steps, FileFault.ofChecked]
  have hnone : itemsOf Assertion.check es "assertions" = .ok [] := by
    rw [itemsOf, hassertions]
    rfl
  simp only [sourceOf, hsteps, hitems, hnone, hstart]
  rfl

/-- A script can be made from the file for every framework, and it is the one that is made from the steps. -/
lemma generate_saved {d : Script.Dialect} {name : String} (hname : Script.dialect? name = some d) (o : Options) :
    Command.generate folder { input := path, framework := name, options := o } =
      .ok (.done (d.generateRecording { o with assertions := [] } session.steps) none) := by
  simp only [Command.generate, hname, loadSource_saved hsaved hread, Except.mapError, bind, Except.bind, pure, Except.pure,
    scriptOf_eq, Source.script]

end Saved

/-- A folder after a recording has been written to a path. -/
def saved (folder : Files.Folder) (path : String) (session : Session) (responses : List Response) : Files.Folder :=
  fun other => if other = path then .text (write session responses) else folder other

/-- **Recordings survive the disk.**  Every model reads back its own written form.  Where the text format gives back the
tree that a session is written as, the session is loaded from its file as it was; for a script the same file gives the
steps of the session and nothing else; and so every framework with every option makes the same script of the file as of
the steps, where the command takes its assertions from the file, which has none. -/
theorem recordings_survive :
    ((∀ s : SmartSelector, SmartSelector.check s.toDatum = .good s) ∧
      (∀ p : ScrollPosition, ScrollPosition.check p.toDatum = .good p) ∧
      (∀ a : Assertion, Assertion.check a.toDatum = .good a) ∧
      (∀ s : Step, Step.check s.toDatum = .good s) ∧
      (∀ s : Session, Session.check s.toDatum = .good s) ∧
      (∀ r : Response, Response.check r.toDatum = .good r) ∧
      (∀ a : Action, Action.check a.toDatum = .good a) ∧
      ∀ o : Options, Options.check o.toDatum = .good o) ∧
    ∀ (folder : Files.Folder) (path : String) (session : Session) (responses : List Response),
      Yaml.read (write session responses) = .ok (toDatum session responses) →
      load (saved folder path session responses) path = .ok session ∧
      loadSource (saved folder path session responses) path =
        .ok { material := .steps session.steps, assertions := [], startUrl := startOf session } ∧
      ∀ (d : Script.Dialect) (o : Options),
        (loadSource (saved folder path session responses) path).map (Source.script d o) =
          .ok (d.generateRecording o session.steps) ∧
        ∀ name, Script.dialect? name = some d →
          Command.generate (saved folder path session responses) { input := path, framework := name, options := o } =
            .ok (.done (d.generateRecording { o with assertions := [] } session.steps) none) := by
  refine ⟨⟨SmartSelector.readsBack.good, ScrollPosition.readsBack.good, Assertion.readsBack.good, Step.readsBack.good,
    Session.readsBack.good, Response.readsBack.good, Action.readsBack.good, Options.readsBack.good⟩, ?_⟩
  intro folder path session responses hread
  have hsaved : saved folder path session responses path = .text (write session responses) := if_pos rfl
  refine ⟨load_saved hsaved hread, loadSource_saved hsaved hread, ?_⟩
  intro d o
  constructor
  · rw [loadSource_saved hsaved hread]
    rfl
  · intro name hname
    exact generate_saved hsaved hread hname o

/-- A session with a step whose parts are empty, false or not there. -/
def sampleSession : Session where
  status := .stopped
  steps := [{ kind := .fill, timestamp := 5, selector := some "#a", value := some "", smartSelectors := some [],
              required := some false }]

theorem sampleSession_survives :
    Yaml.read (write sampleSession []) = .ok (toDatum sampleSession []) ∧
    load (saved (fun _ => .nothing) "a.yaml" sampleSession []) "a.yaml" = .ok sampleSession := by
  have htext : write sampleSession [] = "status: stopped\nstartUrl: ''\nstartTime: 0\nsteps:\n- type: fill\n  " ++
      "timestamp: 5\n  selector: '#a'\n  smartSelectors: []\n  value: ''\n  required: false\n" := by
    decide +kernel
  have hread : Yaml.read (write sampleSession []) = .ok (toDatum sampleSession []) := by
    rw [htext, Yaml.read_eq, String.toList_append, String.toList_ofList, String.toList_ofList]
    decide +kernel
  exact ⟨hread, (recordings_survive.2 (fun _ => .nothing) "a.yaml" sampleSession [] hread).1⟩

end RecordingFile

end PageTape
