import PageTape.Proofs.Dom.Field
import PageTape.Proofs.Recorder.Merged
import PageTape.Proofs.Recorder.OneField
import PageTape.Proofs.Replay.Wait
import Mathlib.Data.List.Infix

/-!
# Edits of one field are one step

* `typesInto` — events that type texts into one field, which each of them finds when its time has come;
* `play_typed` — when they are played, one step is recorded that fills a field, with what the field reads then;
* `edits_coalesce` — so texts that are typed into one field are one step, and whatever happens, no two steps that stand
  next to each other edit the same field.
-/

namespace PageTape.Replay

open Dom (Forest Location SameField keepsText)
open Recorder (Config takesText keepText)
open Scene (Act)

variable {config : Config} {id : Dom.Id} {f : Forest} {l : Location} {first : Step} {value? : Option String}
  {selector : String} {s : Scene}

/-! ### Events that type -/

/-- The text that an event types. -/
def Event.text : Event → String
  | type _ text _ => text
  | _ => ""

/-- The element of an identity is a field for text, and no part of a tool. -/
def isOpen (config : Config) (id : Dom.Id) (f : Forest) : Bool := (f.locate? id).any (takesText config)

/-- **Events that type texts into one field.**  Each of them finds the field when its time has come, and all the while
the field is one for text and no part of a tool. -/
def typesInto (config : Config) (id : Dom.Id) : Forest → List Event → Bool
  | _, [] => true
  | f, .type selector text _ :: rest =>
    (match f.document.require selector with
      | .ok m => m.tag.id == id
      | .error _ => false)
    && !text.isEmpty && text.toList.inits.all (fun cs => isOpen config id (f.typed id cs))
    && typesInto config id (f.typed id text.toList) rest
  | _, _ => false

lemma isOpen_iff : isOpen config id f = true ↔ ∃ l, f.locate? id = some l ∧ takesText config l = true := by
  unfold isOpen
  rw [Option.any_eq_true]

lemma typesInto_cons {e : Event} {rest : List Event} (h : typesInto config id f (e :: rest) = true) :
    ∃ target text interval, e = .type target text interval ∧ (f.document.require target).map (·.tag.id) = .ok id ∧
      text.toList ≠ [] ∧ (∀ cs, cs <+: text.toList → isOpen config id (f.typed id cs) = true) ∧
      typesInto config id (f.typed id text.toList) rest = true := by
  cases e with
  | type target text interval =>
    simp only [typesInto, Bool.and_eq_true, List.all_eq_true, List.mem_inits] at h
    obtain ⟨⟨⟨hfound, htext⟩, hopen⟩, hrest⟩ := h
    refine ⟨target, text, interval, rfl, ?_, by simpa using htext, hopen, hrest⟩
    split at hfound
    · rename_i m hm
      rw [hm]
      exact congrArg Except.ok (beq_iff_eq.1 hfound)
    · cases hfound
  | _ => cases h

/-- Something is typed by such events. -/
lemma typesInto_ne_nil {events : List Event} (h : typesInto config id f events = true) (hne : events ≠ []) :
    events.flatMap (·.text.toList) ≠ [] := by
  cases events with
  | nil => exact absurd rfl hne
  | cons e rest =>
    obtain ⟨_, _, _, rfl, -, htext, -⟩ := typesInto_cons h
    exact fun hnil => htext (List.append_eq_nil_iff.1 hnil).1

/-! ### The scene -/

/-- A scene in which the recorder listens, and one field has been typed into. -/
structure Typing (config : Config) (first : Step) (selector : String) (value? : Option String) (f : Forest)
    (s : Scene) : Prop where
  forest : s.page.forest = f
  heard : s.page.documentListeners.called "input" = [.recorder]
  recorder : s.recorder.OneField config first selector value?

namespace Typing

/-- The recorder moves on, and its notices go to the log. -/
lemma onward (h : Typing config first selector value? f s) {r : Recorder} {value' : Option String}
    (hr : r.OneField config first selector value') (log : List Scene.Entry) :
    Typing config first selector value' f { s with recorder := { r with notices := [] }, log } where
  forest := h.forest
  heard := h.heard
  recorder := ⟨⟨hr.onAdded, hr.onUpdated⟩, Scene.linked_forget hr.linked, hr.config, hr.active⟩

/-- The recorder does something that does not fail. -/
lemma byRecorder (act : Page → Recorder.Act Unit) (h : Typing config first selector value? f s) {r : Recorder}
    {value' : Option String} (hact : (act s.page).run s.recorder = (.ok ⟨⟩, r))
    (hr : r.OneField config first selector value') :
    ∃ t, (Scene.byRecorder act).run s = (.ok ⟨⟩, t) ∧ Typing config first selector value' f t := by
  rw [Scene.byRecorder_run, hact]
  exact ⟨_, rfl, h.onward hr _⟩

/-- An event that nobody but the recorder listens for. -/
lemma fire_run {s : Scene} {type : String} (h : s.page.documentListeners.called type = [.recorder]) (key : Option String) :
    (Scene.fire type id key).run s =
      (.ok true, ((Scene.byRecorder fun p => Recorder.hear p ⟨type, .element id, key⟩).run s).2) := by
  unfold Scene.fire Scene.deliver
  rw [Course.run_bind, Course.run_get]
  dsimp only
  rw [show (Scene.Hall.document.listeners s.page) = s.page.documentListeners from rfl, h]
  unfold Scene.callListeners Scene.callListener
  rw [Course.run_bind, Course.run_bind, Scene.run_quietly]
  rfl

/-- **The field gets a new value**, of which the recorder hears. -/
lemma enter (h : Typing config first selector value? f s) {value : String} {m : Location}
    (hm : (f.setValue id value).locate? id = some m) (htakes : takesText config m = true)
    (hquick : Locator.quick m = selector) :
    ∃ t, (Scene.enter id value).run s = (.ok ⟨⟩, t) ∧
      Typing config first selector (some m.value) (f.setValue id value) t := by
  obtain ⟨rfl, hheard, hone⟩ := h
  let typed : Recorder.Typed := ⟨m.tag.id, m.value, s.recorder.clock.now⟩
  let u : Scene := { s with page := s.page.changeForest (·.setValue id value) }
  have hrecording : s.recorder.isRecording = true := by
    obtain ⟨a, ha, ha'⟩ := hone.active
    exact Recorder.isRecording_iff.2 ⟨a, ha, ha'.recording⟩
  have htext : Recorder.heardText? u.recorder u.page ⟨"input", .element id, none⟩ = some (selector, typed) :=
    Recorder.heardText?_eq_some.2 ⟨hrecording, rfl, m, hm, hone.config.symm ▸ htakes, hquick.symm, rfl⟩
  obtain ⟨t, ht, hnext⟩ := byRecorder (s := u) (fun p => Recorder.hear p ⟨"input", .element id, none⟩)
    ⟨rfl, hheard, hone⟩ (Recorder.hear_text htext) (hone.keepText rfl)
  refine ⟨t, ?_, hnext⟩
  unfold Scene.enter
  rw [Course.run_bind, show (Scene.changeForest (·.setValue id value)).run s = (.ok ⟨⟩, u) from rfl]
  dsimp only
  rw [Course.run_discard, fire_run (s := u) hheard, ht]
  rfl

/-- A character is typed after what the field holds. -/
lemma typeText (h : Typing config first selector value? f s) (hl : f.locate? id = some l) (c : Char) {m : Location}
    (hm : (f.typed id [c]).locate? id = some m) (htakes : takesText config m = true)
    (hquick : Locator.quick m = selector) :
    ∃ t, (Scene.typeText id c.toString).run s = (.ok ⟨⟩, t) ∧
      Typing config first selector (some m.value) (f.typed id [c]) t := by
  have hforest : f.typed id [c] = f.setValue id (l.value.push c) := by rw [← Forest.valueOf_eq hl]; rfl
  rw [hforest] at hm ⊢
  obtain ⟨t, ht, hnext⟩ := h.enter hm htakes hquick
  refine ⟨t, ?_, hnext⟩
  have hlocated : (Scene.located id).run s = (.ok (some l), s) := by
    show (Except.ok (s.page.forest.locate? id), s) = _
    rw [h.forest, hl]
  unfold Scene.typeText
  rw [Course.run_bind, hlocated, show c.toString.toList = [c] by simp [Char.toString]]
  show (Scene.typeFrom id l.value [c]).run s = _
  unfold Scene.typeFrom
  rw [Course.run_bind, ht]
  rfl

variable (hfirst : first.kind ≠ .fill)
include hfirst

/-- Time passes. -/
lemma pass (h : Typing config first selector value? f s) (ms : Int) :
    ∃ t, (Replay.pass ms).run s = (.ok ⟨⟩, t) ∧ Typing config first selector value? f t := by
  obtain ⟨r, hr, hone⟩ := h.recorder.advance hfirst s.page ms
  exact h.byRecorder (fun p => Recorder.advance p ms) hr hone

/-- **Characters are typed**, with a pause after each. -/
lemma typeSlowly (h : Typing config first selector value? f s) (hl : f.locate? id = some l)
    (hs : (l.tag.lowerName == "select") = false) (hquick : Locator.quick l = selector) (interval : Int) (cs : List Char)
    (hopen : ∀ ds, ds <+: cs → isOpen config id (f.typed id ds) = true) :
    ∃ t, (Replay.typeSlowly id interval cs).run s = (.ok ⟨⟩, t) ∧
      Typing config first selector (if cs = [] then value? else some ((f.typed id cs).valueOf id)) (f.typed id cs) t := by
  induction cs generalizing f l s value? with
  | nil => exact ⟨s, rfl, h⟩
  | cons c rest ih =>
    obtain ⟨m, hm, hsame, -⟩ := Forest.locate?_typed hl hs [c]
    have hquick' : Locator.quick m = selector := hsame.quick.trans hquick
    obtain ⟨k, hk, htakes⟩ := isOpen_iff.1 (hopen [c] (by simp))
    obtain rfl : m = k := Option.some.inj (hm.symm.trans hk)
    obtain ⟨t, ht, htyped⟩ := h.typeText hl c hm htakes hquick'
    obtain ⟨u, hu, hpassed⟩ := htyped.pass hfirst interval
    obtain ⟨v, hv, hlast⟩ := ih hpassed hm (by rw [hsame.lowerName]; exact hs) hquick' fun ds hds =>
      hopen (c :: ds) (List.cons_prefix_cons.2 ⟨rfl, hds⟩)
    refine ⟨v, ?_, ?_⟩
    · unfold Replay.typeSlowly
      rw [Course.run_bind, ht]
      dsimp only
      rw [Course.run_bind, hu]
      exact hv
    · rw [if_neg (List.cons_ne_nil c rest)]
      split at hlast
      · rename_i hrest
        subst hrest
        rw [Forest.valueOf_eq hm]
        exact hlast
      · exact hlast

/-- **Events that type into the field happen.** -/
lemma playAll {events : List Event} (hevents : typesInto config id f events = true)
    (h : Typing config first selector value? f s) (hl : f.locate? id = some l)
    (hs : (l.tag.lowerName == "select") = false) (hquick : Locator.quick l = selector) :
    ∃ t, (Replay.playAll events).run s = (.ok ⟨⟩, t) ∧
      Typing config first selector
        (if events = [] then value? else some ((f.typed id (events.flatMap (·.text.toList))).valueOf id))
        (f.typed id (events.flatMap (·.text.toList))) t := by
  induction events generalizing f s l value? with
  | nil => exact ⟨s, rfl, h⟩
  | cons e rest ih =>
    obtain ⟨target, text, interval, rfl, hfound, htext, hopen, hrest⟩ := typesInto_cons hevents
    obtain ⟨t, ht, htyped⟩ := h.typeSlowly hfirst hl hs hquick interval text.toList hopen
    rw [if_neg htext] at htyped
    obtain ⟨m, hm, hsame, -⟩ := Forest.locate?_typed hl hs text.toList
    obtain ⟨u, hu, hnext⟩ := ih hrest htyped hm (by rw [hsame.lowerName]; exact hs) (hsame.quick.trans hquick)
    have htarget : (Replay.target target).run s = (.ok id, s) := by
      have hfind : s.find target = .ok id := by rw [← hfound, ← h.forest]; rfl
      unfold Replay.target
      rw [Course.run_bind, Course.run_get]
      dsimp only
      rw [hfind]
      rfl
    rw [List.flatMap_cons, Forest.typed_append]
    refine ⟨u, ?_, ?_⟩
    · unfold Replay.playAll Event.play
      rw [Course.run_bind, Course.run_bind, htarget]
      dsimp only
      rw [ht]
      exact hu
    · rw [if_neg (List.cons_ne_nil _ _)]
      split at hnext
      · rename_i hrest
        subst hrest
        exact hnext
      · exact hnext

end Typing

/-! ### A whole replay -/

lemma start_run (scenario : Scenario) (html : String) (config : Config) :
    (discard Scene.start : Act PUnit).run (scenario.scene html config) = (.ok ⟨⟩, { scenario.scene html config with
      recorder := (scenario.recorder config).begun (Page.ofHtml scenario.url html)
      page := Scene.attach (Page.ofHtml scenario.url html) 0 }) := rfl

/-- A field that texts are typed into takes them. -/
lemma takesText_of_typesInto {events : List Event} {f : Forest} (h : typesInto config id f events = true)
    (hne : events ≠ []) (hl : f.locate? id = some l) : takesText config l = true := by
  cases events with
  | nil => exact absurd rfl hne
  | cons e rest =>
    obtain ⟨_, _, _, rfl, -, -, hopen, -⟩ := typesInto_cons h
    obtain ⟨m, hm, htakes⟩ := isOpen_iff.1 (hopen [] List.nil_prefix)
    exact Option.some.inj (hl.symm.trans hm) ▸ htakes

/-- What takes texts is no select. -/
lemma not_select_of_takesText (h : takesText config l = true) : (l.tag.lowerName == "select") = false := by
  have hkind := (Recorder.takesText_iff.1 h).2
  unfold Recorder.controlKind? at hkind
  cases hselect : l.tag.lowerName == "select" with
  | false => rfl
  | true =>
    rw [hselect] at hkind
    cases hkind

/-- The recording is stopped, and its session is what the recorder has. -/
lemma run_stop {s : Scene} {session session' : Session} {r : Recorder}
    (hv : (Recorder.stop s.page).run s.recorder = (.ok session', r)) (hsession : r.session? = some session) :
    ∃ t, (discard Scene.stop : Act PUnit).run s = (.ok ⟨⟩, t) ∧ t.recorder.session? = some session := by
  unfold Scene.stop
  rw [Course.run_discard, Course.run_bind, Course.run_get]
  dsimp only
  rw [Course.run_bind, Scene.byRecorder_run, hv]
  dsimp only
  rw [Course.run_bind, Scene.release_run]
  exact ⟨_, rfl, hsession⟩

/-- **One step fills the field that is typed into**, with what the field reads then. -/
theorem play_typed (scenario : Scenario) (html : String)
    (h : typesInto config id (Page.ofHtml scenario.url html).forest scenario.events = true)
    (hne : scenario.events ≠ []) (hl : (Page.ofHtml scenario.url html).forest.locate? id = some l) :
    ∃ take fill, scenario.play html config = .ok take ∧ take.session.steps.filter (·.kind == .fill) = [fill] ∧
      fill.value = some (if keepsText l.tag then l.value ++ String.join (scenario.events.map (·.text)) else "") := by
  generalize hp : Page.ofHtml scenario.url html = p at h hl
  have hs := not_select_of_takesText (takesText_of_typesInto h hne hl)
  have hfree : (scenario.recorder config).Linked := .of_free rfl rfl
  obtain ⟨first, hfirst, hbegun⟩ := Recorder.OneField.begun hfree rfl ⟨nofun, nofun⟩ p (Locator.quick l)
  have htyping : Typing config first (Locator.quick l) none p.forest { scenario.scene html config with
      recorder := (scenario.recorder config).begun p, page := Scene.attach p 0 } := by
    refine ⟨rfl, ?_, hbegun⟩
    rw [← hp]
    rfl
  obtain ⟨t, ht, htyped⟩ := htyping.playAll hfirst h hl hs rfl
  obtain ⟨r, hr, hone⟩ := htyped.recorder.runAll hfirst t.page
  obtain ⟨u, hu, hdone⟩ := htyped.byRecorder (fun p => Recorder.runAll p) hr hone
  rw [if_neg hne] at hdone
  obtain ⟨session, fill, v, hv, hsession, hsteps, hfill, hvalue⟩ := hdone.recorder.stop hfirst u.page
  obtain ⟨w, hw, hws⟩ := run_stop hv hsession
  have hrun : scenario.perform.run (scenario.scene html config) = (.ok ⟨⟩, w) := by
    unfold Scenario.perform
    rw [Course.run_bind, start_run, hp]
    dsimp only
    rw [Course.run_bind, ht]
    dsimp only
    rw [Course.run_bind, hu]
    exact hw
  have hplay : scenario.play html config = .ok ⟨session, w.recorder.responses⟩ :=
    Scenario.play_eq_ok.2 ⟨w, hrun, by rw [hws]; rfl⟩
  refine ⟨_, fill, hplay, ?_, hvalue.trans (congrArg some ?_)⟩
  · have hkind : (first.kind == .fill) = false := beq_eq_false_iff_ne.2 hfirst
    have hkind' : (fill.kind == .fill) = true := beq_iff_eq.2 (Recorder.isAbout_iff.1 hfill).1
    simp [hsteps, hkind, hkind']
  · have htyped : scenario.events.flatMap (·.text.toList) ≠ [] := typesInto_ne_nil h hne
    obtain ⟨m, hm, -, hkept, hlost⟩ := Forest.locate?_typed hl hs (scenario.events.flatMap (·.text.toList))
    rw [Forest.valueOf_eq hm]
    cases hkeeps : keepsText l.tag with
    | false => exact hlost hkeeps htyped
    | true =>
      rw [hkept hkeeps, if_pos rfl, ← String.toList_inj]
      simp [List.flatMap_map]

/-! ### Edits coalesce -/

/-- **Edits of one field that follow each other are one step.**

* Whatever happens in a scene, as long as steps are not edited by hand, no two steps of its session that stand next to
  each other fill the same field or choose in the same select.
* Texts that are typed into one field are recorded as one step that fills it, however fast they are typed, with the value
  that the field had and all the texts; only a field that does not read again what is typed into it, as it keeps a text
  of its own kind, is recorded as empty. -/
theorem edits_coalesce (s : Scene) (actions : List Scene.Action) (scenario : Scenario) (html : String)
    (config : Config) :
    (s.Fresh → (∀ a ∈ actions, a.edits = false) →
      ∀ session, (s.after actions).recorder.session? = some session → Recorder.Merged session.steps) ∧
    ∀ (id : Dom.Id) (l : Location),
      (Page.ofHtml scenario.url html).forest.locate? id = some l → scenario.events ≠ [] →
      typesInto config id (Page.ofHtml scenario.url html).forest scenario.events = true →
        ∃ take fill, scenario.play html config = .ok take ∧ take.session.steps.filter (·.kind == .fill) = [fill] ∧
          fill.value =
            some (if keepsText l.tag then l.value ++ String.join (scenario.events.map (·.text)) else "") := by
  refine ⟨fun hs hedits session hsession => ?_, fun id l hl hne htypes => play_typed scenario html htypes hne hl⟩
  have hreachable : s.Reachable := .fresh hs
  obtain ⟨signals, hsignals, hafter⟩ := hreachable.signals false actions fun a ha he => (hedits a ha).symm.trans he
  have hunedited : ∀ x ∈ signals, x.edits = false := fun x hx =>
    Bool.eq_false_iff.2 fun he => Bool.false_ne_true (hsignals x hx he)
  have hmerged := (Recorder.AllMerged.fresh hs.recorder).obeyAll hreachable.recorder.linked hunedited
  rw [hafter] at hsession
  exact hmerged.session hsession

/-- A page with one field. -/
def namePage : String := "<form><input id='name' value='Dr '></form>"

/-- Its field is found in two ways, and typed into fast and slowly. -/
def naming : Scenario := { events := [.type "#name" "Ada" 50, .type "form > input" " L" 700] }

/-- Before that, it is typed into while a session is recorded. -/
def noting : List Scene.Action := [.start, .type 2 "A", .advance 900, .type 2 "d", .advance 900, .type 2 "a", .stop]

theorem naming_coalesces :
    (∃ session, ((naming.scene namePage {}).after noting).recorder.session? = some session ∧
      session.steps.map (·.kind) = [.navigate, .fill] ∧ Recorder.Merged session.steps) ∧
    ∃ take fill, naming.play namePage {} = .ok take ∧ take.session.steps.filter (·.kind == .fill) = [fill] ∧
      fill.value = some "Dr Ada L" := by
  obtain ⟨hmerged, hfills⟩ := edits_coalesce (naming.scene namePage {}) noting naming namePage {}
  have hsession : (((naming.scene namePage {}).after noting).recorder.session?.map (·.steps.map (·.kind))) =
      some [.navigate, .fill] := by decide +kernel
  obtain ⟨session, hs, hkinds⟩ := Option.map_eq_some_iff.1 hsession
  refine ⟨⟨session, hs, hkinds, hmerged (scene_fresh naming namePage {}) (by decide) session hs⟩, ?_⟩
  have hfield : ((Page.ofHtml naming.url namePage).forest.locate? 2).map (fun l => (keepsText l.tag, l.value)) =
      some (true, "Dr ") := by decide +kernel
  obtain ⟨l, hl, htold⟩ := Option.map_eq_some_iff.1 hfield
  obtain ⟨hkeeps, hvalue⟩ := Prod.mk.inj htold
  obtain ⟨take, fill, htake, hfill, hfilled⟩ := hfills 2 l hl nofun (by decide +kernel)
  rw [hkeeps, hvalue] at hfilled
  exact ⟨take, fill, htake, hfill, hfilled⟩

/-- A page on which the reading of a word can be edited. -/
def readingPage : String := "<ruby>語<rt id='reading' contenteditable='true'></rt></ruby>"

/-- The reading is typed. -/
def reading : Scenario := { events := [.type "#reading" "go" 50] }

/-- **A reading is lost**: the text is written as a plain one, and only texts of readings are read there. -/
theorem reading_lost : typesInto {} 2 (Page.ofHtml reading.url readingPage).forest reading.events = true ∧
    (Page.ofHtml reading.url readingPage).forest.valueOf 2 = "" ∧
    ¬ ∃ take fill, reading.play readingPage {} = .ok take ∧ take.session.steps.filter (·.kind == .fill) = [fill] ∧
      fill.value = some ("" ++ "go") := by
  have hplay : ((reading.play readingPage {}).toOption.map fun take =>
      (take.session.steps.filter (·.kind == .fill)).map (·.value)) = some [some ""] := by decide +kernel
  refine ⟨by decide +kernel, by decide +kernel, ?_⟩
  rintro ⟨take, fill, htake, hfill, hvalue⟩
  rw [htake] at hplay
  simp [Except.toOption, hfill, hvalue] at hplay

end PageTape.Replay
