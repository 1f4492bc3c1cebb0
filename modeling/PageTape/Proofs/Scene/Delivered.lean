import PageTape.Proofs.Scene.Submit
import PageTape.Proofs.Scene.Told

/-!
# What becomes of an event

* `Delivered hall s events t` — those who listen in a hall hear some events one after another, and nothing else happens.
  Each function of the page sees an event once for each time that it listens for it (`noted`), the recorder hears it
  likewise (`hearing`), and any function may keep the page from going on (`allows`);
* `deliver_run`, `Delivered.next` — to deliver an event does this and nothing else, whoever listens;
* `fill_delivers`, `bring_delivers` — so do the events of a field that is filled in, and of one that a browser tells of.
-/

namespace PageTape.Scene

open Dom (Forest Id Location)

variable {s t u : Scene} {l : Location} {hall : Hall}

/-! ### Those who are called -/

/-- What the functions of the page see of an event. -/
def noted (s : Scene) (event : Page.Event) : List Page.Listener → List Entry :=
  List.filterMap fun
    | .page name => some (.event name event (targetName s.page.forest event.target))
    | .recorder => none

/-- A listener lets the page go on. -/
def letsOn (s : Scene) : Page.Listener → Bool
  | .page name => listenerBehaviour s name != .prevent
  | .recorder => true

/-- The listeners in a hall that are called for an event. -/
def calledFor (hall : Hall) (s : Scene) (event : Page.Event) : List Page.Listener :=
  (hall.listeners s.page).called event.type

/-- No function of the page keeps it from doing what an event is for. -/
def allows (hall : Hall) (s : Scene) (event : Page.Event) : Bool := (calledFor hall s event).all (letsOn s)

/-- The recorder after listeners were called, each time that it is one of them. -/
def hearing (p : Page) (event : Page.Event) (listeners : List Page.Listener) (r : Recorder) : Recorder :=
  (listeners.filter (· == .recorder)).foldl (fun r _ => Recorder.heard p event r) r

/-- Nothing has changed but the recorder and what the onlookers saw. -/
structure Untouched (s t : Scene) : Prop where
  page : t.page = s.page
  browser : t.browser = s.browser
  listeners : t.listeners = s.listeners
  observers : t.observers = s.observers

/-- **Events are heard**, one after another: each by all who listen for it in a hall. -/
structure Delivered (hall : Hall) (s : Scene) (events : List Page.Event) (t : Scene) : Prop extends Untouched s t where
  recorder : t.recorder = events.foldl (fun r e => hearing s.page e (calledFor hall s e) r) s.recorder
  seen : t.log.filter (!·.isStep) = s.log.filter (!·.isStep) ++ events.flatMap fun e => noted s e (calledFor hall s e)

namespace Untouched

lemma refl (s : Scene) : Untouched s s := ⟨rfl, rfl, rfl, rfl⟩

lemma trans (h : Untouched s t) (h' : Untouched t u) : Untouched s u :=
  ⟨h'.page.trans h.page, h'.browser.trans h.browser, h'.listeners.trans h.listeners, h'.observers.trans h.observers⟩

lemma noted (h : Untouched s t) : Scene.noted t = Scene.noted s := by
  funext event
  unfold Scene.noted
  rw [h.page]

lemma letsOn (h : Untouched s t) : Scene.letsOn t = Scene.letsOn s := by
  funext listener
  unfold Scene.letsOn listenerBehaviour
  rw [h.listeners]

lemma calledFor (h : Untouched s t) (hall : Hall) : Scene.calledFor hall t = Scene.calledFor hall s := by
  funext event
  unfold Scene.calledFor
  rw [h.page]

end Untouched

/-- A listener is called. -/
lemma callListener_run (event : Page.Event) (listener : Page.Listener) (s : Scene) :
    ∃ t, (callListener event listener).run s = (.ok (letsOn s listener), t) ∧ Untouched s t ∧
      t.recorder = hearing s.page event [listener] s.recorder ∧
      t.log.filter (!·.isStep) = s.log.filter (!·.isStep) ++ noted s event [listener] := by
  cases listener with
  | page name =>
    refine ⟨_, rfl, ⟨rfl, rfl, rfl, rfl⟩, rfl, ?_⟩
    rw [List.filter_append]
    rfl
  | recorder =>
    refine ⟨((byRecorder fun p => Recorder.hear p event).run s).2, ?_, ?_, ?_, ?_⟩
    · unfold callListener
      rw [Course.run_bind, run_quietly]
      rfl
    · rw [byRecorder_run]
      exact ⟨rfl, rfl, rfl, rfl⟩
    · rw [byRecorder_run]
      rfl
    · rw [byRecorder_run, List.filter_append]
      congr 1
      simp [List.filter_eq_nil_iff, Entry.isStep, noted]

/-- Listeners are called one after another. -/
lemma callListeners_run (event : Page.Event) (listeners : List Page.Listener) (s : Scene) :
    ∃ t, (callListeners event listeners).run s = (.ok (listeners.all (letsOn s)), t) ∧ Untouched s t ∧
      t.recorder = hearing s.page event listeners s.recorder ∧
      t.log.filter (!·.isStep) = s.log.filter (!·.isStep) ++ noted s event listeners := by
  induction listeners generalizing s with
  | nil => exact ⟨s, rfl, .refl s, rfl, (List.append_nil _).symm⟩
  | cons listener rest ih =>
    obtain ⟨t, ht, hst, hrecorder, hseen⟩ := callListener_run event listener s
    obtain ⟨u, hu, htu, hrecorder', hseen'⟩ := ih t
    refine ⟨u, ?_, hst.trans htu, ?_, ?_⟩
    · unfold callListeners
      rw [Course.run_bind, ht]
      dsimp only
      rw [Course.run_bind, hu, hst.letsOn, List.all_cons, Bool.and_comm]
      rfl
    · rw [hrecorder', hrecorder, hst.page]
      unfold hearing
      rw [← List.foldl_append, ← List.filter_append, List.singleton_append]
    · rw [hseen', hseen, hst.noted, List.append_assoc]
      unfold noted
      rw [← List.filterMap_append, List.singleton_append]

namespace Delivered

lemma nil (hall : Hall) (s : Scene) : Delivered hall s [] s := ⟨.refl s, rfl, (List.append_nil _).symm⟩

/-- An event is delivered after others. -/
lemma next {events : List Page.Event} (h : Delivered hall s events t) (event : Page.Event) :
    ∃ u, (deliver hall event).run t = (.ok (allows hall s event), u) ∧ Delivered hall s (events ++ [event]) u := by
  obtain ⟨u, hu, htu, hrecorder, hseen⟩ := callListeners_run event (calledFor hall t event) t
  rw [h.letsOn] at hu
  rw [h.calledFor] at hu hrecorder hseen
  have hrun : (deliver hall event).run t = (callListeners event (calledFor hall t event)).run t := rfl
  refine ⟨u, hrun.trans (h.calledFor hall ▸ hu), h.toUntouched.trans htu, ?_, ?_⟩
  · rw [hrecorder, h.recorder, h.page, List.foldl_append]
    rfl
  · rw [hseen, h.seen, h.noted, List.flatMap_append, List.append_assoc, List.flatMap_singleton]

end Delivered

/-- **An event is delivered**: those who listen hear it, and nothing else happens. -/
lemma deliver_run (hall : Hall) (event : Page.Event) (s : Scene) :
    ∃ t, (deliver hall event).run s = (.ok (allows hall s event), t) ∧ Delivered hall s [event] t :=
  (Delivered.nil hall s).next event

/-! ### The recorder of a session -/

/-- The recorder of a session hears an event of the document once, whoever else listens. -/
lemma hearing_eq_heard {a : Recorder.Active} {event : Page.Event} {p : Page} (h : s.Attached)
    (ha : s.recorder.active = some a) (hp : p.documentListeners = s.page.documentListeners)
    (htype : event.type ∈ Recorder.documentEvents) (r : Recorder) :
    hearing p event (p.documentListeners.called event.type) r = Recorder.heard p event r := by
  have hcalled : ∀ type ∈ Recorder.documentEvents,
      Page.Listeners.called documentRegistrations type = [.recorder] := by decide
  have hown : ∀ (ls : Page.Listeners) (type : String),
      (ls.called type).filter (· == .recorder) = ls.ofRecorder.called type := fun ls type => by
    simp only [Page.Listeners.called, Page.Listeners.ofRecorder, List.filter_map, List.filter_append, List.filter_filter,
      Function.comp_def, Bool.and_comm, Bool.and_left_comm, Bool.and_assoc]
  unfold hearing
  rw [hown, hp, h.registered ha, hcalled _ htype]
  rfl

/-! ### Fields -/

/-- The scene with other elements, of which nobody has been told. -/
def changed (s : Scene) (f : Forest → Forest) : Scene := { s with page := s.page.changeForest f, log := [] }

/-- A field is filled in: it has the value, and then `input` and `change` are heard. -/
lemma fill_delivers (s : Scene) (id : Id) (value : String) : ∃ t, Delivered .document (changed s (·.setValue id value))
    [⟨"input", .element id, none⟩, ⟨"change", .element id, none⟩] t ∧
      s.step (.fill id value) = ⟨.ok .nothing, t.log, { t with log := [] }⟩ := by
  obtain ⟨t, ht, hinput⟩ := deliver_run .document ⟨"input", .element id, none⟩ (changed s (·.setValue id value))
  obtain ⟨u, hu, hchange⟩ := hinput.next ⟨"change", .element id, none⟩
  refine ⟨u, hchange, ?_⟩
  have hset : (changeForest (·.setValue id value)).run { s with log := [] } =
      (.ok ⟨⟩, changed s (·.setValue id value)) := rfl
  unfold step perform unanswered fill enter fire
  dsimp only
  rw [Course.run_bind, Course.run_bind, Course.run_bind, hset]
  dsimp only
  rw [Course.run_discard, ht]
  simp only [Except.map]
  rw [Course.run_discard, hu]
  rfl

/-- What a report of a linked browser does. -/
lemma step_bring_run (hlinked : s.browser.isLinked = true) {report : Datum} {act : Act Unit}
    (hact : bring report = (do
      if !(← get).browser.isLinked then return
      act)) (hrun : act.run { s with log := [] } = (.ok ⟨⟩, t)) :
    s.step (.bring report) = ⟨.ok .nothing, t.log, { t with log := [] }⟩ := by
  unfold step perform unanswered
  dsimp only
  rw [hact, Course.run_bind, Course.run_bind, Course.run_get]
  dsimp only
  rw [hlinked]
  simp only [Bool.not_true, Bool.false_eq_true, if_false]
  rw [hrun]
  rfl

/-- A report of an event is brought to a page that is linked. -/
lemma step_bring (hlinked : s.browser.isLinked = true) {told : Told} (htype : told.type ∈ Recorder.documentEvents)
    (selector url : String) : s.step (.bring (told.report selector url)) =
      let (result, after) := (unanswered (bringEvent told.type (told.report selector url))).run { s with log := [] }
      ⟨result, after.log, { after with log := [] }⟩ := by
  unfold step perform unanswered
  dsimp only
  rw [told.bring_report selector url htype, Course.run_bind, Course.run_bind, Course.run_bind, Course.run_get]
  dsimp only
  rw [hlinked]
  rfl

/-- A browser tells of an event: the control has the state that is told, and then the event is heard. -/
lemma bring_delivers (hlinked : s.browser.isLinked = true) (hd : s.page.forest.Distinct) {told : Told}
    (htype : told.type ∈ Recorder.documentEvents) {selector : String}
    (hfound : s.page.document.query? selector = .ok (some l)) (url : String) :
    ∃ t, Delivered .document (changed s (syncControl · l told.value told.checked))
      [⟨told.type, .element l.tag.id, told.key⟩] t ∧
        s.step (.bring (told.report selector url)) = ⟨.ok .nothing, t.log, { t with log := [] }⟩ := by
  have hl : s.page.forest.locate? l.tag.id = some l := hd.locate? (Page.mem_locations_of_query? hfound)
  obtain ⟨t, ht, hevent⟩ := deliver_run .document ⟨told.type, .element l.tag.id, told.key⟩
    (changed s (syncControl · l told.value told.checked))
  refine ⟨t, hevent, ?_⟩
  have hresolve : (resolve? (reportText (told.report selector url) "selector")).run { s with log := [] } =
      (.ok (some l), { s with log := [] }) :=
    Shows.resolve? ⟨rfl, rfl, rfl⟩ (by rw [told.selector_report]; exact hfound)
  have hsync : (sync l.tag.id told.value told.checked).run { s with log := [] } =
      (.ok ⟨⟩, changed s (syncControl · l told.value told.checked)) := by
    unfold sync
    rw [Course.run_bind, Shows.located ⟨rfl, rfl, rfl⟩, hl]
    rfl
  have hrun : (bringEvent told.type (told.report selector url)).run { s with log := [] } = (.ok ⟨⟩, t) := by
    unfold bringEvent fire
    rw [Course.run_bind, hresolve]
    dsimp only
    rw [told.value_report, told.checked_report, told.key_report, Course.run_bind, hsync]
    dsimp only
    rw [Course.run_discard, ht]
    rfl
  rw [step_bring hlinked htype]
  unfold unanswered
  rw [Course.run_bind, hrun]
  rfl

/-! ### Elements that are found late -/

/-- The scene with the content of the browser, as much of it as there is a place for. -/
def reloaded (s : Scene) : Scene := { s with page := s.page.changeForest fun f => (f.load s.browser.html).2 }

/-- The content of the browser is loaded, and nobody is told. -/
lemma syncContent_run (s : Scene) : syncContent.run s = (match (s.page.forest.load s.browser.html).1 with
    | some fault => .error fault
    | none => .ok ⟨⟩, s.reloaded) := by
  have hchange : (changeForest fun _ => (s.page.forest.load s.browser.html).2).run s = (.ok ⟨⟩, s.reloaded) := rfl
  unfold syncContent load
  rw [Course.run_bind, Course.run_get]
  dsimp only
  rw [Course.run_bind, Course.run_get]
  dsimp only
  rw [Course.run_bind, hchange]
  dsimp only
  cases (s.page.forest.load s.browser.html).1 <;> rfl

/-- The scene once the content of the browser has been loaded, of which nobody has been told. -/
def resynced (s : Scene) : Scene := { s with log := [] }.reloaded

lemma resynced_run (h : (s.page.forest.load s.browser.html).1 = none) :
    syncContent.run { s with log := [] } = (.ok ⟨⟩, resynced s) := by
  rw [syncContent_run, show ({ s with log := [] } : Scene).page.forest.load s.browser.html = _ from rfl, h]
  rfl

lemma resynced_eq (h : (s.page.forest.load s.browser.html).1 = none) :
    (s.step .syncContent).scene = resynced s := by
  unfold step perform unanswered
  dsimp only
  rw [Course.run_bind, resynced_run h]
  rfl

/-- An element that is not found at first is looked for again once the content of the browser has been loaded. -/
lemma bring_resynced (hlinked : s.browser.isLinked = true) {told : Told} (htype : told.type ∈ Recorder.documentEvents)
    {selector : String} (hnone : s.page.document.query? selector = .ok none)
    (hloads : (s.page.forest.load s.browser.html).1 = none)
    (hfound : (resynced s).page.document.query? selector = .ok (some l)) (url : String) :
    s.step (.bring (told.report selector url)) = (resynced s).step (.bring (told.report selector url)) := by
  have hselector := told.selector_report selector url
  have hne : (reportText (told.report selector url) "selector").plain.isEmpty = false := by
    rw [hselector]
    exact Page.isEmpty_of_query? hfound
  rw [← hselector] at hnone hfound
  have hlate : (resolve? (reportText (told.report selector url) "selector")).run { s with log := [] } =
      (resolve? (reportText (told.report selector url) "selector")).run (resynced s) := by
    unfold resolve?
    simp only [hne, Bool.false_eq_true, if_false]
    rw [Course.run_bind, named?_run (s := { s with log := [] }) hne hnone, Course.run_bind, named?_run hne hfound]
    dsimp only
    rw [Course.run_bind, resynced_run hloads]
    dsimp only
    rw [named?_run hne hfound]
    rfl
  rw [step_bring hlinked htype, step_bring (s := resynced s) hlinked htype]
  unfold unanswered bringEvent
  rw [Course.run_bind, Course.run_bind, hlate, Course.run_bind, Course.run_bind]
  rfl

end PageTape.Scene
