import PageTape.Proofs.Scene.Control
import PageTape.Proofs.Scene.Move

/-!
# What a browser tells is what was done

* `Told`, `Brings` — what a browser tells of an event, and scenes to which it tells events one after another, each by a
  selector that finds the element when the report comes;
* `Tells` — what a browser tells of each thing that a user does to a control;
* `Unnoticed` — pages that a recorder does not tell apart, as after a report of a value that the control has.
-/

namespace PageTape

open Dom (Forest Id Location Retouch)

/-- What is found by a selector is an element of the page. -/
lemma Page.mem_locations_of_query? {p : Page} {l : Location} {selector : String}
    (h : p.document.query? selector = .ok (some l)) : l ∈ p.forest.locations := by
  have hmem : l ∈ p.document.descendants := by
    unfold Location.query? at h
    cases hread : readSelectors selector with
    | error fault => rw [hread] at h; cases h
    | ok selectors =>
      rw [hread] at h
      exact List.mem_of_find?_eq_some (Except.ok.inj h)
  exact Forest.mem_locations_of_mem_document hmem

/-- A selector that finds an element is not empty. -/
lemma Page.isEmpty_of_query? {p : Page} {l : Location} {selector : String}
    (h : p.document.query? selector = .ok (some l)) : selector.isEmpty = false := by
  rw [Bool.eq_false_iff]
  intro hempty
  rw [String.isEmpty_iff.1 hempty] at h
  cases h

namespace Scene

variable {s t : Scene} {p : Page} {r : Recorder} {b : Browser} {l : Location}

/-! ### Reports -/

/-- A text under a key of a report. -/
lemma reportText_of_text {report : Datum} {key value : String} (h : report.get? key = some (.text value)) :
    (reportText report key).plain = value := by
  unfold reportText
  rw [h]
  show (if (Datum.text value).isEmpty then Datum.text "" else Datum.text value).plain = value
  split
  · rename_i hempty
    exact (String.isEmpty_iff.1 hempty).symm
  · rfl

/-- The element that a report names, if it names one. -/
lemma named?_run {selector : Datum} {found : Option Location} (hne : selector.plain.isEmpty = false)
    (h : s.page.document.query? selector.plain = .ok found) : (named? selector).run s = (.ok found, s) := by
  unfold named?
  simp only [hne, Bool.false_eq_true, if_false]
  rw [Course.run_bind, Course.run_get]
  dsimp only
  rw [h]
  rfl

/-- What a browser tells of an event: its type and element, what the control holds then, and the key. -/
structure Told where
  type : String
  element : Id
  value : Option String := none
  checked : Option Bool := none
  key : Option String := none

namespace Told

/-- The report of an event, with a selector of the element and the address of the page. -/
def report (told : Told) (selector url : String) : Datum :=
  .map ([("type", .text told.type), ("selector", .text selector), ("url", .text url)] ++
    Datum.optional "value" (told.value.map .text) ++ Datum.optional "checked" (told.checked.map .bool) ++
    Datum.optional "key" (told.key.map .text))

/-- The event that is told of. -/
def event (told : Told) : Page.Event := ⟨told.type, .element told.element, told.key⟩

variable (told : Told) (selector url : String)

lemma type_report : plainEntry (told.report selector url) "type" = told.type := rfl

lemma selector_report : (reportText (told.report selector url) "selector").plain = selector := reportText_of_text rfl

lemma value_report : ((told.report selector url).given? "value").map (·.plain) = told.value := by
  obtain ⟨type, element, _ | value, _ | checked, _ | key⟩ := told <;> rfl

lemma checked_report : ((told.report selector url).get? "checked").bind truth? = told.checked := by
  obtain ⟨type, element, _ | value, _ | checked, _ | key⟩ := told <;> first | rfl | cases checked <;> rfl

lemma key_report : ((told.report selector url).given? "key").map (·.plain) = told.key := by
  obtain ⟨type, element, _ | value, _ | checked, _ | key⟩ := told <;> rfl

/-- The report of an event of the document is brought as such, if the page is linked. -/
lemma bring_report (htype : told.type ∈ Recorder.documentEvents) : Scene.bring (told.report selector url) = (do
    if !(← get).browser.isLinked then return
    bringEvent told.type (told.report selector url)) := by
  unfold Scene.bring
  rw [told.type_report]
  obtain ⟨type, element, value, checked, key⟩ := told
  simp only [Recorder.documentEvents, List.mem_cons, List.not_mem_nil, or_false] at htype
  rcases htype with rfl | rfl | rfl | rfl | rfl <;> rfl

end Told

/-! ### What becomes of page and recorder -/

/-- The scene has a page, a recorder and a browser. -/
structure Shows (p : Page) (r : Recorder) (b : Browser) (s : Scene) : Prop where
  page : s.page = p
  recorder : s.recorder = r
  browser : s.browser = b

/-- Nobody but the recorder listens to the document. -/
def Unheard (p : Page) : Prop := ∀ x ∈ p.documentListeners, x.listener = .recorder

instance (p : Page) : Decidable (Unheard p) := inferInstanceAs (Decidable (∀ x ∈ _, _))

/-- The recorder after it has heard an event of a page, as often as it listens for it. -/
def hears (p : Page) (event : Page.Event) (r : Recorder) : Recorder :=
  (p.documentListeners.called event.type).foldl
    (fun r _ => { ((Recorder.hear p event).run r).2 with notices := [] }) r

lemma Unheard.called (h : Unheard p) (type : String) : ∀ x ∈ p.documentListeners.called type, x = .recorder := by
  intro x hx
  simp only [Page.Listeners.called, List.map_append, List.mem_append, List.mem_map, List.mem_filter] at hx
  rcases hx with ⟨y, ⟨⟨hy, -⟩, -⟩, rfl⟩ | ⟨y, ⟨⟨hy, -⟩, -⟩, rfl⟩ <;> exact h y hy

namespace Shows

/-- The recorder hears an event, and the page goes on. -/
lemma fire (h : Shows p r b s) (hp : Unheard p) (type : String) (id : Id) (key : Option String) :
    ∃ t, (Scene.fire type id key).run s = (.ok true, t) ∧ Shows p (hears p ⟨type, .element id, key⟩ r) b t := by
  have hlisten : ∀ (ls : List Page.Listener) (r : Recorder) (s : Scene), (∀ x ∈ ls, x = .recorder) → Shows p r b s →
      ∃ t, (callListeners ⟨type, .element id, key⟩ ls).run s = (.ok true, t) ∧ Shows p (ls.foldl
        (fun r _ => { ((Recorder.hear p ⟨type, .element id, key⟩).run r).2 with notices := [] }) r) b t := by
    intro ls
    induction ls with
    | nil => exact fun r s _ h => ⟨s, rfl, h⟩
    | cons x rest ih =>
      intro r s hls h
      obtain ⟨rfl, hrest⟩ := List.forall_mem_cons.1 hls
      obtain ⟨rfl, rfl, rfl⟩ := h
      obtain ⟨t, ht, hshows⟩ := ih _ ((byRecorder fun p => Recorder.hear p ⟨type, .element id, key⟩).run s).2 hrest
        ⟨by rw [byRecorder_run], by rw [byRecorder_run], by rw [byRecorder_run]⟩
      refine ⟨t, ?_, hshows⟩
      unfold callListeners callListener
      rw [Course.run_bind, Course.run_bind, run_quietly]
      dsimp only
      rw [Course.run_pure]
      dsimp only
      rw [Course.run_bind, ht]
      rfl
  obtain ⟨t, ht, hshows⟩ := hlisten _ r s (hp.called type) h
  refine ⟨t, ?_, hshows⟩
  unfold Scene.fire deliver
  rw [Course.run_bind, Course.run_get]
  dsimp only
  rw [show (Hall.document.listeners s.page) = p.documentListeners from congrArg Page.documentListeners h.page]
  exact ht

lemma changeForest (h : Shows p r b s) (f : Forest → Forest) :
    ∃ t, (Scene.changeForest f).run s = (.ok ⟨⟩, t) ∧ Shows (p.changeForest f) r b t :=
  ⟨_, rfl, by rw [← h.page], h.recorder, h.browser⟩

lemma located (h : Shows p r b s) (id : Id) : (Scene.located id).run s = (.ok (p.forest.locate? id), s) := by
  obtain ⟨rfl, -, -⟩ := h
  rfl

/-- A control is brought to a state. -/
lemma sync (h : Shows p r b s) (hl : p.forest.locate? l.tag.id = some l) (value : Option String)
    (checked : Option Bool) :
    ∃ t, (Scene.sync l.tag.id value checked).run s = (.ok ⟨⟩, t) ∧
      Shows (p.changeForest (syncControl · l value checked)) r b t := by
  obtain ⟨t, ht, hshows⟩ := h.changeForest (syncControl · l value checked)
  refine ⟨t, ?_, hshows⟩
  unfold Scene.sync
  rw [Course.run_bind, h.located, hl]
  exact ht

lemma step {p' : Page} {r' : Recorder} {b' : Browser} {a : Action}
    (ha : ∀ s, Shows p r b s → Shows p' r' b' ((perform a).run s).2) (h : Shows p r b s) :
    Shows p' r' b' (s.step a).scene := by
  have hshows := ha { s with log := [] } ⟨h.page, h.recorder, h.browser⟩
  exact ⟨hshows.page, hshows.recorder, hshows.browser⟩

/-- The element that a report names is found. -/
lemma resolve? (h : Shows p r b s) {selector : Datum} (hfound : p.document.query? selector.plain = .ok (some l)) :
    (Scene.resolve? selector).run s = (.ok (some l), s) := by
  obtain ⟨rfl, -, -⟩ := h
  have hne := Page.isEmpty_of_query? hfound
  unfold Scene.resolve?
  simp only [hne, Bool.false_eq_true, if_false]
  rw [Course.run_bind, named?_run hne hfound]
  rfl

/-- **A report of an event**: the control is brought to the state that is told, and the recorder hears the event. -/
lemma bring (h : Shows p r b s) (hb : b.isLinked = true) (hp : Unheard p) (hd : p.forest.Distinct) {told : Told}
    (htype : told.type ∈ Recorder.documentEvents) {selector : String}
    (hfound : p.document.query? selector = .ok (some l)) (hid : l.tag.id = told.element) (url : String) :
    Shows (p.changeForest (syncControl · l told.value told.checked))
      (hears (p.changeForest (syncControl · l told.value told.checked)) told.event r) b
      (s.step (.bring (told.report selector url))).scene := by
  have hl : p.forest.locate? l.tag.id = some l := hd.locate? (Page.mem_locations_of_query? hfound)
  refine h.step fun s h => ?_
  obtain ⟨t, ht, hsynced⟩ := h.sync hl told.value told.checked
  obtain ⟨u, hu, hheard⟩ := hsynced.fire hp told.type told.element told.key
  have hevent : (bringEvent told.type (told.report selector url)).run s = (.ok ⟨⟩, u) := by
    unfold bringEvent
    rw [Course.run_bind, h.resolve? (by rw [told.selector_report]; exact hfound)]
    dsimp only
    rw [told.value_report, told.checked_report, told.key_report, Course.run_bind, ht]
    dsimp only
    rw [Course.run_discard, hid, hu]
    rfl
  show Shows _ _ _ ((unanswered (Scene.bring (told.report selector url))).run s).2
  rw [snd_run_unanswered, told.bring_report selector url htype, Course.run_bind, Course.run_get]
  dsimp only
  rw [h.browser, hb]
  simp only [Bool.not_true, Bool.false_eq_true, if_false]
  rw [hevent]
  exact hheard

/-! ### What a user does -/

/-- A control gets a value at once. -/
lemma enter (h : Shows p r b s) (hp : Unheard p) (id : Id) (value : String) :
    ∃ t, (Scene.enter id value).run s = (.ok ⟨⟩, t) ∧ Shows (p.changeForest (·.setValue id value))
      (hears (p.changeForest (·.setValue id value)) ⟨"input", .element id, none⟩ r) b t := by
  obtain ⟨t, ht, hset⟩ := h.changeForest (·.setValue id value)
  obtain ⟨u, hu, hheard⟩ := hset.fire hp "input" id none
  refine ⟨u, ?_, hheard⟩
  unfold Scene.enter
  rw [Course.run_bind, ht]
  dsimp only
  rw [Course.run_discard, hu]
  rfl

/-- A character is typed. -/
lemma type (h : Shows p r b s) (hp : Unheard p) (hl : p.forest.locate? l.tag.id = some l) (c : Char) :
    Shows (p.changeForest (·.setValue l.tag.id (l.value.push c)))
      (hears (p.changeForest (·.setValue l.tag.id (l.value.push c))) ⟨"input", .element l.tag.id, none⟩ r) b
      (s.step (.type l.tag.id c.toString)).scene := by
  refine h.step fun s h => ?_
  obtain ⟨t, ht, hshows⟩ := h.enter hp l.tag.id (l.value.push c)
  have hrun : (typeText l.tag.id c.toString).run s = (.ok ⟨⟩, t) := by
    unfold typeText
    rw [Course.run_bind, h.located, hl, show c.toString.toList = [c] by simp [Char.toString]]
    show (typeFrom l.tag.id l.value [c]).run s = _
    unfold typeFrom
    rw [Course.run_bind, ht]
    rfl
  show Shows _ _ _ ((unanswered (typeText l.tag.id c.toString)).run s).2
  rw [snd_run_unanswered, hrun]
  exact hshows

/-- An option is chosen. -/
lemma fill (h : Shows p r b s) (hp : Unheard p) (id : Id) (value : String) :
    Shows (p.changeForest (·.setValue id value))
      (hears (p.changeForest (·.setValue id value)) ⟨"change", .element id, none⟩
        (hears (p.changeForest (·.setValue id value)) ⟨"input", .element id, none⟩ r)) b
      (s.step (.fill id value)).scene := by
  refine h.step fun s h => ?_
  obtain ⟨t, ht, hentered⟩ := h.enter hp id value
  obtain ⟨u, hu, hheard⟩ := hentered.fire hp "change" id none
  have hrun : (Scene.fill id value).run s = (.ok ⟨⟩, u) := by
    unfold Scene.fill
    rw [Course.run_bind, ht]
    dsimp only
    rw [Course.run_discard, hu]
    rfl
  show Shows _ _ _ ((unanswered (Scene.fill id value)).run s).2
  rw [snd_run_unanswered, hrun]
  exact hheard

/-- A key is pressed. -/
lemma press (h : Shows p r b s) (hp : Unheard p) (id : Id) (key : String) :
    Shows p (hears p ⟨"keydown", .element id, some key⟩ r) b (s.step (.press id key)).scene := by
  refine h.step fun s h => ?_
  obtain ⟨t, ht, hheard⟩ := h.fire hp "keydown" id (some key)
  show Shows _ _ _ ((unanswered (Scene.press id key)).run s).2
  rw [snd_run_unanswered]
  unfold Scene.press
  rw [Course.run_discard, ht]
  exact hheard

/-- A box or a radio button is clicked. -/
lemma click_toggle (h : Shows p r b s) (hp : Unheard p) (hl : p.forest.locate? l.tag.id = some l)
    (htoggle : toggleOf l.tag ≠ .none) :
    Shows (p.changeForest (toggle · l))
      (hears (p.changeForest (toggle · l)) ⟨"change", .element l.tag.id, none⟩
        (hears (p.changeForest (toggle · l)) ⟨"input", .element l.tag.id, none⟩
          (hears (p.changeForest (toggle · l)) ⟨"click", .element l.tag.id, none⟩ r))) b
      (s.step (.click l.tag.id)).scene := by
  refine h.step fun s h => ?_
  obtain ⟨t, ht, htoggled⟩ := h.changeForest (toggle · l)
  obtain ⟨u, hu, hclick⟩ := htoggled.fire hp "click" l.tag.id none
  obtain ⟨v, hv, hinput⟩ := hclick.fire hp "input" l.tag.id none
  obtain ⟨w, hw, hchange⟩ := hinput.fire hp "change" l.tag.id none
  have hrun : (Scene.click l.tag.id).run s = (.ok ⟨⟩, w) := by
    unfold Scene.click
    rw [Course.run_bind, h.located, hl]
    dsimp only
    rw [Course.run_bind, ht]
    dsimp only
    rw [Course.run_bind, hu]
    simp only [if_true, bne_iff_ne.2 htoggle]
    rw [Course.run_bind, Course.run_discard, hv]
    simp only [Except.map]
    rw [Course.run_discard, hw]
    rfl
  show Shows _ _ _ ((unanswered (Scene.click l.tag.id)).run s).2
  rw [snd_run_unanswered, hrun]
  exact hchange

/-- A button that submits the form around it is clicked. -/
lemma click_submit (h : Shows p r b s) (hp : Unheard p) (hl : p.forest.locate? l.tag.id = some l)
    (htoggle : toggleOf l.tag = .none) (hsubmits : submitsForm l.tag = true) {form : Location}
    (hform : Css.closest? [Locator.named "form"] l = some form) :
    Shows p (hears p ⟨"submit", .element form.tag.id, none⟩ (hears p ⟨"click", .element l.tag.id, none⟩ r)) b
      (s.step (.click l.tag.id)).scene := by
  refine h.step fun s h => ?_
  have hsame : p.changeForest (toggle · l) = p := by
    unfold Page.changeForest toggle
    rw [htoggle]
  obtain ⟨t, ht, htoggled⟩ := h.changeForest (toggle · l)
  rw [hsame] at htoggled
  obtain ⟨u, hu, hclick⟩ := htoggled.fire hp "click" l.tag.id none
  obtain ⟨v, hv, hsubmit⟩ := hclick.fire hp "submit" form.tag.id none
  have hrun : (Scene.click l.tag.id).run s = (.ok ⟨⟩, v) := by
    unfold Scene.click
    rw [Course.run_bind, h.located, hl]
    dsimp only
    rw [Course.run_bind, ht]
    dsimp only
    rw [Course.run_bind, hu]
    simp only [if_true, htoggle, bne_self_eq_false, Bool.false_eq_true, if_false, hsubmits]
    rw [Course.run_bind, hclick.located, hl]
    simp only [Option.bind_some, hform]
    unfold Scene.submit
    rw [Course.run_discard, hv]
    rfl
  show Shows _ _ _ ((unanswered (Scene.click l.tag.id)).run s).2
  rw [snd_run_unanswered, hrun]
  exact hsubmit

end Shows

/-! ### What a browser tells of it -/

/-- Reports of events reach a scene one after another, each with a selector that finds the element when it comes. -/
inductive Brings : Scene → List Told → Scene → Prop
  | nil (s : Scene) : Brings s [] s
  | cons {s t : Scene} {told : Told} {rest : List Told} {selector : String} {l : Location} (url : String)
      (hfound : s.page.document.query? selector = .ok (some l)) (hid : l.tag.id = told.element)
      (hrest : Brings (s.step (.bring (told.report selector url))).scene rest t) : Brings s (told :: rest) t

/-- **What a browser tells** of the events when a user does something to an element: of the value only where it is new,
or where it may be told. -/
inductive Tells (config : Recorder.Config) (l : Location) : Action → List Told → Prop
  /-- a character is typed into a field -/
  | type (c : Char) (hfield : l.tag.isFormField = true) (h : toggleOf l.tag = .none) :
      Tells config l (.type l.tag.id c.toString)
        [{ type := "input", element := l.tag.id, value := some (l.value.push c) }]
  /-- a value is chosen in a select -/
  | choose (value : String) (hfield : l.tag.isFormField = true) (hs : l.tag.lowerName = "select") :
      Tells config l (.fill l.tag.id value) [
        { type := "input", element := l.tag.id, value := some value },
        { type := "change", element := l.tag.id, value := some value }]
  /-- a box or a radio button is clicked -/
  | toggle (value : Option String) (h : toggleOf l.tag ≠ .none) :
      Tells config l (.click l.tag.id) [
        { type := "click", element := l.tag.id, value, checked := some (checkedByClick l.tag) },
        { type := "input", element := l.tag.id, value, checked := some (checkedByClick l.tag) },
        { type := "change", element := l.tag.id, value, checked := some (checkedByClick l.tag) }]
  /-- a button is clicked that submits the form around it -/
  | submit {form : Location} (value : Option String) (h : submitsForm l.tag = true)
      (hform : Css.closest? [Locator.named "form"] l = some form)
      (hvalue : ∀ v ∈ value, v = l.value ∧ MayTell config l) :
      Tells config l (.click l.tag.id) [
        { type := "click", element := l.tag.id, value }, { type := "submit", element := form.tag.id }]
  /-- a key is pressed -/
  | press (key : String) (value : Option String) (hvalue : ∀ v ∈ value, v = l.value ∧ MayTell config l) :
      Tells config l (.press l.tag.id key) [{ type := "keydown", element := l.tag.id, value, key := some key }]

/-- The value of an element, and whether it is checked. -/
def stateOf (f : Forest) (id : Id) : Option (String × Bool) :=
  (f.locate? id).map fun l => (l.value, l.tag.isChecked)

lemma stateOf_retouch {f : Forest} {g : Retouch} (hg : g.Discreet) (hv : g.Steady f) (id : Id) :
    stateOf (f.retouch g) id = stateOf f id := by
  unfold stateOf
  rw [Forest.locate?_retouch]
  cases hl : f.locate? id with
  | none => rfl
  | some l =>
    show some ((g.location l).value, (g.tag l.tag).isChecked) = _
    rw [hv l (Forest.mem_locations_of_locate? hl), hg.isChecked]
    rfl

/-- The recorder hears of a click, a submit or a key what it hears on the page before. -/
lemma hears_retouch {g : Retouch} (hg : g.Discreet) (hv : g.Steady p.forest) (hc : r.config.overlooks = true)
    (event : Page.Event) (htype : event.type ∈ ["click", "submit", "keydown"]) :
    hears (p.retouch g) event r = hears p event r ∧ (hears p event r).config = r.config := by
  have hall : ∀ {x y : Recorder.Act Unit}, Recorder.Mirrors r.config id x y → ∀ (ls : List Page.Listener) (q : Recorder),
      q.config = r.config →
      ls.foldl (fun r _ => { (y.run r).2 with notices := [] }) q =
        ls.foldl (fun r _ => { (x.run r).2 with notices := [] }) q ∧
      (ls.foldl (fun r _ => { (x.run r).2 with notices := [] }) q).config = r.config := by
    intro x y hxy ls
    induction ls with
    | nil => exact fun q hq => ⟨rfl, hq⟩
    | cons listener rest ih =>
      intro q hq
      obtain ⟨hkeeps, hsame⟩ := hxy q hq
      rw [List.foldl_cons, List.foldl_cons, hsame]
      exact ih { (x.run q).2 with notices := [] } hkeeps
  exact hall (Recorder.mirrors_hear hg hc hv htype) _ r rfl

/-- The next report has come, and the forest is now what the control was told to be. -/
lemma Brings.next {told : Told} {rest : List Told} (h : Brings s (told :: rest) t) (hs : Shows p r b s)
    (hb : b.isLinked = true) (hp : Unheard p) (hd : p.forest.Distinct) (htype : told.type ∈ Recorder.documentEvents)
    {f : Forest} (hf : ∀ m, p.forest.locate? told.element = some m →
      syncControl p.forest m told.value told.checked = f) :
    ∃ u, Shows { p with forest := f } (hears { p with forest := f } told.event r) b u ∧ Brings u rest t := by
  cases h with
  | cons url hfound hid hrest =>
    rw [hs.page] at hfound
    obtain rfl := hf _ (hid ▸ hd.locate? (Page.mem_locations_of_query? hfound))
    exact ⟨_, hs.bring hb hp hd htype hfound hid url, hrest⟩

/-- The next report is about an element that is known. -/
lemma Brings.next_at {told : Told} {rest : List Told} (h : Brings s (told :: rest) t) (hs : Shows p r b s)
    (hb : b.isLinked = true) (hp : Unheard p) (hd : p.forest.Distinct) (htype : told.type ∈ Recorder.documentEvents)
    (hl : p.forest.locate? told.element = some l) {f : Forest} (hf : syncControl p.forest l told.value told.checked = f) :
    ∃ u, Shows { p with forest := f } (hears { p with forest := f } told.event r) b u ∧ Brings u rest t := by
  refine h.next hs hb hp hd htype fun m hm => ?_
  obtain rfl := Option.some.inj (hl.symm.trans hm)
  exact hf

lemma Brings.eq_of_nil (h : Brings s [] t) : t = s := by
  cases h
  rfl

/-! ### Pages that are the same to the recorder -/

/-- Scenes are alike: their recorders are the same, and all elements have the same values and are checked alike. -/
def Alike (s t : Scene) : Prop :=
  s.recorder = t.recorder ∧ ∀ id, stateOf s.page.forest id = stateOf t.page.forest id

lemma Shows.alike {u : Scene} (ht : Shows p r b t) (hu : Shows p r b u) : Alike t u := by
  unfold Alike
  rw [ht.recorder, hu.recorder, ht.page, hu.page]
  exact ⟨rfl, fun _ => rfl⟩

/-- A page differs from another one at most in what a recorder with the settings does not read. -/
def Unnoticed (config : Recorder.Config) (p q : Page) : Prop :=
  q = p ∨ config.overlooks = true ∧ ∃ g : Retouch, g.Discreet ∧ g.Steady p.forest ∧ q = p.retouch g

namespace Unnoticed

variable {q : Page} {config : Recorder.Config}

/-- A control is told to have the value it has. -/
lemma of_held (hd : p.forest.Distinct) {id : Id} (hl : p.forest.locate? id = some l) {value : Option String}
    (hvalue : ∀ v ∈ value, v = l.value ∧ MayTell config l) :
    Unnoticed config p { p with forest := syncControl p.forest l value none } := by
  rcases sync_held hd hl hvalue with heq | ⟨hoverlooks, g, hg, hsteady, heq⟩
  · rw [heq]
    exact .inl rfl
  · rw [heq]
    exact .inr ⟨hoverlooks, g, hg, hsteady, rfl⟩

lemma unheard (h : Unnoticed config p q) (hp : Unheard p) : Unheard q := by
  rcases h with rfl | ⟨-, g, -, -, rfl⟩
  · exact hp
  · exact hp

lemma distinct (h : Unnoticed config p q) (hd : p.forest.Distinct) : q.forest.Distinct := by
  rcases h with rfl | ⟨-, g, -, -, rfl⟩
  · exact hd
  · exact hd.retouch g

/-- The recorder hears the same of a click, a submit or a key, and still takes no notice. -/
lemma hears_eq (h : Unnoticed r.config p q) (event : Page.Event) (htype : event.type ∈ ["click", "submit", "keydown"]) :
    hears q event r = hears p event r ∧ Unnoticed (hears p event r).config p q := by
  rcases h with rfl | ⟨hoverlooks, g, hg, hsteady, rfl⟩
  · exact ⟨rfl, .inl rfl⟩
  · obtain ⟨hheard, hconfig⟩ := hears_retouch hg hsteady hoverlooks event htype
    exact ⟨hheard, .inr ⟨hconfig.symm ▸ hoverlooks, g, hg, hsteady, rfl⟩⟩

lemma alike {u : Scene} (h : Unnoticed config p q) (ht : Shows q r b t) (hu : Shows p r b u) : Alike t u := by
  rcases h with rfl | ⟨-, g, hg, hsteady, rfl⟩
  · exact ht.alike hu
  · refine ⟨ht.recorder.trans hu.recorder.symm, fun id => ?_⟩
    rw [ht.page, hu.page]
    exact stateOf_retouch hg hsteady id

end Unnoticed

/-! ### Each thing that a user does -/

namespace Brings

variable (hs : Shows p r b s) (hb : b.isLinked = true) (hp : Unheard p) (hd : p.forest.Distinct)
  (hl : p.forest.locate? l.tag.id = some l)
include hs hb hp hd hl

/-- A character is typed. -/
lemma typed {c : Char} (h : Brings s [{ type := "input", element := l.tag.id, value := some (l.value.push c) }] t)
    (hfield : l.tag.isFormField = true) (htoggle : toggleOf l.tag = .none) :
    Alike t (s.step (.type l.tag.id c.toString)).scene := by
  obtain ⟨u, hu, hrest⟩ := h.next_at hs hb hp hd (by simp [Recorder.documentEvents]) hl (sync_field _ htoggle hfield _ _)
  obtain rfl := hrest.eq_of_nil
  exact hu.alike (hs.type hp hl c)

/-- A value is chosen in a select. -/
lemma chosen {value : String} (h : Brings s [{ type := "input", element := l.tag.id, value := some value },
      { type := "change", element := l.tag.id, value := some value }] t)
    (hfield : l.tag.isFormField = true) (hselect : l.tag.lowerName = "select") :
    Alike t (s.step (.fill l.tag.id value)).scene := by
  have htoggle : toggleOf l.tag = .none := by
    unfold toggleOf
    rw [hselect]
    rfl
  have hd' : (p.forest.setValue l.tag.id value).Distinct := by
    rw [Dom.setValue_select hl (beq_iff_eq.2 hselect), Dom.Forest.putFlags_eq hd]
    exact hd.retouch _
  obtain ⟨u, hu, hrest⟩ := h.next_at hs hb hp hd (by simp [Recorder.documentEvents]) hl (sync_field _ htoggle hfield _ _)
  -- with the change the select is told the same value again
  obtain ⟨v, hv, hrest⟩ := hrest.next hu hb hp hd' (by simp [Recorder.documentEvents]) fun m hm => by
    rcases sync_value (p.forest.setValue l.tag.id value) m value with h | h
    · rw [Dom.Forest.tag_id_of_locate? hm, Dom.setValue_twice hd hl (beq_iff_eq.2 hselect)] at h
      exact h
    · exact h
  obtain rfl := hrest.eq_of_nil
  exact hv.alike (hs.fill hp l.tag.id value)

/-- A box or a radio button is clicked. -/
lemma toggled {value : Option String}
    (h : Brings s [{ type := "click", element := l.tag.id, value, checked := some (checkedByClick l.tag) },
      { type := "input", element := l.tag.id, value, checked := some (checkedByClick l.tag) },
      { type := "change", element := l.tag.id, value, checked := some (checkedByClick l.tag) }] t)
    (htoggle : toggleOf l.tag ≠ .none) : Alike t (s.step (.click l.tag.id)).scene := by
  have hclicked := sync_toggle p.forest l value htoggle
  have hd' : (toggle p.forest l).Distinct := hclicked ▸ distinct_sync hd htoggle value _
  obtain ⟨m, hm, -, hagain⟩ := sync_again hd hl htoggle (checkedByClick l.tag) value value
  rw [hclicked] at hm hagain
  obtain ⟨u, hu, hrest⟩ := h.next_at hs hb hp hd (by simp [Recorder.documentEvents]) hl hclicked
  obtain ⟨v, hv, hrest⟩ := hrest.next_at hu hb hp hd' (by simp [Recorder.documentEvents]) hm hagain
  obtain ⟨w, hw, hrest⟩ := hrest.next_at hv hb hp hd' (by simp [Recorder.documentEvents]) hm hagain
  obtain rfl := hrest.eq_of_nil
  exact hw.alike (hs.click_toggle hp hl htoggle)

/-- A click or a key is told with the value that the control has. -/
lemma next_held {type : String} {value key : Option String} {rest : List Told}
    (h : Brings s ({ type, element := l.tag.id, value, key } :: rest) t) (htype : type = "click" ∨ type = "keydown")
    (hvalue : ∀ v ∈ value, v = l.value ∧ MayTell r.config l) :
    ∃ q u, Unnoticed (hears p ⟨type, .element l.tag.id, key⟩ r).config p q ∧
      Shows q (hears p ⟨type, .element l.tag.id, key⟩ r) b u ∧ Brings u rest t := by
  have hheld := Unnoticed.of_held hd hl hvalue
  have hevent : type ∈ Recorder.documentEvents ∧ type ∈ ["click", "submit", "keydown"] := by
    rcases htype with rfl | rfl <;> simp [Recorder.documentEvents]
  obtain ⟨hheard, hunnoticed⟩ := hheld.hears_eq ⟨type, .element l.tag.id, key⟩ hevent.2
  obtain ⟨u, hu, hrest⟩ := h.next_at hs hb hp hd hevent.1 hl rfl
  exact ⟨_, u, hunnoticed, hheard ▸ hu, hrest⟩

/-- A button is clicked that submits the form around it. -/
lemma submitted {form : Location} {value : Option String}
    (h : Brings s [{ type := "click", element := l.tag.id, value }, { type := "submit", element := form.tag.id }] t)
    (hsubmits : submitsForm l.tag = true) (hform : Css.closest? [Locator.named "form"] l = some form)
    (hvalue : ∀ v ∈ value, v = l.value ∧ MayTell r.config l) : Alike t (s.step (.click l.tag.id)).scene := by
  obtain ⟨q, u, hq, hu, hrest⟩ := h.next_held hs hb hp hd hl (.inl rfl) hvalue
  obtain ⟨v, hv, hrest⟩ := hrest.next hu hb (hq.unheard hp) (hq.distinct hd) (by simp [Recorder.documentEvents])
    fun m _ => sync_nothing _ m
  obtain ⟨hheard, -⟩ := hq.hears_eq ⟨"submit", .element form.tag.id, none⟩ (by simp)
  obtain rfl := hrest.eq_of_nil
  exact hq.alike (hheard ▸ hv) (hs.click_submit hp hl (toggleOf_submit hsubmits) hsubmits hform)

/-- A key is pressed. -/
lemma pressed {key : String} {value : Option String}
    (h : Brings s [{ type := "keydown", element := l.tag.id, value, key := some key }] t)
    (hvalue : ∀ v ∈ value, v = l.value ∧ MayTell r.config l) : Alike t (s.step (.press l.tag.id key)).scene := by
  obtain ⟨q, u, hq, hu, hrest⟩ := h.next_held hs hb hp hd hl (.inr rfl) hvalue
  obtain rfl := hrest.eq_of_nil
  exact hq.alike hu (hs.press hp l.tag.id key)

end Brings

/-- **What a browser tells of a user is as good as what the user does on the page**: the recorder records and waits for
the same, and all elements have the same values and are checked alike. -/
theorem told_is_done {action : Action} {tells : List Told} (hlinked : s.browser.isLinked = true)
    (halone : Unheard s.page) (hd : s.page.forest.Distinct) (hl : l ∈ s.page.forest.locations)
    (h : Tells s.recorder.config l action tells) (hb : Brings s tells t) :
    t.recorder = (s.step action).scene.recorder ∧
      ∀ id, stateOf t.page.forest id = stateOf (s.step action).scene.page.forest id := by
  have hfound := hd.locate? hl
  have hshows : Shows s.page s.recorder s.browser s := ⟨rfl, rfl, rfl⟩
  cases h with
  | type c hfield htoggle => exact hb.typed hshows hlinked halone hd hfound hfield htoggle
  | choose value hfield hselect => exact hb.chosen hshows hlinked halone hd hfound hfield hselect
  | toggle value htoggle => exact hb.toggled hshows hlinked halone hd hfound htoggle
  | submit value hsubmits hform hvalue => exact hb.submitted hshows hlinked halone hd hfound hsubmits hform hvalue
  | press key value hvalue => exact hb.pressed hshows hlinked halone hd hfound hvalue

/-! ### Pages on which something is told -/

/-- A page with some nodes, whose recorder records and is linked to a browser. -/
def showing (nodes : List Dom.Node) (nextId : Id) (config : Recorder.Config) : Scene :=
  let page : Page := { url := "https://shop.test/", forest := { trees := [.element Dom.documentTag nodes], nextId } }
  (Scene.ofPage page { config } { url := page.url, html := "" }).after [.link, .start]

/-- A form in which a name is typed that waits to be recorded. -/
def joining : Scene :=
  let name : Dom.Node := .element ⟨2, "input", [("name", .text "name")]⟩ []
  let button : Dom.Node := .element ⟨3, "button", []⟩ [.text .plain "Join"]
  (showing [.element ⟨1, "form", []⟩ [name, button]] 4 {}).after [.type 2 "A"]

/-- The element that a selector finds, by its identity. -/
def idAt? (p : Page) (selector : String) : Option Id :=
  (p.document.query? selector).toOption.bind fun l => l.map (·.tag.id)

lemma Brings.of_idAt? {told : Told} {rest : List Told} {selector : String} (url : String)
    (h : idAt? s.page selector = some told.element)
    (hrest : Brings (s.step (.bring (told.report selector url))).scene rest t) : Brings s (told :: rest) t := by
  unfold idAt? at h
  obtain ⟨found, hfound, hid⟩ := Option.bind_eq_some_iff.1 h
  obtain ⟨l, rfl, hid⟩ := Option.map_eq_some_iff.1 hid
  cases hquery : s.page.document.query? selector with
  | error fault => simp [hquery, Except.toOption] at hfound
  | ok found =>
    obtain rfl : found = some l := by simpa [hquery, Except.toOption] using hfound
    exact .cons url hquery (Option.some.inj hid) hrest

theorem joining_told :
    let click : Told := { type := "click", element := 3, value := some "" }
    let submit : Told := { type := "submit", element := 1 }
    let t := (joining.step (.bring (click.report "button" ""))).scene
    let u := (t.step (.bring (submit.report "form" ""))).scene
    u.recorder = (joining.step (.click 3)).scene.recorder ∧
      (∀ id, stateOf u.page.forest id = stateOf (joining.step (.click 3)).scene.page.forest id) ∧
        u.recorder.steps.map (·.kind) = [.navigate, .fill, .submit] := by
  intro click submit t u
  obtain ⟨hlinked, halone, hd, hsome⟩ : joining.browser.isLinked = true ∧ Unheard joining.page ∧
      joining.page.forest.Distinct ∧ (joining.page.forest.locate? 3).isSome = true := by decide +kernel
  obtain ⟨l, hl⟩ := Option.isSome_iff_exists.1 hsome
  have hbutton : ∀ l ∈ joining.page.forest.locate? 3, l.tag.isFormField = false ∧ submitsForm l.tag = true ∧
      l.value = "" ∧ (Css.closest? [Locator.named "form"] l).map (·.tag.id) = some 1 := by decide +kernel
  obtain ⟨hfield, hsubmits, hvalue, hform⟩ := hbutton l hl
  obtain ⟨form, hform, hid⟩ := Option.map_eq_some_iff.1 hform
  have htells : Tells joining.recorder.config l (.click 3) [click, submit] := by
    have h := @Tells.submit joining.recorder.config l form (some "") hsubmits hform fun v hv =>
      ⟨(Option.mem_some.1 hv).symm.trans hvalue.symm, .inr (.inl hfield)⟩
    rwa [Dom.Forest.tag_id_of_locate? hl, hid] at h
  obtain ⟨hbuttonAt, hformAt, hkinds⟩ : idAt? joining.page "button" = some 3 ∧ idAt? t.page "form" = some 1 ∧
      u.recorder.steps.map (·.kind) = [.navigate, .fill, .submit] := by decide +kernel
  obtain ⟨hrecorder, hstates⟩ := told_is_done hlinked halone hd (Dom.Forest.mem_locations_of_locate? hl) htells
    (.of_idAt? "" hbuttonAt (.of_idAt? "" hformAt (.nil u)))
  exact ⟨hrecorder, hstates, hkinds⟩

/-- The scene after reports of events, all with the same selector. -/
def toldWith (selector : String) (tells : List Told) (s : Scene) : Scene :=
  s.after (tells.map fun told => .bring (told.report selector ""))

/-- **Where a report is not as good as what is done**: its selector finds another element by then; the value that is
told is the first that the field has, and the selectors of the tools ask for it; a select holds another one. -/
theorem told_otherwise :
    let box (id : Id) (name : String) : Dom.Node :=
      .element ⟨id, "input", [("type", .text "checkbox"), ("id", .text name)]⟩ []
    let boxes := showing [box 1 "a", box 2 "b"] 3 {}
    let clicked : List Told := ["click", "input", "change"].map fun type => { type, element := 1, checked := some true }
    let field := showing [.element ⟨1, "input", [("id", .text "q")]⟩ []] 2 { ownSelectors := ["[value]"] }
    let pressed : Told := { type := "keydown", element := 1, value := some "", key := some "Enter" }
    let option (id : Id) (text : String) (attrs : Dom.Attrs) : Dom.Node :=
      .element ⟨id, "option", attrs⟩ [.text .plain text]
    let inner : Dom.Node := .element ⟨3, "select", []⟩ [option 4 "y" [], option 5 "z" [("selected", .text "")]]
    let selects := showing [.element ⟨1, "select", [("id", .text "q")]⟩ [option 2 "x" [("selected", .text "")], inner]] 6 {}
    (idAt? boxes.page "input:not([checked])" = some 1 ∧
      (boxes.step (.click 1)).scene.recorder.steps.map (·.selector) = [none, some "#a"] ∧
      (toldWith "input:not([checked])" clicked boxes).recorder.steps.map (·.selector) = [none, some "#b"]) ∧
    ((field.step (.press 1 "Enter")).scene.recorder.steps.map (·.selector) = [none, some "#q"] ∧
      (toldWith "#q" [pressed] field).recorder.steps.map (·.selector) = [none]) ∧
    (stateOf (selects.step (.press 1 "Enter")).scene.page.forest 3 = some ("z", false) ∧
      stateOf (toldWith "#q" [{ pressed with value := some "x" }] selects).page.forest 3 = some ("y", false)) := by
  decide +kernel

end Scene

end PageTape
