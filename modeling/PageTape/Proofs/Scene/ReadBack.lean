import PageTape.Proofs.Recorder.Entered
import PageTape.Proofs.Scene.Delivered

/-!
# What is entered into a control is read back

* `readBack` — what a control reads once it was given a value: just that, but for a select of which no option stands for
  the value, which reads its first option;
* `Given` — a control is given a value, by the user or by a browser that tells of it;
* `entered_value_recorded` — so it reads, and so it is recorded: no other value gets into the recording.
-/

namespace PageTape.Scene

open Dom (Forest Id Location)
open Recorder (Enters HasChosen HasKept TellsOf controlKind? heard isOwn)

variable {s : Scene} {f : Forest} {id : Id} {l m : Location} {value : String} {p : Page} {r : Recorder}
  {event : Page.Event} {events : List Page.Event} {a : Action}

/-! ### Values -/

/-- What a control reads once it was given a value. -/
def readBack (l : Location) (value : String) : String :=
  if l.tag.lowerName = "select" then if value ∈ l.offers then value else l.offers.head?.getD "" else value

/-- **A control that is given a value** reads it. -/
lemma locate?_given (hd : f.Distinct) (hl : f.locate? id = some l)
    (hkeeps : l.tag.lowerName = "select" ∨ Dom.keepsText l.tag = true) (value : String) :
    ∃ m, (f.setValue id value).locate? id = some m ∧ controlKind? m.tag = controlKind? l.tag ∧
      m.tag.lowerName = l.tag.lowerName ∧ m.value = readBack l value := by
  unfold readBack
  by_cases hs : l.tag.lowerName = "select"
  · obtain ⟨m, hm, hname, hvalue⟩ := Dom.locate?_choose hd hl hs value
    exact ⟨m, hm, by simp [controlKind?, hs, hname], hname.trans hs.symm, by rw [if_pos hs, hvalue]⟩
  · obtain ⟨m, hm, hsame, hvalue⟩ := Forest.locate?_setValue hl (beq_eq_false_iff_ne.2 hs) value
    exact ⟨m, hm, hsame.controlKind, hsame.lowerName, by rw [if_neg hs, hvalue, if_pos (hkeeps.resolve_left hs)]⟩

/-! ### A value that is given -/

/-- **A control is given a value** in a forest, of which some events tell: the user fills it in, or chooses it in a
select, or a browser tells of it with an event of the control, which is found at once or in the content that is loaded
then. -/
inductive Given (l : Location) (value : String) : Scene → Forest → List Page.Event → Action → Prop
  | fill (s : Scene) : Given l value s s.page.forest
      [⟨"input", .element l.tag.id, none⟩, ⟨"change", .element l.tag.id, none⟩] (.fill l.tag.id value)
  | told {s : Scene} {told : Told} {selector : String} (url : String) (hlinked : s.browser.isLinked = true)
      (htype : told.type = "input" ∨ told.type = "change") (hvalue : told.value = some value)
      (hfound : s.page.document.query? selector = .ok (some l)) (hfield : l.tag.isFormField = true)
      (htoggle : toggleOf l.tag = .none) :
      Given l value s s.page.forest [⟨told.type, .element l.tag.id, told.key⟩] (.bring (told.report selector url))
  | late {s : Scene} {told : Told} {selector : String} (url : String) (hlinked : s.browser.isLinked = true)
      (htype : told.type = "input" ∨ told.type = "change") (hvalue : told.value = some value)
      (hnone : s.page.document.query? selector = .ok none) (hloads : (s.page.forest.load s.browser.html).1 = none)
      (hfound : (resynced s).page.document.query? selector = .ok (some l)) (hfield : l.tag.isFormField = true)
      (htoggle : toggleOf l.tag = .none) :
      Given l value s (resynced s).page.forest [⟨told.type, .element l.tag.id, told.key⟩]
        (.bring (told.report selector url))

/-- The events of a control that tell of its value. -/
def AreOf (l : Location) (events : List Page.Event) : Prop :=
  ∀ e ∈ events, (e.type = "input" ∨ e.type = "change") ∧ e.target = .element l.tag.id

namespace Given

lemma areOf (h : Given l value s f events a) : AreOf l events := by
  cases h with
  | fill => simp [AreOf]
  | told url hlinked htype | late url hlinked htype => simpa [AreOf] using htype

lemma ne_nil (h : Given l value s f events a) : events ≠ [] := by cases h <;> exact nofun

lemma told_delivers (hlinked : s.browser.isLinked = true) (hd : s.page.forest.Distinct) {told : Told} {selector : String}
    (htype : told.type = "input" ∨ told.type = "change") (hvalue : told.value = some value)
    (hfound : s.page.document.query? selector = .ok (some l)) (hfield : l.tag.isFormField = true)
    (htoggle : toggleOf l.tag = .none) (url : String) :
    ∃ t, Delivered .document (changed s (·.setValue l.tag.id value)) [⟨told.type, .element l.tag.id, told.key⟩] t ∧
      s.step (.bring (told.report selector url)) = ⟨.ok .nothing, t.log, { t with log := [] }⟩ := by
  have hdocument : told.type ∈ Recorder.documentEvents := by
    rcases htype with h | h <;> rw [h] <;> decide
  have hsame : (syncControl · l told.value told.checked) = (·.setValue l.tag.id value) :=
    funext fun f => hvalue ▸ sync_field f htoggle hfield value told.checked
  rw [← hsame]
  exact bring_delivers hlinked hd hdocument hfound url

/-- The control has the value, and then the events are heard. -/
lemma delivers (h : Given l value s f events a) (hd : f.Distinct) : ∃ s' t, s'.page.forest = f ∧
    (s' = s ∨ s' = resynced s ∧ (s.page.forest.load s.browser.html).1 = none) ∧
    Delivered .document (changed s' (·.setValue l.tag.id value)) events t ∧
      s.step a = ⟨.ok .nothing, t.log, { t with log := [] }⟩ := by
  cases h with
  | fill =>
    obtain ⟨t, ht⟩ := fill_delivers s l.tag.id value
    exact ⟨s, t, rfl, .inl rfl, ht⟩
  | told url hlinked htype hvalue hfound hfield htoggle =>
    obtain ⟨t, ht⟩ := told_delivers hlinked hd htype hvalue hfound hfield htoggle url
    exact ⟨s, t, rfl, .inl rfl, ht⟩
  | late url hlinked htype hvalue hnone hloads hfound hfield htoggle =>
    obtain ⟨t, hdelivered, hstep⟩ :=
      told_delivers (s := resynced s) hlinked hd htype hvalue hfound hfield htoggle url
    rw [← bring_resynced hlinked (by rcases htype with h | h <;> rw [h] <;> decide) hnone hloads hfound] at hstep
    exact ⟨resynced s, t, rfl, .inr ⟨rfl, hloads⟩, hdelivered, hstep⟩

end Given

/-! ### What is recorded of it -/

/-- The recorder hears events of a control as often as may be. -/
lemma hearing_enters (htype : event.type = "input" ∨ event.type = "change")
    (htarget : event.target.element?.bind p.forest.locate? = some m) (listeners : List Page.Listener) (r : Recorder) :
    Enters m r (hearing p event listeners r) := by
  unfold hearing
  induction listeners.filter (· == .recorder) generalizing r with
  | nil => exact .refl m r
  | cons x rest ih =>
    have hfirst : Enters m r (heard p event r) := by
      obtain ⟨h₁, h₂, h₃, h₄⟩ := Recorder.hear_enters htarget htype r
      exact ⟨h₁, h₂, h₃, h₄⟩
    exact hfirst.trans (ih _)

/-- The recorder is at work and does not leave a control alone. -/
structure Attends (m : Location) (r : Recorder) : Prop where
  linked : r.Linked
  isRecording : r.isRecording = true
  accepts : isOwn r.config m = .ok false

section Attends

variable (htype : event.type = "input" ∨ event.type = "change")
  (htarget : event.target.element?.bind p.forest.locate? = some m)
include htype htarget

lemma Attends.heard (h : Attends m r) : Attends m (heard p event r) where
  linked := Recorder.heard_linked p event h.linked
  isRecording := (Recorder.hear_enters htarget htype r).isRecording.trans h.isRecording
  accepts := by rw [Recorder.heard_config h.linked]; exact h.accepts

/-- A text that waits goes on to do so. -/
lemma heard_kept (h : Attends m r) (hkind : controlKind? m.tag = some .text) (hkept : HasKept m r) :
    HasKept m (Recorder.heard p event r) := by
  rcases htype with htype | htype
  · exact Recorder.hear_keeps htarget htype hkind h.isRecording h.accepts
  · have hs : m.tag.lowerName ≠ "select" := fun hs => by simp [controlKind?, hs] at hkind
    have hsame := Recorder.hear_change htarget htype hs r
    unfold Recorder.heard
    rw [hsame]
    exact hkept

end Attends

section All

variable (hevents : AreOf l events) (hm : p.forest.locate? l.tag.id = some m)
include hevents hm

lemma attends_all (h : Attends m r) : Attends m (events.foldl (fun r e => heard p e r) r) := by
  induction events generalizing r with
  | nil => exact h
  | cons e rest ih =>
    obtain ⟨⟨htype, htarget⟩, hrest⟩ := List.forall_mem_cons.1 hevents
    exact ih hrest (h.heard htype (by rw [htarget]; exact hm))

/-- The last of the events tells what a select has chosen. -/
lemma chooses_all (hs : m.tag.lowerName = "select") (hne : events ≠ []) (h : Attends m r) (hr : r.Reliable) :
    HasChosen m (events.foldl (fun r e => heard p e r) r) := by
  induction events generalizing r with
  | nil => exact absurd rfl hne
  | cons e rest ih =>
    obtain ⟨⟨htype, htarget⟩, hrest⟩ := List.forall_mem_cons.1 hevents
    have hlocated : e.target.element?.bind p.forest.locate? = some m := by rw [htarget]; exact hm
    by_cases hnil : rest = []
    · rw [hnil]
      exact Recorder.hear_chooses hlocated htype hs hr h.isRecording h.accepts
    · exact ih hrest hnil (h.heard htype hlocated) ((Recorder.hear_faultless p e r hr).1.of_setup rfl)

/-- With the first `input` the text of a field waits, and goes on to do so. -/
lemma keeps_all (hkind : controlKind? m.tag = some .text) (hinput : ∃ e ∈ events, e.type = "input") (h : Attends m r) :
    HasKept m (events.foldl (fun r e => heard p e r) r) := by
  have hafter : ∀ (es : List Page.Event) (r : Recorder), AreOf l es → Attends m r → HasKept m r →
      HasKept m (es.foldl (fun r e => heard p e r) r) := by
    intro es
    induction es with
    | nil => exact fun r _ _ hkept => hkept
    | cons e rest ih =>
      intro r hes h hkept
      obtain ⟨⟨htype, htarget⟩, hrest⟩ := List.forall_mem_cons.1 hes
      have hlocated : e.target.element?.bind p.forest.locate? = some m := by rw [htarget]; exact hm
      exact ih _ hrest (h.heard htype hlocated) (heard_kept htype hlocated h hkind hkept)
  induction events generalizing r with
  | nil => simp at hinput
  | cons e rest ih =>
    obtain ⟨⟨htype, htarget⟩, hrest⟩ := List.forall_mem_cons.1 hevents
    have hlocated : e.target.element?.bind p.forest.locate? = some m := by rw [htarget]; exact hm
    by_cases he : e.type = "input"
    · exact hafter rest _ hrest (h.heard htype hlocated) (Recorder.hear_keeps hlocated he hkind h.isRecording h.accepts)
    · exact ih hrest (by simpa [he] using hinput) (h.heard htype hlocated)

end All

/-- The recorder of a session hears each of the events once. -/
lemma hears_each {a : Recorder.Active} (h : s.Attached) (ha : s.recorder.active = some a)
    (hevents : AreOf l events) (g : Forest → Forest) (r : Recorder) :
    events.foldl (fun r e => hearing (changed s g).page e (calledFor .document (changed s g) e) r) r =
      events.foldl (fun r e => heard (changed s g).page e r) r := by
  refine List.foldl_ext _ _ r fun r e he => ?_
  have htype : e.type ∈ Recorder.documentEvents := by
    rcases (hevents e he).1 with htype | htype <;> rw [htype] <;> decide
  exact hearing_eq_heard (p := (changed s g).page) h ha rfl htype r

/-- **A value that a control was given is read back and recorded.**  Of a select for which no option stands it is the
value of the first one.  Whoever listens, nothing else is recorded as a value; and the value is: of a select it is what
the newest step chooses, if the callbacks do not fail, and of a text what its step fills in when it is recorded. -/
theorem entered_value_recorded (hd : f.Distinct) (hl : f.locate? l.tag.id = some l)
    (hkeeps : l.tag.lowerName = "select" ∨ Dom.keepsText l.tag = true) (value : String) :
    ∃ m, (f.setValue l.tag.id value).locate? l.tag.id = some m ∧ m.value = readBack l value ∧
      ∀ s events a, Given l value s f events a →
        Enters m s.recorder (s.step a).scene.recorder ∧
        (Reachable s → s.recorder.isRecording = true → isOwn s.recorder.config m = .ok false →
          (l.tag.lowerName = "select" → s.recorder.onAdded ≠ .fail → s.recorder.onUpdated ≠ .fail →
            HasChosen m (s.step a).scene.recorder) ∧
          (controlKind? l.tag = some .text → (∃ e ∈ events, e.type = "input") → ∀ p, ∃ step,
            ((Recorder.recordWaiting p (Locator.quick m)).run (s.step a).scene.recorder).2.steps.getLast? = some step ∧
              step.kind = .fill ∧ TellsOf m step)) := by
  obtain ⟨m, hm, hkind, hname, hvalue⟩ := locate?_given hd hl hkeeps value
  refine ⟨m, hm, hvalue, ?_⟩
  intro s events a hgiven
  obtain ⟨s', t, rfl, hs', hdelivered, hstep⟩ := hgiven.delivers hd
  have hsame : s'.recorder = s.recorder := by
    rcases hs' with rfl | ⟨rfl, -⟩ <;> rfl
  set p := (changed s' (·.setValue l.tag.id value)).page with hp
  have hat : p.forest.locate? l.tag.id = some m := hm
  have htarget : ∀ e ∈ events, e.target.element?.bind p.forest.locate? = some m := fun e he => by
    rw [(hgiven.areOf e he).2]
    exact hat
  have hrecorder : (s.step a).scene.recorder = t.recorder := by rw [hstep]
  rw [hrecorder, hdelivered.recorder, ← hsame]
  refine ⟨?_, fun hreach hrec hown => ?_⟩
  · -- each event that is heard enters nothing else
    have henters : ∀ (es : List Page.Event) (r : Recorder), es ⊆ events → Enters m r (es.foldl (fun r e =>
        hearing p e (calledFor .document (changed s' (·.setValue l.tag.id value)) e) r) r) := by
      intro es
      induction es with
      | nil => exact fun r _ => .refl m r
      | cons e rest ih =>
        intro r hsub
        obtain ⟨he, hrest⟩ := List.cons_subset.1 hsub
        exact (hearing_enters (hgiven.areOf e he).1 (htarget e he) _ r).trans (ih _ hrest)
    exact henters events _ (List.Subset.refl _)
  · obtain ⟨active, hactive, -⟩ := Recorder.isRecording_iff.1 hrec
    have hreach' : Reachable s' := by
      rcases hs' with rfl | ⟨rfl, hloads⟩
      · exact hreach
      · exact resynced_eq hloads ▸ hreach.step .syncContent
    have hattends : Attends m s'.recorder := ⟨hreach'.attached.linked, hrec, hown⟩
    have heach := hears_each hreach'.attached hactive hgiven.areOf (·.setValue l.tag.id value) s'.recorder
    rw [show (changed s' (·.setValue l.tag.id value)).recorder = s'.recorder from rfl, heach]
    refine ⟨fun hs hadded hupdated => ?_, fun htext hinput q => ?_⟩
    · have hreliable := hreach'.reliable hrec hadded hupdated hown
      exact chooses_all hgiven.areOf hat (hname.trans hs) hgiven.ne_nil hattends hreliable
    · have hkept := keeps_all hgiven.areOf hat (hkind.trans htext) hinput hattends
      exact Recorder.recordWaiting_kept (attends_all hgiven.areOf hat hattends).linked hkept q

lemma showing_reachable (nodes : List Dom.Node) (nextId : Id) (config : Recorder.Config) :
    Reachable (showing nodes nextId config) :=
  (Reachable.fresh ⟨⟨rfl, rfl, rfl, rfl⟩, rfl, rfl, rfl, rfl, rfl⟩).after _

/-- A select on a page that is recorded, with an option that has a value and one that is known by its text. -/
def sizes : Scene :=
  let small : Dom.Node := .element ⟨2, "option", [("value", .text "s")]⟩ [.text .plain "Small"]
  let large : Dom.Node := .element ⟨3, "option", []⟩ [.text .plain "Large"]
  showing [.element ⟨1, "select", [("id", .text "size")]⟩ [small, large]] 4 {}

theorem size_read_back : ∃ m, (sizes.page.forest.setValue 1 "Large").locate? 1 = some m ∧ m.value = "Large" ∧
    HasChosen m (sizes.step (.fill 1 "Large")).scene.recorder ∧
    (sizes.step (.fill 1 "Large")).scene.recorder.steps.map (fun step => (step.kind, step.selector, step.value)) =
      [(.navigate, none, none), (.select, some "#size", some "Large")] := by
  obtain ⟨hd, hrec, hadded, hupdated, hsome, hsteps⟩ : sizes.page.forest.Distinct ∧ sizes.recorder.isRecording = true ∧
      sizes.recorder.onAdded ≠ .fail ∧ sizes.recorder.onUpdated ≠ .fail ∧ (sizes.page.forest.locate? 1).isSome = true ∧
      (sizes.step (.fill 1 "Large")).scene.recorder.steps.map (fun step => (step.kind, step.selector, step.value)) =
        [(.navigate, none, none), (.select, some "#size", some "Large")] := by
    decide +kernel
  have hselect : ∀ l ∈ sizes.page.forest.locate? 1, l.tag.lowerName = "select" ∧ readBack l "Large" = "Large" := by
    decide +kernel
  have hown : ∀ m ∈ (sizes.page.forest.setValue 1 "Large").locate? 1, isOwn sizes.recorder.config m = .ok false := by
    decide +kernel
  obtain ⟨l, hl⟩ := Option.isSome_iff_exists.1 hsome
  obtain ⟨hname, hvalue⟩ := hselect l hl
  have hid : l.tag.id = 1 := Forest.tag_id_of_locate? hl
  obtain ⟨m, hm, hread, hrecorded⟩ := entered_value_recorded hd (hid ▸ hl) (.inl hname) "Large"
  obtain ⟨-, hrecords⟩ := hrecorded sizes _ _ (.fill sizes)
  rw [hid] at hm hrecords
  obtain ⟨hchosen, -⟩ := hrecords (showing_reachable _ _ _) hrec (hown m hm)
  exact ⟨m, hm, hread.trans hvalue, hchosen hname hadded hupdated, hsteps⟩

/-- A page with an element that can be edited, but does not read plain text. -/
def gloss : Scene := showing [.element ⟨1, "rt", [("contenteditable", .text "true")]⟩ []] 2 {}

/-- **A value that no option stands for** is read back as that of the first option, and is recorded so; and an element
that keeps its text apart does not read what it was given. -/
theorem absent_option :
    stateOf (sizes.page.forest.setValue 1 "Medium") 1 = some ("s", false) ∧
    (sizes.step (.fill 1 "Medium")).scene.recorder.steps.map (fun step => (step.kind, step.selector, step.value)) =
      [(.navigate, none, none), (.select, some "#size", some "s")] ∧
    stateOf (gloss.page.forest.setValue 1 "note") 1 = some ("", false) := by
  decide +kernel

end PageTape.Scene
