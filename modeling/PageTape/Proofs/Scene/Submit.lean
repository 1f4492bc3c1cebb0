import PageTape.Proofs.Recorder.Submit
import PageTape.Proofs.Scene.Lifecycle
import PageTape.Proofs.Scene.Told

/-!
# A form on a page is submitted once, and completely

* `Submits` — what is done to a page that may submit a form: a button in it is clicked, or the form gets a submit event;
* `submitted_once` — a click on a button adds one submit, and wherever a submit is added for a form all that the form
  holds is recorded before, of each field once;
* `edited_button` — a button that can be edited itself, on which the second of two clicks adds none.
-/

namespace PageTape.Scene

open Dom (Location)
open Mark (Gives)
open Recorder (AddsSubmits Complete Completes Grows asked? hasJustSubmitted heard isFilledIn isOwn)

variable {s : Scene} {p : Page} {r : Recorder} {b : Browser} {l form : Location}

/-! ### Events -/

lemma hears_completes {event : Page.Event} (hl : r.Linked) (hasked : asked? p event = some form) :
    (hears p event r).Linked ∧ Grows (Completes r.config form) r (hears p event r) := by
  unfold hears
  induction p.documentListeners.called event.type generalizing r with
  | nil => exact ⟨hl, .refl r⟩
  | cons x rest ih =>
    have hgrows : Grows (Completes r.config form) r (heard p event r) :=
      (Recorder.hear_completes hl hasked).told []
    obtain ⟨hlinked, hrest⟩ := ih (Recorder.heard_linked p event hl)
    exact ⟨hlinked, hgrows.trans (hgrows.config ▸ hrest)⟩

/-- What the recorder of a session has registered at the document. -/
lemma Attached.registered {a : Recorder.Active} (h : s.Attached) (ha : s.recorder.active = some a) :
    s.page.documentListeners.ofRecorder = documentRegistrations := by
  obtain ⟨-, q, hrig⟩ := h.active a ha
  exact congrArg Page.Rig.documentListeners hrig

/-- The recorder of a session hears an event of the document once. -/
lemma hears_eq_heard {a : Recorder.Active} {event : Page.Event} (h : s.Attached) (ha : s.recorder.active = some a)
    (hp : Unheard s.page) (htype : event.type ∈ Recorder.documentEvents) (r : Recorder) :
    hears s.page event r = heard s.page event r := by
  have hlisteners : s.page.documentListeners = documentRegistrations := by
    rw [← h.registered ha]
    exact (List.filter_eq_self.2 fun x hx => by simp [hp x hx]).symm
  have hcalled : ∀ type ∈ Recorder.documentEvents,
      Page.Listeners.called documentRegistrations type = [.recorder] := by decide
  unfold hears heard
  rw [hlisteners, hcalled _ htype]
  rfl

namespace Shows

/-- An event is delivered to those who listen to the document. -/
lemma deliver (h : Shows p r b s) (hp : Unheard p) (event : Page.Event) (htarget : event.target.element?.isSome = true) :
    Shows p (hears p event r) b (s.step (.dispatch .document event)).scene := by
  obtain ⟨type, target, key⟩ := event
  cases target with
  | element id =>
    refine h.step fun s h => ?_
    obtain ⟨t, ht, hheard⟩ := h.fire hp type id key
    show Shows _ _ _ ((Answer.truth <$> Scene.fire type id key).run s).2
    rw [Course.run_map, ht]
    exact hheard
  | _ => cases htarget

/-- A form is submitted. -/
lemma submit (h : Shows p r b s) (hp : Unheard p) (id : Dom.Id) :
    Shows p (hears p ⟨"submit", .element id, none⟩ r) b (s.step (.submit id)).scene := by
  refine h.step fun s h => ?_
  obtain ⟨t, ht, hheard⟩ := h.fire hp "submit" id none
  show Shows _ _ _ ((unanswered (Scene.submit id)).run s).2
  rw [snd_run_unanswered]
  unfold Scene.submit
  rw [Course.run_discard, ht]
  exact hheard

end Shows

/-! ### Forms -/

/-- **What is done to a page that may submit a form.** -/
inductive Submits (p : Page) (form : Location) : Action → Prop
  | click {l : Location} (h : p.forest.locate? l.tag.id = some l) (hsubmits : submitsForm l.tag = true)
      (hform : Css.closest? [Locator.named "form"] l = some form) : Submits p form (.click l.tag.id)
  | submit (h : p.forest.locate? form.tag.id = some form) : Submits p form (.submit form.tag.id)
  | event {event : Page.Event} (h : asked? p event = some form) : Submits p form (.dispatch .document event)

lemma locate?_form (hd : p.forest.Distinct) (h : p.forest.locate? l.tag.id = some l)
    (hform : Css.closest? [Locator.named "form"] l = some form) : p.forest.locate? form.tag.id = some form := by
  have hl := Dom.Forest.mem_locations_of_locate? h
  refine hd.locate? ?_
  rcases List.mem_cons.1 (List.mem_of_find?_eq_some hform) with rfl | haround
  · exact hl
  · exact Dom.Forest.mem_locations_ancestors hl haround

lemma toggleOf_of_submitsForm (h : submitsForm l.tag = true) : toggleOf l.tag = .none := by
  unfold submitsForm at h
  unfold toggleOf
  simp only [Bool.or_eq_true, Bool.and_eq_true, beq_iff_eq] at h
  rcases h with ⟨hname, -⟩ | ⟨-, htype | htype⟩
  · simp [hname]
  · simp [htype]
  · simp [htype]

/-- **Wherever a submit is added for a form, all that the form holds is recorded before.** -/
theorem Submits.completes {a : Action} (h : Submits s.page form a) (hl : s.recorder.Linked)
    (hd : s.page.forest.Distinct) (hp : Unheard s.page) :
    Grows (Completes s.recorder.config form) s.recorder (s.step a).scene.recorder := by
  have hshows : Shows s.page s.recorder s.browser s := ⟨rfl, rfl, rfl⟩
  have asked_submit : s.page.forest.locate? form.tag.id = some form →
      asked? s.page ⟨"submit", .element form.tag.id, none⟩ = some form := fun hform => by
    simp [asked?, Page.Target.element?, hform]
  cases h with
  | @click l hlocated hsubmits hform =>
    have hclick : asked? s.page ⟨"click", .element l.tag.id, none⟩ = some form := by
      simp [asked?, Page.Target.element?, hlocated, hform]
    obtain ⟨hlinked, hfirst⟩ := hears_completes hl hclick
    obtain ⟨-, hsecond⟩ := hears_completes hlinked (asked_submit (locate?_form hd hlocated hform))
    rw [(hshows.click_submit hp hlocated (toggleOf_of_submitsForm hsubmits) hsubmits hform).recorder]
    exact hfirst.trans (hfirst.config ▸ hsecond)
  | submit hform =>
    rw [(hshows.submit hp form.tag.id).recorder]
    exact (hears_completes hl (asked_submit hform)).2
  | @event event hasked =>
    have htarget : event.target.element?.isSome = true := by
      obtain ⟨l, hl, -⟩ := Option.bind_eq_some_iff.1 hasked
      obtain ⟨id, hid, -⟩ := Option.bind_eq_some_iff.1 hl
      rw [hid]
      rfl
    rw [(hshows.deliver hp event htarget).recorder]
    exact (hears_completes hl hasked).2

/-! ### Clicks -/

lemma Reachable.reliable (h : Reachable s) (hrec : s.recorder.isRecording = true) (hadded : s.recorder.onAdded ≠ .fail)
    (hupdated : s.recorder.onUpdated ≠ .fail) (hown : isOwn s.recorder.config l = .ok false) : s.recorder.Reliable where
  bound := by
    obtain ⟨a, ha, -⟩ := Recorder.isRecording_iff.1 hrec
    exact h.recorder.isBound (by rw [ha]; rfl)
  added := hadded
  updated := hupdated
  readable selector hs := by
    obtain ⟨ss, hread, -⟩ := Recorder.isOwn_eq_false_iff.1 hown selector hs
    rw [hread]
    rfl

/-- **A form is submitted once, and completely.**  In any scene in which a session is recorded and nobody else listens
to the document:

* a click on a submit button in a form, outside of all tools, adds at most one submit; and it adds one if the callbacks
  do not fail and the button is not one that can be edited itself, or if it is but no submit has just been recorded;
* wherever a click or a submit event adds a submit for a form, there stands before it a value of every field of the form
  that can be seen, belongs to no tool and is filled in;
* what is captured of a form gives values to fields that have none yet, and of each field one. -/
theorem submitted_once {s : Scene} (h : Reachable s) (hd : s.page.forest.Distinct) (hp : Unheard s.page)
    (hrec : s.recorder.isRecording = true) :
    (∀ l form, s.page.forest.locate? l.tag.id = some l → l.tag.lowerName = "button" → l.tag.inputType = "submit" →
      Css.closest? [Locator.named "form"] l = some form → isOwn s.recorder.config l = .ok false →
      1 ≤ s.recorder.config.submitWindow →
        (∃ n ≤ 1, AddsSubmits n s.recorder (s.step (.click l.tag.id)).scene.recorder) ∧
        (s.recorder.onAdded ≠ .fail → s.recorder.onUpdated ≠ .fail →
          l.tag.isFormField = false ∨ hasJustSubmitted s.recorder = false →
          AddsSubmits 1 s.recorder (s.step (.click l.tag.id)).scene.recorder)) ∧
    (∀ form a, Submits s.page form a → ∃ added, (s.step a).scene.recorder.marks = s.recorder.marks ++ added ∧
      ∀ before m rest, added = before ++ m :: rest → m.1 = .submit → ∀ l ∈ Recorder.formFields form,
        isOwn s.recorder.config l = .ok false → l.isVisible = true → isFilledIn l = true →
          ∃ earlier ∈ s.recorder.marks ++ before, earlier.1.givesValue = true ∧ earlier.2 = some (Locator.quick l)) ∧
    ∀ form (r : Recorder), ∃ added, ((Recorder.recordForm form).run r).2.marks = r.marks ++ added ∧
      (added.map Prod.snd).Nodup ∧ ∀ m ∈ added, m.1.givesValue = true ∧
        ∀ old ∈ r.marks, old.1.givesValue = true → old.2 ≠ m.2 := by
  refine ⟨fun l form hlocated hname htype hform hown hw => ?_, fun form a ha => ?_, fun form r =>
    (Recorder.recordForm_grows form r).adds.captured⟩
  · obtain ⟨a, ha, -⟩ := Recorder.isRecording_iff.1 hrec
    have hattached := h.attached
    have hl := hattached.linked
    have hbutton : (l.tag.lowerName == "button" && l.tag.inputType == "submit") = true := by simp [hname, htype]
    have hsubmits : submitsForm l.tag = true := by simp [submitsForm, hbutton]
    have htarget : (Page.Target.element l.tag.id).element?.bind s.page.forest.locate? = some l := hlocated
    have hclick : "click" ∈ Recorder.documentEvents := by decide
    have hsubmit : "submit" ∈ Recorder.documentEvents := by decide
    have hshows : Shows s.page s.recorder s.browser s := ⟨rfl, rfl, rfl⟩
    rw [(hshows.click_submit hp hlocated (toggleOf_of_submitsForm hsubmits) hsubmits hform).recorder,
      hears_eq_heard hattached ha hp hsubmit, hears_eq_heard hattached ha hp hclick]
    refine ⟨Recorder.submits_le_one hl rfl rfl htarget hbutton hform hw, fun hadded hupdated hfield => ?_⟩
    have hreliable := h.reliable hrec hadded hupdated hown
    exact Recorder.submits_one hl rfl rfl htarget hbutton hform hw hreliable hrec hown
      (hfield.imp_right fun hj => ⟨locate?_form hd hlocated hform, hj⟩)
  · exact (ha.completes h.attached.linked hd hp).adds.exists_added

/-- A form with a name that is filled in, and a button. -/
def joinForm (button : Dom.Attrs) : Scene :=
  let name : Dom.Node := .element ⟨2, "input", [("name", .text "name"), ("value", .text "Ada")]⟩ []
  let button : Dom.Node := .element ⟨3, "button", button⟩ [.text .plain "Join"]
  let form : Dom.Node := .element ⟨1, "form", []⟩ [name, button]
  .ofPage { url := "https://shop.test/", forest := { trees := [.element Dom.documentTag [form]], nextId := 4 } } {}
    { url := "", html := "" }

lemma joinForm_reachable (button : Dom.Attrs) (actions : List Action) : Reachable ((joinForm button).after actions) :=
  (Reachable.fresh ⟨⟨rfl, rfl, rfl, rfl⟩, rfl, rfl, rfl, rfl, rfl⟩).after actions

/-- The form on a page that is recorded. -/
def joinOpen : Scene := (joinForm []).after [.start]

/-- The form is submitted with the name in it. -/
theorem joined_once : Reachable joinOpen ∧ ∃ l form, joinOpen.page.forest.locate? l.tag.id = some l ∧
    Css.closest? [Locator.named "form"] l = some form ∧
    AddsSubmits 1 joinOpen.recorder (joinOpen.step (.click l.tag.id)).scene.recorder ∧
    (∃ added, (joinOpen.step (.click l.tag.id)).scene.recorder.marks = joinOpen.recorder.marks ++ added) ∧
    (joinOpen.step (.click 3)).scene.recorder.marks =
      [(.navigate, none), (.fill, some "input[name=\"name\"]"), (.submit, some "form > button")] := by
  have hreachable : Reachable joinOpen := joinForm_reachable [] [.start]
  obtain ⟨hd, hp, hrec, hwindow, hadded, hupdated, hsome, hmarks⟩ : joinOpen.page.forest.Distinct ∧
      Unheard joinOpen.page ∧ joinOpen.recorder.isRecording = true ∧ 1 ≤ joinOpen.recorder.config.submitWindow ∧
      joinOpen.recorder.onAdded ≠ .fail ∧ joinOpen.recorder.onUpdated ≠ .fail ∧
      (joinOpen.page.forest.locate? 3).isSome = true ∧ (joinOpen.step (.click 3)).scene.recorder.marks =
        [(.navigate, none), (.fill, some "input[name=\"name\"]"), (.submit, some "form > button")] := by
    decide +kernel
  have hbutton : ∀ l ∈ joinOpen.page.forest.locate? 3, l.tag.lowerName = "button" ∧ l.tag.inputType = "submit" ∧
      (Css.closest? [Locator.named "form"] l).isSome = true ∧ isOwn joinOpen.recorder.config l = .ok false ∧
      l.tag.isFormField = false := by
    decide +kernel
  obtain ⟨l, hl⟩ := Option.isSome_iff_exists.1 hsome
  obtain ⟨hname, htype, hform, hown, hfield⟩ := hbutton l hl
  obtain ⟨form, hform⟩ := Option.isSome_iff_exists.1 hform
  have hlocated : joinOpen.page.forest.locate? l.tag.id = some l := by rw [Dom.Forest.tag_id_of_locate? hl, hl]
  obtain ⟨honce, hcompletes, -⟩ := submitted_once hreachable hd hp hrec
  have hsubmits : submitsForm l.tag = true := by simp [submitsForm, hname, htype]
  obtain ⟨added, hgrown, -⟩ := hcompletes form _ (.click hlocated hsubmits hform)
  exact ⟨hreachable, l, form, hlocated, hform, (honce l form hlocated hname htype hform hown hwindow).2 hadded hupdated
    (.inl hfield), ⟨added, hgrown⟩, hmarks⟩

/-- The form with a button that can be edited itself, after a click on it. -/
def joinEdited : Scene := (joinForm [("contenteditable", .text "true")]).after [.start, .click 3]

/-- **A button that can be edited itself** is no submit button for the recorder, which hears the form submitted only: of
two clicks one after the other it takes the second for the first. -/
theorem edited_button : ∃ l form, Reachable joinEdited ∧ joinEdited.page.forest.Distinct ∧ Unheard joinEdited.page ∧
    joinEdited.recorder.isRecording = true ∧ joinEdited.recorder.onAdded ≠ .fail ∧
    joinEdited.recorder.onUpdated ≠ .fail ∧ 1 ≤ joinEdited.recorder.config.submitWindow ∧
    joinEdited.page.forest.locate? l.tag.id = some l ∧ l.tag.lowerName = "button" ∧ l.tag.inputType = "submit" ∧
    Css.closest? [Locator.named "form"] l = some form ∧ isOwn joinEdited.recorder.config l = .ok false ∧
    AddsSubmits 0 joinEdited.recorder (joinEdited.step (.click l.tag.id)).scene.recorder := by
  have hreachable : Reachable joinEdited := joinForm_reachable _ [.start, .click 3]
  obtain ⟨hd, hp, hrec, hadded, hupdated, hwindow, hsome, hsame⟩ : joinEdited.page.forest.Distinct ∧
      Unheard joinEdited.page ∧ joinEdited.recorder.isRecording = true ∧ joinEdited.recorder.onAdded ≠ .fail ∧
      joinEdited.recorder.onUpdated ≠ .fail ∧ 1 ≤ joinEdited.recorder.config.submitWindow ∧
      (joinEdited.page.forest.locate? 3).isSome = true ∧
      (joinEdited.step (.click 3)).scene.recorder.marks = joinEdited.recorder.marks := by
    decide +kernel
  have hbutton : ∀ l ∈ joinEdited.page.forest.locate? 3, l.tag.lowerName = "button" ∧ l.tag.inputType = "submit" ∧
      (Css.closest? [Locator.named "form"] l).isSome = true ∧ isOwn joinEdited.recorder.config l = .ok false := by
    decide +kernel
  obtain ⟨l, hl⟩ := Option.isSome_iff_exists.1 hsome
  obtain ⟨hname, htype, hform, hown⟩ := hbutton l hl
  obtain ⟨form, hform⟩ := Option.isSome_iff_exists.1 hform
  have hid : l.tag.id = 3 := Dom.Forest.tag_id_of_locate? hl
  have hlocated : joinEdited.page.forest.locate? l.tag.id = some l := by rw [hid, hl]
  have hnone : AddsSubmits 0 joinEdited.recorder (joinEdited.step (.click l.tag.id)).scene.recorder := by
    refine ⟨[], ?_, List.countP_nil⟩
    rw [hid, hsame, List.append_nil]
  exact ⟨l, form, hreachable, hd, hp, hrec, hadded, hupdated, hwindow, hlocated, hname, htype, hform, hown, hnone⟩

end PageTape.Scene
