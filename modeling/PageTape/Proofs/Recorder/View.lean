import PageTape.Proofs.Dom.Location
import PageTape.Recorder.Session

/-!
# What a recorder reads on a page

Two pages may differ and yet be the same to a recorder that reads little of them.

* `AlikeBut P V l l'` — two lists of which each item is related by `V` to one of the other list, in order, but for
  items of which `P` holds;
* `View` — what a recorder reads of an element, but for the alternative selectors;
* `Stage` — the elements that take part in a recording: those of a tool, and those of the page;
* `Stage.Alike` — the pages are alike: the elements of the page that take part are the same to the recorder, and it
  leaves the elements of the tool alone.
-/

namespace PageTape

open Dom (Id Location)

/-! ### Lists that are alike but for some items -/

/-- Each item of the two lists is related to one of the other list, in order, but for items of which `P` holds. -/
inductive AlikeBut {α : Type} (P : α → Prop) (V : α → α → Prop) : List α → List α → Prop
  | nil : AlikeBut P V [] []
  | left {a : α} {l l' : List α} (ha : P a) (h : AlikeBut P V l l') : AlikeBut P V (a :: l) l'
  | right {b : α} {l l' : List α} (hb : P b) (h : AlikeBut P V l l') : AlikeBut P V l (b :: l')
  | both {a b : α} {l l' : List α} (hab : V a b) (h : AlikeBut P V l l') : AlikeBut P V (a :: l) (b :: l')

namespace AlikeBut

variable {α β : Type} {P : α → Prop} {V : α → α → Prop} {Q : β → Prop} {W : β → β → Prop} {l l' m m' : List α}

lemma prepend_left (h : AlikeBut P V l l') (hm : ∀ a ∈ m, P a) : AlikeBut P V (m ++ l) l' := by
  induction m with
  | nil => exact h
  | cons a m ih =>
    obtain ⟨ha, hm⟩ := List.forall_mem_cons.1 hm
    exact .left ha (ih hm)

lemma prepend_right (h : AlikeBut P V l l') (hm : ∀ a ∈ m, P a) : AlikeBut P V l (m ++ l') := by
  induction m with
  | nil => exact h
  | cons a m ih =>
    obtain ⟨ha, hm⟩ := List.forall_mem_cons.1 hm
    exact .right ha (ih hm)

lemma append (h : AlikeBut P V l l') (h' : AlikeBut P V m m') : AlikeBut P V (l ++ m) (l' ++ m') := by
  induction h with
  | nil => exact h'
  | left ha _ ih => exact .left ha ih
  | right hb _ ih => exact .right hb ih
  | both hab _ ih => exact .both hab ih

/-- A list is like itself if its items are so, but for those of which `P` holds. -/
lemma of_self (h : ∀ a ∈ l, P a ∨ V a a) : AlikeBut P V l l := by
  induction l with
  | nil => exact .nil
  | cons a l ih =>
    obtain ⟨ha, hl⟩ := List.forall_mem_cons.1 h
    rcases ha with ha | ha
    · exact .left ha (.right ha (ih hl))
    · exact .both ha (ih hl)

lemma forall_left (h : AlikeBut P V l []) : ∀ a ∈ l, P a := by
  induction l with
  | nil => exact nofun
  | cons a l ih =>
    cases h with
    | left ha h => exact List.forall_mem_cons.2 ⟨ha, ih h⟩

protected lemma symm (h : AlikeBut P V l l') (hV : ∀ a b, V a b → V b a) : AlikeBut P V l' l := by
  induction h with
  | nil => exact .nil
  | left ha _ ih => exact .right ha ih
  | right hb _ ih => exact .left hb ih
  | both hab _ ih => exact .both (hV _ _ hab) ih

lemma flatMap {f f' : α → List β} (h : AlikeBut P V l l') (hleft : ∀ a, P a → ∀ b ∈ f a, Q b)
    (hright : ∀ a, P a → ∀ b ∈ f' a, Q b) (hboth : ∀ a b, V a b → AlikeBut Q W (f a) (f' b)) :
    AlikeBut Q W (l.flatMap f) (l'.flatMap f') := by
  induction h with
  | nil => exact .nil
  | left ha _ ih =>
    rw [List.flatMap_cons]
    exact ih.prepend_left (hleft _ ha)
  | right hb _ ih =>
    rw [List.flatMap_cons]
    exact ih.prepend_right (hright _ hb)
  | both hab _ ih =>
    rw [List.flatMap_cons, List.flatMap_cons]
    exact (hboth _ _ hab).append ih

lemma filter {P' : α → Prop} {V' : α → α → Prop} {p : α → Bool} (h : AlikeBut P V l l')
    (hp : ∀ a b, V a b → p a = p b) (hP : ∀ a, p a = true → P a → P' a)
    (hV : ∀ a b, p a = true → V a b → V' a b) : AlikeBut P' V' (l.filter p) (l'.filter p) := by
  induction h with
  | nil => exact .nil
  | @left a _ _ ha _ ih =>
    rw [List.filter_cons]
    split
    · exact .left (hP _ ‹_› ha) ih
    · exact ih
  | @right b _ _ hb _ ih =>
    rw [List.filter_cons]
    split
    · exact .right (hP _ ‹_› hb) ih
    · exact ih
  | @both a b _ _ hab _ ih =>
    rw [List.filter_cons, List.filter_cons, ← hp a b hab]
    split
    · exact .both (hV _ _ ‹_› hab) ih
    · exact ih

/-- What is found first is found among the items that are related. -/
lemma findSome?_eq {f f' : α → Option β} (h : AlikeBut P V l l') (hleft : ∀ a, P a → f a = none)
    (hright : ∀ a, P a → f' a = none) (hboth : ∀ a b, V a b → f a = f' b) : l.findSome? f = l'.findSome? f' := by
  induction h with
  | nil => rfl
  | left ha _ ih => rw [List.findSome?_cons, hleft _ ha, ih]
  | right hb _ ih => rw [List.findSome?_cons, hright _ hb, ih]
  | both hab _ ih => rw [List.findSome?_cons, List.findSome?_cons, hboth _ _ hab, ih]

/-- Lists are alike but for what is left out of both, if the same is read of the rest. -/
lemma of_filter_map {p : α → Bool} {f : α → β} (h : (l.filter p).map f = (l'.filter p).map f)
    (hP : ∀ a ∈ l ++ l', p a = false → P a)
    (hV : ∀ a ∈ l.filter p, ∀ b ∈ l'.filter p, f a = f b → V a b) : AlikeBut P V l l' := by
  induction l generalizing l' with
  | nil =>
    have hall : ∀ a ∈ l', P a := fun a ha => hP a (List.mem_append_right _ ha) (Bool.eq_false_iff.2
      (List.filter_eq_nil_iff.1 (List.map_eq_nil_iff.1 h.symm) a ha))
    simpa using nil.prepend_right hall
  | cons a l ih =>
    cases ha : p a with
    | false =>
      rw [List.filter_cons_of_neg (by simp [ha])] at h hV
      exact .left (hP a List.mem_cons_self ha) (ih h (fun b hb => hP b (List.mem_cons_of_mem _ hb)) hV)
    | true =>
      rw [List.filter_cons_of_pos ha] at h hV
      obtain ⟨b, rest, hfilter, hb, hrest⟩ := List.map_eq_cons_iff.1 h.symm
      obtain ⟨m, m', rfl, hm, -, hm'⟩ := List.filter_eq_cons_iff.1 hfilter
      rw [hfilter] at hV
      have hpass : ∀ c ∈ m, P c := fun c hc => hP c (by simp [hc]) (Bool.eq_false_iff.2 (hm c hc))
      refine .prepend_right (.both (hV a List.mem_cons_self b List.mem_cons_self hb.symm) (ih ?_ ?_ ?_)) hpass
      · rw [hm', hrest]
      · intro c hc
        exact hP c (by
          rcases List.mem_append.1 hc with hc | hc
          · exact List.mem_append_left _ (List.mem_cons_of_mem _ hc)
          · simp [hc])
      · rw [hm']
        exact fun c hc d hd => hV c (List.mem_cons_of_mem _ hc) d (List.mem_cons_of_mem _ hd)

/-- Lists are alike but for what is left out of both, if the rest is the same. -/
lemma of_filter_eq {p : α → Bool} {R : α → Prop} (h : l.filter p = l'.filter p) (hR : ∀ a ∈ l.filter p, R a) :
    AlikeBut (fun a => p a = false) (fun a b => a = b ∧ R a) l l' :=
  of_filter_map (f := id) (by rw [h]) (fun _ _ h => h) fun a ha _ _ hab => ⟨hab, hR a ha⟩

end AlikeBut

/-! ### Steps -/

/-- The step without its alternative selectors. -/
def Step.plain (s : Step) : Step := { s with smartSelectors := none }

/-- The session without the alternative selectors of its steps. -/
def Session.plain (s : Session) : Session := { s with steps := s.steps.map Step.plain }

lemma Session.plain_withSteps {s s' : Session} (h : s.plain = s'.plain) {steps steps' : List Step}
    (hsteps : steps.map Step.plain = steps'.map Step.plain) :
    ({ s with steps } : Session).plain = ({ s' with steps := steps' } : Session).plain := by
  show ({ s.plain with steps := steps.map Step.plain } : Session) = { s'.plain with steps := steps'.map Step.plain }
  rw [h, hsteps]

namespace Recorder

/-! ### Elements -/

/-- What a recorder reads of an element, but for the alternative selectors. -/
structure View where
  tag : Dom.Tag
  isOwn : Except Fault Bool
  selector : String
  label : Option String
  value : String
  isVisible : Bool
  deriving DecidableEq

/-- What a recorder reads of an element. -/
def viewOf (config : Config) (l : Location) : View where
  tag := l.tag
  isOwn := isOwn config l
  selector := Locator.quick l
  label := Locator.label? l
  value := l.value
  isVisible := l.isVisible

/-- What is said of an element in a step is read of it, but for the alternative selectors. -/
lemma plain_describe {config : Config} {l l' : Location} (h : viewOf config l = viewOf config l') {s s' : Step}
    (hs : s.plain = s'.plain) : (describe l s).plain = (describe l' s').plain := by
  have hselector : Locator.quick l = Locator.quick l' := (congrArg View.selector h :)
  have hlabel : Locator.label? l = Locator.label? l' := (congrArg View.label h :)
  show ({ s.plain with
      selector := some (s.plain.selector.getD (Locator.quick l))
      label := s.plain.label.orElse fun _ => Locator.label? l } : Step) = { s'.plain with
      selector := some (s'.plain.selector.getD (Locator.quick l'))
      label := s'.plain.label.orElse fun _ => Locator.label? l' }
  rw [hs, hselector, hlabel]

/-- So is what a field is given. -/
lemma plain_snapshot? {config : Config} {l l' : Location} (h : viewOf config l = viewOf config l') (selector : String)
    (now : Int) : (snapshot? l selector now).map Step.plain = (snapshot? l' selector now).map Step.plain := by
  have htag : l.tag = l'.tag := (congrArg View.tag h :)
  have hvalue : l.value = l'.value := (congrArg View.value h :)
  have hstep (kind : StepKind) (value : Option String) :
      ({ describe l ({ kind, timestamp := now, selector := some selector, required := some l'.tag.isRequired } : Step)
        with value } : Step).plain =
      ({ describe l' ({ kind, timestamp := now, selector := some selector, required := some l'.tag.isRequired } : Step)
        with value } : Step).plain := congrArg (fun s : Step => { s with value }) (plain_describe h rfl)
  unfold snapshot?
  rw [htag, hvalue]
  rcases controlKind? l'.tag with _ | kind
  · rfl
  · cases kind <;> dsimp only <;> split <;> first | rfl | exact congrArg some (hstep _ _)

/-- The selector to wait for if an element was a sign of loading and is gone. -/
def signOf? (p : Page) (id : Id) : Option String := (p.forest.locate? id).bind goneSelector?

/-- The element of a page that an event comes from. -/
def targetOf? (p : Page) (event : Page.Event) : Option Location := event.target.element?.bind p.forest.locate?

/-- The form whose fields are looked at when an event comes from an element. -/
def formOf? (type : String) (l : Location) : Option Location :=
  match type with
  | "click" =>
    if l.tag.lowerName == "button" && l.tag.inputType == "submit" then Css.closest? [Locator.named "form"] l else none
  | "submit" => some l
  | _ => none

/-! ### Pages -/

/-- The elements that take part in a recording: those of a tool, of these the ones that are taken off the page, and those
of the page. -/
structure Stage where
  config : Config
  own : List Id
  shed : List Id
  page : List Id

namespace Stage

variable (K : Stage)

/-- The recorder leaves the element alone. -/
def LeavesAlone (l : Location) : Prop := isOwn K.config l = .ok true

/-- The element is one of the tool, and the recorder leaves it alone where it is in the document. -/
def Skips (l : Location) : Prop := l.tag.id ∈ K.own ∧ (l.root.tag.isDocument = true → K.LeavesAlone l)

/-- The elements are the same one of the page; if it is a field, the recorder reads the same of it. -/
structure Matches (l l' : Location) : Prop where
  tag : l.tag = l'.tag
  page : l.tag.id ∉ K.own
  isDocument : l.root.tag.isDocument = l'.root.tag.isDocument
  view : l.tag.isFormField = true → viewOf K.config l = viewOf K.config l'

/-- **The pages are alike**: the recorder reads the same of the elements of the page that take part, leaves those of the
tool alone, and sees no sign of loading in what the tool takes off the page. -/
structure Alike (p p' : Page) : Prop where
  url : p.url = p'.url
  title : p.title = p'.title
  view : ∀ id ∈ K.page, (p.forest.locate? id).map (viewOf K.config) = (p'.forest.locate? id).map (viewOf K.config)
  grown : ∀ id ∈ K.page, AlikeBut K.Skips K.Matches (grown p id) (grown p' id)
  sign : ∀ id ∈ K.page, signOf? p id = signOf? p' id
  own : ∀ id ∈ K.own, (∀ l ∈ Recorder.grown p id, K.Skips l) ∧ ∀ l ∈ Recorder.grown p' id, K.Skips l
  shed : ∀ id ∈ K.shed, signOf? p id = none ∧ signOf? p' id = none

variable {K}

protected lemma Matches.symm {l l' : Location} (h : K.Matches l l') : K.Matches l' l where
  tag := h.tag.symm
  page := h.tag ▸ h.page
  isDocument := h.isDocument.symm
  view hfield := (h.view (h.tag ▸ hfield)).symm

protected lemma Alike.symm {p p' : Page} (h : K.Alike p p') : K.Alike p' p where
  url := h.url.symm
  title := h.title.symm
  view id hid := (h.view id hid).symm
  grown id hid := (h.grown id hid).symm fun _ _ => Matches.symm
  sign id hid := (h.sign id hid).symm
  own id hid := (h.own id hid).symm
  shed id hid := (h.shed id hid).symm

variable (K)

/-! ### Pages that are looked at -/

/-- The element is one of the tool, and is left alone where it is in the document. -/
def skips (l : Location) : Bool :=
  K.own.contains l.tag.id && (!l.root.tag.isDocument || decide (isOwn K.config l = .ok true))

/-- What is read of an element that was added, or is in one: if it is a field, all that a recorder reads of it. -/
def readingOf (l : Location) : Dom.Tag × Bool × Option View :=
  (l.tag, l.root.tag.isDocument, if l.tag.isFormField then some (viewOf K.config l) else none)

/-- The same is read of the elements, but for those of the tool. -/
def isGrownAlike (ls ls' : List Location) : Bool :=
  (ls ++ ls').all (fun l => K.skips l || !K.own.contains l.tag.id) &&
    (ls.filter (!K.skips ·)).map K.readingOf == (ls'.filter (!K.skips ·)).map K.readingOf

/-- The pages are found to be alike. -/
def isAlike (p p' : Page) : Bool :=
  p.url == p'.url && p.title == p'.title &&
    K.page.all (fun id =>
      decide ((p.forest.locate? id).map (viewOf K.config) = (p'.forest.locate? id).map (viewOf K.config)) &&
        K.isGrownAlike (grown p id) (grown p' id) && signOf? p id == signOf? p' id) &&
    K.own.all (fun id => (grown p id ++ grown p' id).all K.skips) &&
    K.shed.all fun id => (signOf? p id).isNone && (signOf? p' id).isNone

variable {K}

lemma skips_iff {l : Location} : K.skips l = true ↔ K.Skips l := by
  unfold skips Skips LeavesAlone
  cases l.root.tag.isDocument <;> simp

lemma grown_alike {ls ls' : List Location} (h : K.isGrownAlike ls ls' = true) : AlikeBut K.Skips K.Matches ls ls' := by
  obtain ⟨hall, hsame⟩ := Bool.and_eq_true_iff.1 h
  rw [List.all_eq_true] at hall
  refine .of_filter_map (beq_iff_eq.1 hsame) (fun l _ hl => skips_iff.1 (by simpa using hl)) fun l hl l' _ hread => ?_
  obtain ⟨hmem, hskips⟩ := List.mem_filter.1 hl
  have hpage : l.tag.id ∉ K.own := by
    have hskipped := hall l (List.mem_append_left _ hmem)
    rw [Bool.not_eq_true'] at hskips
    simpa [hskips] using hskipped
  have htag : l.tag = l'.tag := congrArg Prod.fst hread
  refine ⟨htag, hpage, congrArg (fun x => x.2.1) hread, fun hfield => ?_⟩
  have hview := congrArg (fun x => x.2.2) hread
  simpa [readingOf, hfield, htag ▸ hfield] using hview

/-- Pages that are found to be alike are so. -/
lemma Alike.of_check {p p' : Page} (h : K.isAlike p p' = true) : K.Alike p p' := by
  simp only [isAlike, Bool.and_eq_true, beq_iff_eq, List.all_eq_true, decide_eq_true_eq, Option.isNone_iff_eq_none] at h
  obtain ⟨⟨⟨⟨hurl, htitle⟩, hpage⟩, hown⟩, hshed⟩ := h
  refine ⟨hurl, htitle, fun id hid => (hpage id hid).1.1, fun id hid => grown_alike (hpage id hid).1.2,
    fun id hid => (hpage id hid).2, fun id hid => ⟨fun l hl => ?_, fun l hl => ?_⟩, hshed⟩
  · exact skips_iff.1 (hown id hid l (List.mem_append_left _ hl))
  · exact skips_iff.1 (hown id hid l (List.mem_append_right _ hl))

variable (K)

/-- The forms have the same fields, but for those of the tool. -/
def SameFields (form form' : Location) : Prop :=
  AlikeBut K.LeavesAlone (fun l l' => viewOf K.config l = viewOf K.config l') (formFields form) (formFields form')

/-- The pages are alike, and the event comes from the same element of the page, or from none. -/
structure AlikeFor (p p' : Page) (event : Page.Event) : Prop extends K.Alike p p' where
  target : ∀ id, event.target.element? = some id → id ∈ K.page
  text : event.type = "click" → (targetOf? p event).map (fun l => Text.strip l.textContent) =
    (targetOf? p' event).map fun l => Text.strip l.textContent
  form : Option.Rel K.SameFields ((targetOf? p event).bind (formOf? event.type))
    ((targetOf? p' event).bind (formOf? event.type))

end Stage

end Recorder

end PageTape
