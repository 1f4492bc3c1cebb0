import PageTape.Proofs.Dom.Held
import PageTape.Proofs.Scene.Delivered

/-!
# What a click checks

* `click_delivers` — a click on a box or a radio button changes what is checked first of all, is heard, and is followed
  by `input` and `change` if the page goes on;
* `rivals` — the radio buttons that are let go with a click are those of the same name in the whole document
  (`checks_toggle`), and nothing is taken back if the page does not go on;
* `AsInBrowser` — in a browser they are those of the same form, and all is taken back.  The two agree just where no
  radio button of the same name is checked in another form, and where there is nothing to take back
  (`clicked_as_in_browser_iff`).
-/

namespace PageTape.Scene

open Dom (Forest Id Location Retouch)

variable {s : Scene} {f : Forest} {l m : Location}

/-! ### A click -/

/-- An event of a click. -/
def eventOf (type : String) (l : Location) : Page.Event := ⟨type, .element l.tag.id, none⟩

/-- The page goes on after a click on a box or a radio button has been heard. -/
def goesOn (s : Scene) (l : Location) : Bool := allows .document (changed s (toggle · l)) (eventOf "click" l)

/-- The events of a click on a box or a radio button: what has changed is told if the page goes on. -/
def clickEvents (s : Scene) (l : Location) : List Page.Event :=
  eventOf "click" l :: if goesOn s l then [eventOf "input" l, eventOf "change" l] else []

/-- **A click on a box or a radio button** changes what is checked, is heard, and is followed by `input` and `change` if
the page goes on. -/
lemma click_delivers (hl : s.page.forest.locate? l.tag.id = some l) (htoggle : toggleOf l.tag ≠ .none) :
    ∃ t, Delivered .document (changed s (toggle · l)) (clickEvents s l) t ∧
      s.step (.click l.tag.id) = ⟨.ok .nothing, t.log, { t with log := [] }⟩ := by
  obtain ⟨t, ht, hclick⟩ := deliver_run .document (eventOf "click" l) (changed s (toggle · l))
  obtain ⟨u, hu, hinput⟩ := hclick.next (eventOf "input" l)
  obtain ⟨v, hv, hchange⟩ := hinput.next (eventOf "change" l)
  have hlocated : (located l.tag.id).run { s with log := [] } =
      (.ok (s.page.forest.locate? l.tag.id), { s with log := [] }) := rfl
  have hchanged : (changeForest (toggle · l)).run { s with log := [] } = (.ok ⟨⟩, changed s (toggle · l)) := rfl
  have hfire : ∀ type, fire type l.tag.id none = deliver .document (eventOf type l) := fun _ => rfl
  unfold step perform unanswered click
  simp only [hfire]
  rw [Course.run_bind, Course.run_bind, hlocated, hl]
  dsimp only
  rw [Course.run_bind, hchanged]
  dsimp only
  rw [Course.run_bind, ht]
  unfold clickEvents goesOn
  cases allows .document (changed s (toggle · l)) (eventOf "click" l) with
  | false => exact ⟨t, hclick, rfl⟩
  | true =>
    refine ⟨v, hchange, ?_⟩
    simp only [if_true, bne_iff_ne.2 htoggle]
    rw [Course.run_bind, Course.run_discard, hu]
    simp only [Except.map]
    rw [Course.run_discard, hv]
    rfl

/-! ### What is checked -/

/-- The element of an identity is checked. -/
def checkedAt (f : Forest) (id : Id) : Bool := (f.locate? id).any (·.tag.isChecked)

/-- The radio buttons of the name of a radio button, wherever they are in the document. -/
def rivals (f : Forest) (l : Location) : List Location :=
  if toggleOf l.tag = .radio then ((Locator.given? l.tag "name").map (radiosOf · f)).getD [] else []

/-- The form that an element is in. -/
def formOf (l : Location) : Option Id := (Css.closest? [Locator.named "form"] l).map (·.tag.id)

/-- An element is checked as by a click, the others of a group are not, and what is not of the group stays. -/
structure Checks (f : Forest) (l : Location) (members : List Location) (f' : Forest) : Prop where
  self : checkedAt f' l.tag.id = checkedByClick l.tag
  group : ∀ m ∈ members, m.tag.id ≠ l.tag.id → checkedAt f' m.tag.id = false
  others : ∀ m ∈ f.locations, m.tag.id ≠ l.tag.id → m ∉ members → checkedAt f' m.tag.id = m.tag.isChecked

/-- What is checked is what was checked before. -/
def SameChecked (f f' : Forest) : Prop := ∀ m ∈ f.locations, checkedAt f' m.tag.id = m.tag.isChecked

lemma mem_locations_of_mem_rivals (h : m ∈ rivals f l) : m ∈ f.locations := by
  have hmem : m ∈ f.document.descendants := by
    unfold rivals at h
    split at h
    · cases hname : Locator.given? l.tag "name" with
      | none => simp [hname] at h
      | some group =>
        rw [hname] at h
        exact (List.mem_filter.1 h).1
    · cases h
  exact Forest.mem_locations_of_mem_document hmem

/-- What a click does to the flags is told by the radio buttons of the same name. -/
lemma checking_click (f : Forest) (h : toggleOf l.tag ≠ .none) :
    checking f l (checkedByClick l.tag) =
      (rivals f l).map (fun r => (r.tag.id, false)) ++ [(l.tag.id, checkedByClick l.tag)] := by
  unfold checking rivals checkedByClick letGo
  cases htoggle : toggleOf l.tag with
  | none => exact absurd htoggle h
  | box => rfl
  | radio => cases Locator.given? l.tag "name" <;> rfl

/-- A click puts flags up and down. -/
lemma toggle_eq_retouch (hd : f.Distinct) (h : toggleOf l.tag ≠ .none) :
    toggle f l = f.retouch (.flagging "checked" (Forest.upsOf (checking f l (checkedByClick l.tag)))) := by
  rw [← sync_toggle f l none h, syncControl_eq f l none h, Forest.putFlags_eq hd]

/-- **A click checks an element**, and lets go all radio buttons of the same name in the document. -/
theorem checks_toggle (hd : f.Distinct) (hl : l ∈ f.locations) (h : toggleOf l.tag ≠ .none) :
    Checks f l (rivals f l) (toggle f l) := by
  have htoggle := toggle_eq_retouch hd h
  set ups := Forest.upsOf (checking f l (checkedByClick l.tag)) with hups
  have hat : ∀ m ∈ f.locations, checkedAt (toggle f l) m.tag.id = (ups m.tag.id).getLast?.getD m.tag.isChecked := by
    intro m hm
    unfold checkedAt
    rw [htoggle, Forest.locate?_retouch, hd.locate? hm, Option.map_some, Option.any_some]
    exact Dom.has_flags_getLast? "checked" m.tag (ups m.tag.id)
  -- an element is told by the last flag that is put up or down on it
  have hself : (ups l.tag.id).getLast? = some (checkedByClick l.tag) := by
    rw [hups, checking_click f h, Forest.upsOf, List.filter_append, List.map_append, List.getLast?_append]
    simp
  have hother : ∀ m : Location, m.tag.id ≠ l.tag.id →
      ups m.tag.id = ((rivals f l).filter (·.tag.id = m.tag.id)).map fun _ => false := by
    intro m hm
    rw [hups, checking_click f h, Forest.upsOf, List.filter_append, List.filter_map]
    simp [Ne.symm hm, Function.comp_def]
  refine ⟨?_, fun m hm hne => ?_, fun m hm hne hnot => ?_⟩
  · rw [hat l hl, hself]
    rfl
  · rw [hat m (mem_locations_of_mem_rivals hm), hother m hne, List.getLast?_map]
    have hin : m ∈ (rivals f l).filter (·.tag.id = m.tag.id) := List.mem_filter.2 ⟨hm, by simp⟩
    rw [List.getLast?_eq_some_getLast (List.ne_nil_of_mem hin)]
    rfl
  · have hnil : (rivals f l).filter (·.tag.id = m.tag.id) = [] := by
      refine List.filter_eq_nil_iff.2 fun r hr hid => hnot ?_
      rwa [hd.eq (mem_locations_of_mem_rivals hr) hm (of_decide_eq_true hid).symm]
    rw [hat m hm, hother m hne, hnil]
    rfl

/-! ### In a browser -/

/-- **What a click checks in a browser**: if the page goes on, only radio buttons of the same form are let go, and if it
does not, all is as it was. -/
structure AsInBrowser (s : Scene) (l : Location) (f' : Forest) : Prop where
  goesOn : goesOn s l = true →
    Checks s.page.forest l ((rivals s.page.forest l).filter (formOf · = formOf l)) f'
  stops : Scene.goesOn s l = false → SameChecked s.page.forest f'

/-- If the page goes on, it matters where the radio buttons of the same name are that are checked. -/
lemma Checks.inForm_iff {f' : Forest} (h : Checks f l (rivals f l) f') :
    Checks f l ((rivals f l).filter (formOf · = formOf l)) f' ↔
      ∀ m ∈ rivals f l, m.tag.isChecked = true → m.tag.id = l.tag.id ∨ formOf m = formOf l := by
  refine ⟨fun hform m hm hchecked => ?_, fun hall => ⟨h.self, fun m hm => h.group m (List.mem_filter.1 hm).1, ?_⟩⟩
  · by_contra hnot
    obtain ⟨hne, hother⟩ := not_or.1 hnot
    have hstays := hform.others m (mem_locations_of_mem_rivals hm) hne fun hin =>
      hother (of_decide_eq_true (List.mem_filter.1 hin).2)
    rw [h.group m hm hne, hchecked] at hstays
    cases hstays
  · intro m hm hne hnot
    by_cases hin : m ∈ rivals f l
    · have hother : formOf m ≠ formOf l := fun heq => hnot (List.mem_filter.2 ⟨hin, decide_eq_true heq⟩)
      rw [h.group m hin hne, eq_comm, Bool.eq_false_iff]
      exact fun hchecked => (hall m hin hchecked).elim hne hother
    · exact h.others m hm hne hin

/-- If the page does not go on, it matters whether there is something to take back. -/
lemma Checks.same_iff {f' : Forest} (hd : f.Distinct) (hl : l ∈ f.locations) (h : Checks f l (rivals f l) f') :
    SameChecked f f' ↔ (toggleOf l.tag = .radio ∧ l.tag.isChecked = true) ∧
      ∀ m ∈ rivals f l, m.tag.isChecked = true → m.tag.id = l.tag.id := by
  have hself : checkedByClick l.tag = l.tag.isChecked ↔ toggleOf l.tag = .radio ∧ l.tag.isChecked = true := by
    unfold checkedByClick
    cases l.tag.isChecked <;> simp
  refine ⟨fun hsame => ⟨hself.1 (h.self.symm.trans (hsame l hl)), fun m hm hchecked => ?_⟩, fun ⟨hchosen, hall⟩ m hm => ?_⟩
  · by_contra hne
    have hstays := hsame m (mem_locations_of_mem_rivals hm)
    rw [h.group m hm hne, hchecked] at hstays
    cases hstays
  · by_cases hid : m.tag.id = l.tag.id
    · obtain rfl : m = l := hd.eq hl hm hid
      exact h.self.trans (hself.2 hchosen)
    · by_cases hin : m ∈ rivals f l
      · rw [h.group m hin hid, eq_comm, Bool.eq_false_iff]
        exact fun hchecked => hid (hall m hin hchecked)
      · exact h.others m hm hid hin

/-- Two forms with radio buttons of one name: in the first one is checked of two, in the second there is one. -/
def twoForms (second : Dom.Attrs) : Scene :=
  let radio (id : Id) (attrs : Dom.Attrs) : Dom.Node :=
    .element ⟨id, "input", [("type", .text "radio"), ("name", .text "size")] ++ attrs⟩ []
  showing [.element ⟨1, "form", []⟩ [radio 2 [("checked", .text "")], radio 3 []],
    .element ⟨4, "form", []⟩ [radio 5 second]] 6 {}

/-- A box on a page that keeps a click from what it is for. -/
def guardedBox : Scene :=
  (showing [.element ⟨1, "input", [("type", .text "checkbox")]⟩ []] 2 {}).after
    [.listen .document "guard" "click" false .prevent]

end PageTape.Scene
