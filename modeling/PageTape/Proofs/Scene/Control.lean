import PageTape.Proofs.Dom.Held
import PageTape.Scene.Document

/-!
# Controls that a browser tells of

A box or a radio button that is brought to the state that a click has given it is as after the click (`sync_toggle`),
and to bring it there again changes nothing (`sync_again`).  A control that is told to have the value it has keeps what
the recorder reads of it (`sync_held`).
-/

namespace PageTape.Scene

open Dom (Forest Id Location Retouch)

variable {f : Forest} {id : Id} {l : Location}

/-! ### Boxes and radio buttons -/

/-- The radio buttons of a group. -/
def radiosOf (group : String) (f : Forest) : List Location :=
  f.document.descendants.filter fun r =>
    r.tag.name.map Char.toLower == "input"
      && r.tag.attrs.any (fun a => a.1.map Char.toLower == "type" && a.2.toText.map Char.toLower == "radio")
      && r.tag.isAttr "name" group

/-- The radio buttons that are let go when one is chosen. -/
def letGo (f : Forest) (l : Location) : List (Id × Bool) :=
  match Locator.given? l.tag "name" with
  | none => []
  | some group => (radiosOf group f).map fun r => (r.tag.id, false)

/-- What becomes of the boxes and radio buttons when one is told to be checked or not. -/
def checking (f : Forest) (l : Location) (checked : Bool) : List (Id × Bool) :=
  match toggleOf l.tag with
  | .none => []
  | .box => [(l.tag.id, checked)]
  | .radio => (if checked then letGo f l else []) ++ [(l.tag.id, checked)]

/-- A button that submits a form is neither a box nor a radio button. -/
lemma toggleOf_submit {tag : Dom.Tag} (h : submitsForm tag = true) : toggleOf tag = .none := by
  unfold submitsForm at h
  unfold toggleOf
  split
  · rfl
  · rename_i hname
    have hname : tag.lowerName = "input" := by simpa using hname
    simp only [hname, Bool.or_eq_true, Bool.and_eq_true, beq_iff_eq] at h
    have htype : tag.inputType = "submit" ∨ tag.inputType = "image" := by simpa using h
    rcases htype with htype | htype <;> rw [htype] <;> rfl

/-- Whether a box or a radio button is checked after a click. -/
def checkedByClick (tag : Dom.Tag) : Bool := toggleOf tag == .radio || !tag.isChecked

lemma clearGroup_eq (f : Forest) (l : Location) : clearGroup f l = (letGo f l).foldl (Forest.putFlag "checked") f := by
  unfold clearGroup letGo
  cases Locator.given? l.tag "name" with
  | none => rfl
  | some group =>
    dsimp only
    rw [List.foldl_map]
    rfl

lemma syncControl_eq (f : Forest) (l : Location) (value : Option String) (h : toggleOf l.tag ≠ .none) (checked : Bool) :
    syncControl f l value (some checked) = (checking f l checked).foldl (Forest.putFlag "checked") f := by
  unfold syncControl checking
  cases htoggle : toggleOf l.tag with
  | none => exact absurd htoggle h
  | box => rfl
  | radio =>
    cases checked with
    | false => rfl
    | true =>
      simp only [if_true, List.foldl_append, clearGroup_eq]
      rfl

/-- **A box or a radio button that is told to have been clicked** is as after the click. -/
theorem sync_toggle (f : Forest) (l : Location) (value : Option String) (h : toggleOf l.tag ≠ .none) :
    syncControl f l value (some (checkedByClick l.tag)) = toggle f l := by
  unfold syncControl toggle checkedByClick
  cases htoggle : toggleOf l.tag with
  | none => exact absurd htoggle h
  | box => rfl
  | radio => rfl

section Again

variable (ups : Id → List Bool)

/-- What tells a box from a radio button, and one group from another, is not changed by checking them. -/
lemma toggleOf_flagging (t : Dom.Tag) : toggleOf ((Retouch.flagging "checked" ups).tag t) = toggleOf t := by
  have htype : ((Retouch.flagging "checked" ups).tag t).inputType = t.inputType := by
    unfold Dom.Tag.inputType
    rw [Dom.attr?_flagging (by decide)]
    rfl
  unfold toggleOf
  rw [htype]
  rfl

lemma document_retouch (f : Forest) (g : Retouch) :
    (f.retouch g).document.descendants = f.document.descendants.map g.location := by
  unfold Forest.document
  rw [Forest.locate?_retouch]
  cases f.locate? Dom.documentId with
  | none => rfl
  | some d => exact g.descendants_location d

lemma radiosOf_flagging (group : String) (f : Forest) :
    radiosOf group (f.retouch (.flagging "checked" ups)) =
      (radiosOf group f).map (Retouch.flagging "checked" ups).location := by
  have hchecked : ("checked".map Char.toLower == "type") = false := by decide +kernel
  have hany : ∀ attrs : Dom.Attrs, (attrs.erase "checked").any
      (fun a => a.1.map Char.toLower == "type" && a.2.toText.map Char.toLower == "radio") =
        attrs.any fun a => a.1.map Char.toLower == "type" && a.2.toText.map Char.toLower == "radio" := by
    intro attrs
    unfold Dom.Attrs.erase
    rw [List.any_filter]
    refine congrArg attrs.any (funext fun a => ?_)
    by_cases ha : a.1 = "checked"
    · simp [ha, hchecked]
    · simp [ha]
  unfold radiosOf
  rw [document_retouch, List.filter_map]
  congr 1
  refine List.filter_congr fun r _ => ?_
  have hattrs : ((Retouch.flagging "checked" ups).location r).tag.attrs =
      r.tag.attrs.flags "checked" (ups r.tag.id) := rfl
  have hname : ((Retouch.flagging "checked" ups).location r).tag.attr? "name" = r.tag.attr? "name" :=
    Dom.attr?_flagging (by decide) ups r.tag
  rw [Function.comp, hattrs, ← hany, Dom.Attrs.erase_flags, hany, Dom.Tag.isAttr, hname]
  rfl

lemma checking_flagging (f : Forest) (l : Location) (checked : Bool) :
    checking (f.retouch (.flagging "checked" ups)) ((Retouch.flagging "checked" ups).location l) checked =
      checking f l checked := by
  have hgiven : Locator.given? ((Retouch.flagging "checked" ups).tag l.tag) "name" = Locator.given? l.tag "name" := by
    unfold Locator.given?
    rw [Dom.attr?_flagging (by decide)]
  have hletGo : letGo (f.retouch (.flagging "checked" ups)) ((Retouch.flagging "checked" ups).location l) =
      letGo f l := by
    unfold letGo
    rw [Retouch.tag_location, hgiven]
    cases Locator.given? l.tag "name" with
    | none => rfl
    | some group =>
      dsimp only
      rw [radiosOf_flagging, List.map_map]
      rfl
  unfold checking
  rw [Retouch.tag_location, toggleOf_flagging, hletGo]
  rfl

end Again

lemma distinct_sync (hd : f.Distinct) (h : toggleOf l.tag ≠ .none) (value : Option String) (checked : Bool) :
    (syncControl f l value (some checked)).Distinct := by
  rw [syncControl_eq f l value h checked, Forest.putFlags_eq hd]
  exact hd.retouch _

/-- **A box or a radio button that is told again** to be checked or not stays as it is. -/
theorem sync_again (hd : f.Distinct) (hl : f.locate? id = some l) (h : toggleOf l.tag ≠ .none) (checked : Bool)
    (value value' : Option String) :
    ∃ m, (syncControl f l value (some checked)).locate? id = some m ∧ toggleOf m.tag = toggleOf l.tag ∧
      syncControl (syncControl f l value (some checked)) m value' (some checked) =
        syncControl f l value (some checked) := by
  have hfirst := (syncControl_eq f l value h checked).trans (Forest.putFlags_eq hd "checked" (checking f l checked))
  set g := Retouch.flagging "checked" (Forest.upsOf (checking f l checked)) with hg
  have htoggle : toggleOf (g.location l).tag = toggleOf l.tag := toggleOf_flagging _ l.tag
  refine ⟨g.location l, by rw [hfirst, Forest.locate?_retouch, hl]; rfl, htoggle, ?_⟩
  rw [syncControl_eq _ _ _ (by rwa [htoggle]), hfirst, checking_flagging, ← Forest.putFlags_eq hd]
  exact Forest.putFlags_twice hd "checked" _

/-! ### Other controls -/

/-- Nothing is told of a control. -/
lemma sync_nothing (f : Forest) (l : Location) : syncControl f l none none = f := by
  unfold syncControl
  cases toggleOf l.tag <;> rfl

/-- A field that is told a value gets it. -/
lemma sync_field (f : Forest) (htoggle : toggleOf l.tag = .none) (hfield : l.tag.isFormField = true) (value : String)
    (checked : Option Bool) : syncControl f l (some value) checked = f.setValue l.tag.id value := by
  unfold syncControl
  rw [htoggle]
  exact if_pos hfield

/-- A control of which a browser may tell the value that it has: it is checked rather than filled in, or no field, or the
value may be written back and the selectors of the tools do not ask for it. -/
def MayTell (config : Recorder.Config) (l : Location) : Prop :=
  toggleOf l.tag ≠ .none ∨ l.tag.isFormField = false ∨ (Dom.Plain l ∧ config.overlooks = true)

/-- **A control that is told to have the value it has** stays what it is to the recorder. -/
theorem sync_held {config : Recorder.Config} (hd : f.Distinct) (hl : f.locate? id = some l) {value : Option String}
    (hvalue : ∀ v ∈ value, v = l.value ∧ MayTell config l) :
    syncControl f l value none = f ∨ (config.overlooks = true ∧
      ∃ g : Retouch, g.Discreet ∧ g.Steady f ∧ syncControl f l value none = f.retouch g) := by
  cases value with
  | none => exact .inl (sync_nothing f l)
  | some v =>
    obtain ⟨rfl, hmay⟩ := hvalue v rfl
    unfold syncControl
    cases htoggle : toggleOf l.tag with
    | box => exact .inl rfl
    | radio => exact .inl rfl
    | none =>
      dsimp only
      split
      · rename_i hfield
        obtain ⟨hplain, hoverlooks⟩ :=
          (hmay.resolve_left fun h => h htoggle).resolve_left fun h => by simp [h] at hfield
        rw [Forest.tag_id_of_locate? hl]
        exact .inr ⟨hoverlooks, Dom.setValue_held hd hl hplain⟩
      · exact .inl rfl

/-- A control that is told a value gets that value, or stays as it is. -/
lemma sync_value (f : Forest) (l : Location) (value : String) :
    syncControl f l (some value) none = f.setValue l.tag.id value ∨ syncControl f l (some value) none = f := by
  unfold syncControl
  cases toggleOf l.tag with
  | box => exact .inr rfl
  | radio => exact .inr rfl
  | none =>
    dsimp only
    split
    · exact .inl rfl
    · exact .inr rfl

end PageTape.Scene
