import PageTape.Proofs.Recorder.Discreet
import PageTape.Proofs.Dom.Field
import Mathlib.Data.Fintype.EquivFin

/-!
# What is entered into controls

* `Retouch.flagging`, `putFlags_eq` — to check a box and to choose an option is to put a *flag* up or down, an attribute
  that is there or not.  Many such changes in a row are one retouch;
* `putFlags_twice`, `setValue_twice` — to make the same ones again changes nothing, so a value may be chosen again.
-/

namespace PageTape.Dom

variable {f : Forest} {id : Id} {l m : Location} {key : String}

/-! ### Attributes -/

namespace Attrs

/-- The attributes with a flag up or down. -/
def flag (key : String) (attrs : Attrs) (up : Bool) : Attrs :=
  if up then attrs.set key (.text "") else attrs.erase key

/-- The attributes after a flag was put up and down as told. -/
def flags (key : String) (attrs : Attrs) (ups : List Bool) : Attrs := ups.foldl (flag key) attrs

lemma flags_append (key : String) (attrs : Attrs) (ups ups' : List Bool) :
    flags key (flags key attrs ups) ups' = flags key attrs (ups ++ ups') := (List.foldl_append ..).symm

lemma erase_set (key : String) (value : AttrValue) (attrs : Attrs) :
    erase key (set key value attrs) = erase key attrs := by
  induction attrs with
  | nil => simp [set, erase]
  | cons a rest ih =>
    obtain ⟨n, v⟩ := a
    unfold set
    unfold erase at ih ⊢
    split
    · rename_i hn
      simp [hn]
    · rename_i hn
      rw [List.filter_cons_of_pos (by simpa using hn), List.filter_cons_of_pos (by simpa using hn), ih]

lemma set_set (key : String) (value : AttrValue) (attrs : Attrs) :
    set key value (set key value attrs) = set key value attrs := by
  induction attrs with
  | nil => simp [set]
  | cons a rest ih =>
    obtain ⟨n, v⟩ := a
    by_cases hn : n = key
    · simp [set, hn]
    · simp [set, hn, ih]

lemma erase_erase (key : String) (attrs : Attrs) : erase key (erase key attrs) = erase key attrs := by
  simp [erase]

lemma erase_flags (key : String) (attrs : Attrs) (ups : List Bool) :
    erase key (flags key attrs ups) = erase key attrs := by
  induction ups generalizing attrs with
  | nil => rfl
  | cons up rest ih =>
    rw [flags, List.foldl_cons]
    refine (ih _).trans ?_
    unfold flag
    split
    · exact erase_set _ _ _
    · exact erase_erase _ _

/-- Once a flag was put down, it does not matter what it was before. -/
lemma flags_erase (attrs : Attrs) {ups : List Bool} (h : false ∈ ups) :
    flags key (erase key attrs) ups = flags key attrs ups := by
  induction ups generalizing attrs with
  | nil => cases h
  | cons up rest ih =>
    cases up with
    | false => exact congrArg (flags key · rest) (erase_erase key attrs)
    | true =>
      have hrest : false ∈ rest := by simpa using h
      show flags key (set key _ (erase key attrs)) rest = flags key (set key _ attrs) rest
      rw [← ih _ hrest, ← ih (set key _ attrs) hrest, erase_set, erase_set, erase_erase]

/-- A flag that is up stays so if it is put up. -/
lemma flags_set (attrs : Attrs) {ups : List Bool} (h : false ∉ ups) :
    flags key (set key (.text "") attrs) ups = set key (.text "") attrs := by
  induction ups with
  | nil => rfl
  | cons up rest ih =>
    cases up with
    | false => simp at h
    | true =>
      show flags key (set key _ (set key _ attrs)) rest = _
      rw [set_set]
      exact ih fun hrest => h (List.mem_cons_of_mem _ hrest)

/-- **A flag that is put up and down again** in the same way is as before. -/
lemma flags_flags (key : String) (attrs : Attrs) (ups : List Bool) :
    flags key (flags key attrs ups) ups = flags key attrs ups := by
  by_cases h : false ∈ ups
  · rw [← flags_erase _ h, erase_flags, flags_erase _ h]
  · cases ups with
    | nil => rfl
    | cons up rest =>
      cases up with
      | false => simp at h
      | true =>
        have hrest : false ∉ rest := fun hrest => h (List.mem_cons_of_mem _ hrest)
        have hset : flags key attrs (true :: rest) = set key (.text "") attrs := flags_set attrs hrest
        rw [hset, flags_set attrs h]

end Attrs

namespace Attrs

variable {n : String}

lemma lookup_flags (hn : n ≠ key) (attrs : Attrs) (ups : List Bool) :
    List.lookup n (flags key attrs ups) = List.lookup n attrs := by
  have hother : ∀ as : Attrs, List.lookup n (erase key as) = List.lookup n as := fun as =>
    lookup_filter as (p := fun n => n ≠ key) (by simpa using hn)
  rw [← hother, erase_flags, hother]

lemma lasting_erase (h : key ∈ heldNames) (attrs : Attrs) : (erase key attrs).lasting = attrs.lasting := by
  unfold lasting erase
  rw [List.filter_filter]
  refine List.filter_congr fun a _ => ?_
  by_cases hk : a.1 = key <;> simp [hk, h]

lemma lasting_flags (h : key ∈ heldNames) (attrs : Attrs) (ups : List Bool) :
    (flags key attrs ups).lasting = attrs.lasting := by
  rw [← lasting_erase h, erase_flags, lasting_erase h]

lemma lasting_set (h : key ∈ heldNames) (attrs : Attrs) (value : AttrValue) :
    (set key value attrs).lasting = attrs.lasting := by
  rw [← lasting_erase h, erase_set, lasting_erase h]

end Attrs

/-! ### Retouches of attributes -/

namespace Retouch

/-- The attributes of elements change, as told by their identities. -/
def attrs (h : Id → Attrs → Attrs) : Retouch where
  tag t := { t with attrs := h t.id t.attrs }
  text _ ns := ns
  id _ := rfl
  name _ := rfl
  leaf _ _ h := h

/-- Flags of elements are put up and down. -/
def flagging (key : String) (ups : Id → List Bool) : Retouch := attrs fun id as => as.flags key (ups id)

lemma children_attrs (h : Id → Attrs → Attrs) (t : Tag) (ns : List Node) :
    (attrs h).children t ns = ns.map (attrs h).node := by
  unfold children
  split
  · exact (map_leaf _ ‹_›).symm
  · rfl

mutual
lemma node_attrs_attrs (h h' : Id → Attrs → Attrs) (n : Node) :
    (attrs h').node ((attrs h).node n) = (attrs fun id as => h' id (h id as)).node n := by
  cases n with
  | element tag children =>
    rw [node_element, node_element, node_element, children_attrs, children_attrs, children_attrs, map_attrs_attrs]
    rfl
  | _ => rfl

lemma map_attrs_attrs (h h' : Id → Attrs → Attrs) (ns : List Node) :
    (ns.map (attrs h).node).map (attrs h').node = ns.map (attrs fun id as => h' id (h id as)).node := by
  cases ns with
  | nil => rfl
  | cons n rest =>
    rw [List.map_cons, List.map_cons, List.map_cons, node_attrs_attrs, map_attrs_attrs h h' rest]
end

lemma map_attrs_id (ns : List Node) : ns.map (attrs fun _ as => as).node = ns := by
  obtain ⟨id, hid⟩ := Infinite.exists_notMem_finset (idsOf ns).toFinset
  exact Only.map_eq ⟨fun _ _ => rfl, fun _ _ _ => rfl⟩ ns (by simpa using hid)

end Retouch

namespace Forest

lemma retouch_attrs_attrs (f : Forest) (h h' : Id → Attrs → Attrs) :
    (f.retouch (.attrs h)).retouch (.attrs h') = f.retouch (.attrs fun id as => h' id (h id as)) := by
  unfold retouch
  rw [Retouch.map_attrs_attrs]

lemma retouch_same (f : Forest) : f.retouch (.attrs fun _ as => as) = f := by
  unfold retouch
  rw [Retouch.map_attrs_id]

/-- An edit of the attributes of one element. -/
lemma changeTag_eq (hd : f.Distinct) (id : Id) (k : Attrs → Attrs) :
    f.changeTag id (fun t => { t with attrs := k t.attrs }) =
      f.retouch (.attrs fun i as => if i = id then k as else as) := by
  refine rewrite_eq_retouch hd ⟨fun t ht => ?_, fun _ _ _ => rfl⟩ fun l hl => ?_
  · simp [Retouch.attrs, ht]
  · simp [Retouch.attrs, tag_id_of_locate? hl]

lemma setAttr_eq (hd : f.Distinct) (id : Id) (name value : String) :
    f.setAttr id name value = f.retouch (.attrs fun i as => if i = id then as.set name (.text value) else as) :=
  changeTag_eq hd id (Attrs.set name (.text value))

lemma eraseAttr_eq (hd : f.Distinct) (id : Id) (name : String) :
    f.eraseAttr id name = f.retouch (.attrs fun i as => if i = id then as.erase name else as) :=
  changeTag_eq hd id (Attrs.erase name)

/-- A flag of one element is put up or down. -/
def putFlag (key : String) (f : Forest) (change : Id × Bool) : Forest :=
  if change.2 then f.setAttr change.1 key "" else f.eraseAttr change.1 key

/-- What is done to a flag of an element by some changes. -/
def upsOf (changes : List (Id × Bool)) (id : Id) : List Bool := (changes.filter (·.1 = id)).map (·.2)

lemma putFlag_eq (hd : f.Distinct) (key : String) (change : Id × Bool) :
    f.putFlag key change = f.retouch (.flagging key (upsOf [change])) := by
  have hattrs : ∀ h h' : Id → Attrs → Attrs, h = h' → f.retouch (.attrs h) = f.retouch (.attrs h') :=
    fun _ _ e => e ▸ rfl
  obtain ⟨id, up⟩ := change
  cases up with
  | false =>
    refine (eraseAttr_eq hd id key).trans (hattrs _ _ (funext fun i => funext fun as => ?_))
    by_cases hi : id = i
    · simp [upsOf, hi, Attrs.flags, Attrs.flag]
    · simp [upsOf, hi, Ne.symm hi, Attrs.flags]
  | true =>
    refine (setAttr_eq hd id key "").trans (hattrs _ _ (funext fun i => funext fun as => ?_))
    by_cases hi : id = i
    · simp [upsOf, hi, Attrs.flags, Attrs.flag]
    · simp [upsOf, hi, Ne.symm hi, Attrs.flags]

/-- **Flags of elements that are put up and down** one after another are one retouch. -/
lemma putFlags_eq (hd : f.Distinct) (key : String) (changes : List (Id × Bool)) :
    changes.foldl (putFlag key) f = f.retouch (.flagging key (upsOf changes)) := by
  induction changes generalizing f with
  | nil => exact (f.retouch_same).symm
  | cons change rest ih =>
    have hups : ∀ (id : Id) (as : Attrs), (as.flags key (upsOf [change] id)).flags key (upsOf rest id) =
        as.flags key (upsOf (change :: rest) id) := fun id as => by
      rw [Attrs.flags_append, upsOf, upsOf, ← List.map_append, ← List.filter_append]
      rfl
    rw [List.foldl_cons, putFlag_eq hd, ih (hd.retouch _)]
    refine (retouch_attrs_attrs f _ _).trans ?_
    simp only [hups]
    rfl

/-- To put them up and down again changes nothing. -/
lemma putFlags_twice (hd : f.Distinct) (key : String) (changes : List (Id × Bool)) :
    changes.foldl (putFlag key) (changes.foldl (putFlag key) f) = changes.foldl (putFlag key) f := by
  rw [putFlags_eq hd, putFlags_eq (hd.retouch _)]
  refine (retouch_attrs_attrs f _ _).trans ?_
  simp only [Attrs.flags_flags]
  rfl

end Forest

/-! ### Options -/

/-- What becomes of the options of a select when a value is chosen. -/
def choosing (value : String) (options : List Node) : List (Id × Bool) :=
  options.filterMap fun o => o.tag?.map fun tag => (tag.id, o.optionValue == value)

/-- The value of a select is set. -/
lemma setValue_select (hl : f.locate? id = some l) (hs : (l.tag.lowerName == "select") = true) (value : String) :
    f.setValue id value = (choosing value l.node.options).foldl (Forest.putFlag "selected") f := by
  have hselect : ∀ (options : List Node) (f : Forest), f.selectOptions value options =
      (choosing value options).foldl (Forest.putFlag "selected") f := by
    intro options
    unfold Forest.selectOptions choosing
    induction options with
    | nil => exact fun _ => rfl
    | cons o rest ih =>
      intro f
      rw [List.foldl_cons, ih, List.filterMap_cons]
      cases o.tag? with
      | none => rfl
      | some tag => rfl
  unfold Forest.setValue
  rw [hl]
  simp only [hs, if_true]
  exact hselect _ f

lemma discreet_flagging (h : key ∈ heldNames) (ups : Id → List Bool) : (Retouch.flagging key ups).Discreet where
  attrs t := Attrs.lasting_flags h t.attrs _
  texts _ _ _ _ _ := rfl
  blank _ _ _ := rfl

lemma attr?_flagging {n : String} (hn : n ≠ key) (ups : Id → List Bool) (t : Tag) :
    ((Retouch.flagging key ups).tag t).attr? n = t.attr? n :=
  congrArg (Option.map AttrValue.toText) (Attrs.lookup_flags hn t.attrs _)

/-- What an option stands for is not told by its flag. -/
lemma optionValue_node {g : Retouch} (hg : g.Discreet) {n : Node}
    (h : ∀ t, n.tag? = some t → (g.tag t).attr? "value" = t.attr? "value") :
    (g.node n).optionValue = n.optionValue := by
  unfold Node.optionValue Node.strippedText
  rw [g.tag?_node, hg.textContent_node]
  cases htag : n.tag? with
  | none => rfl
  | some t => rw [Option.map_some, Option.bind_some, Option.bind_some, h t htag]

lemma options_node (g : Retouch) (n : Node) : (g.node n).options = n.options.map g.node := by
  cases n with
  | element tag children =>
    unfold Node.options
    rw [g.descendants_node, List.filter_map]
    congr 1
    refine List.filter_congr fun o _ => ?_
    rw [Function.comp, g.tag?_node]
    cases o.tag? with
    | none => rfl
    | some t => exact congrArg (· == "option") (g.name t)
  | _ => rfl

/-- **To choose a value again** changes nothing. -/
theorem setValue_twice (hd : f.Distinct) (hl : f.locate? id = some l) (hs : (l.tag.lowerName == "select") = true)
    (value : String) : (f.setValue id value).setValue id value = f.setValue id value := by
  have hfirst := setValue_select hl hs value
  have htouched := Forest.putFlags_eq hd "selected" (choosing value l.node.options)
  set g := Retouch.flagging "selected" (Forest.upsOf (choosing value l.node.options)) with hg
  have hdiscreet : g.Discreet := discreet_flagging (by decide) _
  have hoptions : (choosing value (g.location l).node.options) = choosing value l.node.options := by
    unfold choosing
    rw [g.node_location, options_node, List.filterMap_map]
    refine List.filterMap_congr fun o _ => ?_
    rw [Function.comp, g.tag?_node, optionValue_node hdiscreet fun t _ => attr?_flagging (by decide) _ t]
    cases o.tag? with
    | none => rfl
    | some t => rfl
  have hfound : (f.setValue id value).locate? id = some (g.location l) := by
    rw [hfirst, htouched, Forest.locate?_retouch, hl]
    rfl
  rw [setValue_select hfound hs, hoptions, hfirst]
  exact Forest.putFlags_twice hd "selected" _

end PageTape.Dom
