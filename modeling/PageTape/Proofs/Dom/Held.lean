import PageTape.Proofs.Dom.Entry

/-!
# A control is given the value that it has

A browser that reports an event of a control tells the value of it, which may not be new.  If it is written back, the
elements stay what they are but for the attributes that keep what a user has entered (`setValue_held`), as long as the
control is `Plain`: it is an input, a field that holds nothing but text, or a select that stands apart from all others.
-/

namespace PageTape.Dom

open Css (isIgnorable isSpace)

variable {f : Forest} {id : Id} {l m : Location} {value : String} {ns : List Node}

/-! ### Plain text -/

/-- The node is plain text, or a comment. -/
def isWords : Node → Bool
  | .text .plain _ => true
  | .comment _ => true
  | _ => false

/-- The text of some nodes. -/
def wordsOf (ns : List Node) : String := String.join (Node.textsList (fun _ => true) true ns)

lemma wordsOf_cons (n : Node) (rest : List Node) :
    wordsOf (n :: rest) = String.join (Node.texts (fun _ => true) true n) ++ wordsOf rest := by
  rw [wordsOf, Node.textsList, String.join_append]
  rfl

lemma isLeaf_of_words (h : ns.all isWords = true) : isLeaf ns = true := by
  rw [isLeaf, List.all_eq_true] at *
  intro n hn
  have := h n hn
  cases n with
  | element => cases this
  | _ => rfl

/-- The texts of a kind among plain texts. -/
lemma join_words (h : ns.all isWords = true) (takes : TextKind → Bool) (cdata : Bool) :
    String.join (Node.textsList takes cdata ns) = if takes .plain then wordsOf ns else "" := by
  induction ns with
  | nil => simp [Node.textsList, wordsOf, String.join]
  | cons n rest ih =>
    obtain ⟨hn, hrest⟩ := Bool.and_eq_true_iff.1 ((List.all_cons ..).symm.trans h)
    rw [Node.textsList, String.join_append, ih hrest, wordsOf_cons]
    cases n with
    | text kind s =>
      cases kind with
      | plain => cases htakes : takes .plain <;> simp [Node.texts, htakes]
      | _ => cases hn
    | comment s => simp [Node.texts]
    | _ => cases hn

/-- Plain texts are blank if their text is. -/
lemma blank_words (h : ns.all isWords = true) : ns.all isIgnorable = (wordsOf ns).toList.all isSpace := by
  induction ns with
  | nil => rfl
  | cons n rest ih =>
    obtain ⟨hn, hrest⟩ := Bool.and_eq_true_iff.1 ((List.all_cons ..).symm.trans h)
    rw [List.all_cons, ih hrest, wordsOf_cons, String.toList_append, List.all_append]
    cases n with
    | text kind s =>
      cases kind with
      | plain => simp [Node.texts, isIgnorable]
      | _ => cases hn
    | comment s => simp [Node.texts, isIgnorable]
    | _ => cases hn

namespace Retouch

/-- The plain texts of an element become one, if they have that text already. -/
def gathering (id : Id) (value : String) : Retouch :=
  { attrs fun _ as => as with
    text := fun t ns => if t.id = id ∧ ns.all isWords = true ∧ wordsOf ns = value then [.text .plain value] else ns
    leaf := fun t ns h => by
      split
      · rfl
      · exact h }

lemma discreet_gathering (id : Id) (value : String) : (gathering id value).Discreet where
  attrs _ := rfl
  texts t ns takes cdata _ := by
    unfold gathering
    dsimp only
    split
    · rename_i h
      rw [join_words h.2.1, h.2.2, join_words rfl]
      simp [wordsOf, Node.textsList, Node.texts]
    · rfl
  blank t ns _ := by
    unfold gathering
    dsimp only
    split
    · rename_i h
      rw [blank_words h.2.1, h.2.2, blank_words rfl]
      simp [wordsOf, Node.textsList, Node.texts]
    · rfl

end Retouch

/-! ### Values -/

/-- What is chosen among some options, each told by whether it is selected and what it stands for. -/
def chosenOf (options : List (Bool × String)) : String :=
  match options.find? (·.1) with
  | some o => o.2
  | none => (options.head?.map (·.2)).getD ""

/-- What an option tells of a choice. -/
def shownBy (o : Node) : Bool × String := (o.isSelected, o.optionValue)

lemma value_select (hs : l.tag.lowerName = "select") : l.value = chosenOf (l.node.options.map shownBy) := by
  have hfind : ∀ options : List Node, (options.map shownBy).find? (·.1) = (options.find? Node.isSelected).map shownBy :=
    fun options => by rw [List.find?_map]; rfl
  unfold Location.value chosenOf
  rw [hfind, List.head?_map, hs]
  simp only [beq_self_eq_true, if_true]
  cases l.node.options.find? Node.isSelected with
  | some o => rfl
  | none => cases l.node.options.head? <;> rfl

lemma value_other (hs : l.tag.lowerName ≠ "select") : l.value =
    if l.tag.lowerName == "textarea" || l.tag.isEditable then l.textContent else (l.tag.attr? "value").getD "" := by
  unfold Location.value
  rw [beq_eq_false_iff_ne.2 hs]
  rfl

/-- What is chosen is one of the options, if there is one. -/
lemma chosenOf_mem {options : List (Bool × String)} (h : options ≠ []) : chosenOf options ∈ options.map (·.2) := by
  unfold chosenOf
  split
  · exact List.mem_map_of_mem (List.mem_of_find?_eq_some ‹_›)
  · cases options with
    | nil => exact absurd rfl h
    | cons o rest => exact List.mem_cons_self

/-- If just those options are selected that stand for a value, that value is chosen; if none does, the first option is. -/
lemma chosenOf_told (value : String) (values : List String) : chosenOf (values.map fun v => (v == value, v)) =
    if value ∈ values then value else values.head?.getD "" := by
  have hfind : (values.map fun v => (v == value, v)).find? (·.1) =
      (values.find? (· == value)).map fun v => (v == value, v) := by rw [List.find?_map]; rfl
  unfold chosenOf
  rw [hfind]
  cases hfound : values.find? (· == value) with
  | some v =>
    obtain rfl : v = value := by simpa using List.find?_some hfound
    rw [if_pos (List.mem_of_find?_eq_some hfound)]
    rfl
  | none =>
    have hnot : value ∉ values := fun h => by simpa using List.find?_eq_none.1 hfound value h
    rw [if_neg hnot, Option.map_none, List.head?_map, Option.map_map]
    cases values <;> rfl

lemma map_node_descendants (l : Location) : l.descendants.map (·.node) = l.node.descendants :=
  Forest.map_node_locationsList l.tag l.context [] l.children

lemma mem_options {o : Node} : o ∈ l.node.options ↔ ∃ d ∈ l.descendants, d.node = o ∧ d.tag.name = "option" := by
  unfold Node.options
  rw [← map_node_descendants, List.mem_filter, List.mem_map]
  constructor
  · rintro ⟨⟨d, hd, rfl⟩, hname⟩
    exact ⟨d, hd, rfl, by simpa [Location.node, Node.tag?] using hname⟩
  · rintro ⟨d, hd, rfl, hname⟩
    exact ⟨⟨d, hd, rfl⟩, by simpa [Location.node, Node.tag?] using hname⟩

/-! ### What is written back -/

/-- **A control of which the value may be written back.** -/
inductive Plain (l : Location) : Prop
  /-- an input -/
  | input (h : l.tag.lowerName = "input") (he : l.tag.isEditable = false)
  /-- a field that holds nothing but text, which it reads -/
  | text (hs : l.tag.lowerName ≠ "select") (h : (l.tag.lowerName == "textarea" || l.tag.isEditable) = true)
      (hwords : l.children.all isWords = true) (hk : TextKind.ofName l.tag.name = .plain)
  /-- a select that is in no other one, nor holds one -/
  | choice (hs : l.tag.lowerName = "select") (hin : ∀ m ∈ l.ancestors, m.tag.lowerName ≠ "select")
      (hout : ∀ m ∈ l.descendants, m.tag.lowerName ≠ "select")

namespace Retouch

variable {g : Retouch}

/-- An element has the value that it had if its tag and its options tell the same. -/
lemma Discreet.value_location (hg : g.Discreet) (htag : (g.tag m.tag).attr? "value" = m.tag.attr? "value")
    (hoptions : m.tag.lowerName = "select" → ∀ d ∈ m.descendants, d.tag.name = "option" →
      (g.tag d.tag).attr? "value" = d.tag.attr? "value" ∧ (g.tag d.tag).has "selected" = d.tag.has "selected") :
    (g.location m).value = m.value := by
  have hname : (g.location m).tag.lowerName = m.tag.lowerName := Discreet.lowerName g m.tag
  by_cases hs : m.tag.lowerName = "select"
  · rw [value_select hs, value_select (hname.trans hs), g.node_location, options_node, List.map_map]
    congr 1
    refine List.map_congr_left fun o ho => ?_
    obtain ⟨d, hd, rfl, hoption⟩ := mem_options.1 ho
    obtain ⟨hvalue, hselected⟩ := hoptions hs d hd hoption
    have hsame : (g.node d.node).optionValue = d.node.optionValue := optionValue_node hg fun t ht => by
      obtain rfl : d.tag = t := Option.some.inj ht
      exact hvalue
    have hshown : (g.node d.node).isSelected = d.node.isSelected := by
      unfold Node.isSelected
      rw [g.tag?_node]
      exact hselected
    rw [Function.comp, shownBy, shownBy, hsame, hshown]
  · rw [value_other hs, value_other (by rwa [hname]), hname, g.tag_location, hg.isEditable, hg.textContent_location,
      htag]

end Retouch

open Retouch

/-- The value of an input is written back. -/
lemma setValue_input (hd : f.Distinct) (hl : f.locate? id = some l) (h : l.tag.lowerName = "input")
    (he : l.tag.isEditable = false) : ∃ g : Retouch, g.Discreet ∧ g.Steady f ∧ f.setValue id l.value = f.retouch g := by
  have hmem := Forest.mem_locations_of_locate? hl
  have hlid := Forest.tag_id_of_locate? hl
  have hset : f.setValue id l.value = f.setAttr id "value" l.value := by
    unfold Forest.setValue
    rw [hl]
    simp [h, he]
  let g : Retouch := .attrs fun i as => if i = id then as.set "value" (.text l.value) else as
  have hother : ∀ t : Tag, t.id ≠ id → g.tag t = t := fun t ht => by simp [g, attrs, ht]
  have hg : g.Discreet := {
    attrs t := by
      show (if t.id = id then t.attrs.set "value" (.text l.value) else t.attrs).lasting = _
      split
      · exact Attrs.lasting_set (by decide) _ _
      · rfl
    texts _ _ _ _ _ := rfl
    blank _ _ _ := rfl }
  refine ⟨g, hg, fun m hm => ?_, hset.trans (Forest.setAttr_eq hd id "value" l.value)⟩
  by_cases hid : m.tag.id = id
  · obtain rfl : m = l := hd.eq hmem hm (hid.trans hlid.symm)
    have hvalue : (g.tag m.tag).attr? "value" = some m.value := by
      have htag : g.tag m.tag = m.tag.set "value" (.text m.value) := by simp [g, attrs, hid, Tag.set]
      rw [htag, Tag.attr?_set, if_pos rfl]
      rfl
    have hname : (g.location m).tag.lowerName = "input" := h
    rw [value_other (by rw [hname]; decide), hname, g.tag_location, hg.isEditable, he, hvalue]
    rfl
  · refine hg.value_location (by rw [hother _ hid]) fun _ d hd' hoption => ?_
    have hdid : d.tag.id ≠ id := fun hdid => by
      obtain rfl : d = l := hd.eq hmem (Forest.mem_locations_descendants hm hd') (hdid.trans hlid.symm)
      rw [Tag.lowerName, hoption] at h
      exact absurd h (by decide +kernel)
    rw [hother _ hdid]
    exact ⟨rfl, rfl⟩

/-- The text of a field is written back. -/
lemma setValue_text (hd : f.Distinct) (hl : f.locate? id = some l) (hs : l.tag.lowerName ≠ "select")
    (h : (l.tag.lowerName == "textarea" || l.tag.isEditable) = true) (hwords : l.children.all isWords = true)
    (hk : TextKind.ofName l.tag.name = .plain) :
    ∃ g : Retouch, g.Discreet ∧ g.Steady f ∧ f.setValue id l.value = f.retouch g := by
  have hlid := Forest.tag_id_of_locate? hl
  have hvalue : wordsOf l.children = l.value := by
    rw [value_other hs, if_pos h]
    show _ = Node.textContent (.element l.tag l.children)
    rw [Node.textContent, hk, join_words hwords]
    rfl
  have hloose : l.children.filter (fun n => n.tag?.isSome) = [] := by
    rw [List.filter_eq_nil_iff]
    intro n hn
    have := List.all_eq_true.1 (isLeaf_of_words hwords) n hn
    simpa using this
  have hset : f.setValue id l.value = f.rewrite id fun tag _ => [.element tag [.text .plain l.value]] := by
    unfold Forest.setValue
    rw [hl]
    simp only [beq_eq_false_iff_ne.2 hs, h, Bool.false_eq_true, if_false, if_true]
    unfold Forest.setText Forest.replaceChildren
    rw [hl]
    simp only [hloose, List.append_nil]
  refine ⟨gathering id l.value, discreet_gathering id l.value, fun m _ =>
    (discreet_gathering id l.value).value_location rfl fun _ _ _ _ => ⟨rfl, rfl⟩, hset.trans ?_⟩
  refine Forest.rewrite_eq_retouch hd ⟨fun _ _ => rfl, fun t ns ht => if_neg fun hall => ht hall.1⟩ fun k hk => ?_
  obtain rfl : l = k := Option.some.inj (hl.symm.trans hk)
  have htext : (gathering id l.value).text l.tag l.children = [.text .plain l.value] := if_pos ⟨hlid, hwords, hvalue⟩
  rw [isLeaf_of_words hwords, if_pos rfl, htext]
  rfl

/-! ### A select -/

/-- A flag is as it was put last. -/
lemma has_flags_getLast? (key : String) (t : Tag) (ups : List Bool) :
    ({ t with attrs := t.attrs.flags key ups } : Tag).has key = ups.getLast?.getD (t.has key) := by
  rcases List.eq_nil_or_concat ups with rfl | ⟨init, last, rfl⟩
  · rfl
  · rw [List.concat_eq_append, List.getLast?_append, List.getLast?_singleton]
    show (List.lookup key (t.attrs.flags key (init ++ [last]))).isSome = last
    rw [← Attrs.flags_append]
    generalize t.attrs.flags key init = attrs
    cases last with
    | true =>
      show (List.lookup key (attrs.set key (.text ""))).isSome = true
      rw [Attrs.lookup_set, if_pos rfl]
      rfl
    | false =>
      show (List.lookup key (attrs.erase key)).isSome = false
      rw [Option.isSome_eq_false_iff, Option.isNone_iff_eq_none, List.lookup_eq_none_iff]
      intro a ha
      exact bne_iff_ne.2 fun heq => of_decide_eq_true (List.mem_filter.1 ha).2 heq.symm

/-- A flag that was put one way only. -/
lemma has_flags (key : String) (t : Tag) {ups : List Bool} {up : Bool} (hne : ups ≠ []) (hall : ∀ u ∈ ups, u = up) :
    ({ t with attrs := t.attrs.flags key ups } : Tag).has key = up := by
  rw [has_flags_getLast?, List.getLast?_eq_some_getLast hne, Option.getD_some]
  exact hall _ (List.getLast_mem hne)

lemma mem_choosing {options : List Node} {c : Id × Bool} : c ∈ choosing value options ↔
    ∃ o ∈ options, ∃ t, o.tag? = some t ∧ c = (t.id, o.optionValue == value) := by
  simp only [choosing, List.mem_filterMap, Option.map_eq_some_iff, @eq_comm _ c]

/-- The flags that are put when a value is chosen are those of the options below the select, each of them one way. -/
lemma upsOf_choosing (hd : f.Distinct) (hl : l ∈ f.locations) (hm : m ∈ f.locations) {up : Bool}
    (hup : up ∈ Forest.upsOf (choosing value l.node.options) m.tag.id) :
    m ∈ l.descendants ∧ up = (m.node.optionValue == value) := by
  obtain ⟨c, hc, rfl⟩ := List.mem_map.1 hup
  obtain ⟨hc, hid⟩ := List.mem_filter.1 hc
  obtain ⟨o, ho, t, ht, rfl⟩ := mem_choosing.1 hc
  obtain ⟨e, he, rfl, -⟩ := mem_options.1 ho
  obtain rfl : e.tag = t := Option.some.inj ht
  obtain rfl : e = m := hd.eq hm (Forest.mem_locations_descendants hl he) (by simpa using hid)
  exact ⟨he, rfl⟩

/-- **The options once a value is chosen**: those are selected that stand for it. -/
lemma shownBy_choosing (hd : f.Distinct) (hl : l ∈ f.locations) (value : String) :
    (Retouch.location (flagging "selected" (Forest.upsOf (choosing value l.node.options))) l).node.options.map shownBy =
      (l.node.options.map (·.optionValue)).map fun v => (v == value, v) := by
  set ups := Forest.upsOf (choosing value l.node.options) with hups
  have hg : (flagging "selected" ups).Discreet := discreet_flagging (by decide) ups
  rw [Retouch.node_location, options_node, List.map_map, List.map_map]
  refine List.map_congr_left fun o ho => ?_
  obtain ⟨d, hd', rfl, hoption⟩ := mem_options.1 ho
  have hvalue : ((flagging "selected" ups).node d.node).optionValue = d.node.optionValue :=
    optionValue_node hg fun t _ => attr?_flagging (by decide) ups t
  have hne : ups d.tag.id ≠ [] := by
    have hc : (d.tag.id, d.node.optionValue == value) ∈ choosing value l.node.options :=
      mem_choosing.2 ⟨d.node, ho, d.tag, rfl, rfl⟩
    exact List.ne_nil_of_mem (List.mem_map_of_mem (List.mem_filter.2 ⟨hc, by simp⟩))
  have hselected : ((flagging "selected" ups).node d.node).isSelected = (d.node.optionValue == value) := by
    unfold Node.isSelected
    rw [Retouch.tag?_node]
    exact has_flags "selected" d.tag hne fun up hup =>
      (upsOf_choosing hd hl (Forest.mem_locations_descendants hl hd') hup).2
  rw [Function.comp, Function.comp, shownBy, hvalue, hselected]

/-- What the options of a select stand for. -/
def Location.offers (l : Location) : List String := l.node.options.map (·.optionValue)

/-- **A select of which the value is set** has that value if one of its options stands for it, else that of the first. -/
theorem locate?_choose (hd : f.Distinct) (hl : f.locate? id = some l) (hs : l.tag.lowerName = "select")
    (value : String) : ∃ m, (f.setValue id value).locate? id = some m ∧ m.tag.lowerName = "select" ∧
      m.value = if value ∈ l.offers then value else l.offers.head?.getD "" := by
  set g := flagging "selected" (Forest.upsOf (choosing value l.node.options)) with hg
  have hset : f.setValue id value = f.retouch g :=
    (setValue_select hl (beq_iff_eq.2 hs) value).trans (Forest.putFlags_eq hd "selected" _)
  have hname : (g.location l).tag.lowerName = "select" := hs
  refine ⟨g.location l, by rw [hset, Forest.locate?_retouch, hl]; rfl, hname, ?_⟩
  rw [value_select hname, shownBy_choosing hd (Forest.mem_locations_of_locate? hl), chosenOf_told]
  rfl

/-- The value of a select is written back. -/
lemma setValue_choice (hd : f.Distinct) (hl : f.locate? id = some l) (hs : l.tag.lowerName = "select")
    (hin : ∀ m ∈ l.ancestors, m.tag.lowerName ≠ "select") (hout : ∀ m ∈ l.descendants, m.tag.lowerName ≠ "select") :
    ∃ g : Retouch, g.Discreet ∧ g.Steady f ∧ f.setValue id l.value = f.retouch g := by
  have hmem := Forest.mem_locations_of_locate? hl
  have hset := (setValue_select hl (beq_iff_eq.2 hs) l.value).trans
    (Forest.putFlags_eq hd "selected" (choosing l.value l.node.options))
  set ups := Forest.upsOf (choosing l.value l.node.options) with hups
  have hg : (flagging "selected" ups).Discreet := discreet_flagging (by decide) ups
  refine ⟨_, hg, fun m hm => ?_, hset⟩
  by_cases hml : m = l
  · subst hml
    have hname : (Retouch.location (flagging "selected" ups) m).tag.lowerName = "select" := hs
    rw [value_select hname, hups, shownBy_choosing hd hmem, chosenOf_told]
    by_cases hnil : m.node.options = []
    · rw [value_select hs, hnil]
      rfl
    · refine if_pos ?_
      rw [value_select hs]
      have hchosen : chosenOf (m.node.options.map shownBy) ∈ (m.node.options.map shownBy).map (·.2) :=
        chosenOf_mem (by simpa using hnil)
      rwa [List.map_map] at hchosen
  · refine hg.value_location (attr?_flagging (by decide) ups m.tag) fun hms d hd' _ =>
      ⟨attr?_flagging (by decide) ups d.tag, ?_⟩
    have hnone : ups d.tag.id = [] := by
      refine List.eq_nil_iff_forall_not_mem.2 fun up hup => ?_
      have hdl := (upsOf_choosing hd hmem (Forest.mem_locations_descendants hm hd') hup).1
      rcases Location.mem_ancestors_cases hdl (Location.mem_descendants_iff.1 hd') with hbelow | heq | habove
      · exact hout m hbelow hms
      · exact hml heq
      · exact hin m habove hms
    have htag : (flagging "selected" ups).tag d.tag = d.tag := by
      show ({ d.tag with attrs := d.tag.attrs.flags "selected" (ups d.tag.id) } : Tag) = d.tag
      rw [hnone]
      rfl
    rw [htag]

/-- **The value that a control has is written back**: the elements stay what they are, and have the values they had. -/
theorem setValue_held (hd : f.Distinct) (hl : f.locate? id = some l) (h : Plain l) :
    ∃ g : Retouch, g.Discreet ∧ g.Steady f ∧ f.setValue id l.value = f.retouch g := by
  cases h with
  | input h he => exact setValue_input hd hl h he
  | text hs h hwords hk => exact setValue_text hd hl hs h hwords hk
  | choice hs hin hout => exact setValue_choice hd hl hs hin hout

end PageTape.Dom
