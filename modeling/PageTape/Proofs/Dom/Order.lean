import Mathlib.Data.List.Dedup
import Mathlib.Data.List.Perm.Subperm
import Mathlib.Tactic.Tauto
import PageTape.Proofs.Dom.Location

/-!
# Elements in document order

* `kids` — the children of an element, in order.  What lies below the element is each of them followed by what lies
  below it (`descendants_eq`), and no element comes twice (`nodup_descendants`);
* `distinct` — elements without those that came before.  Of the elements below those of some kind, which may lie in one
  another, this leaves each once and in document order (`distinct_flatMap_descendants`).
-/

namespace PageTape.Dom.Location

variable {l m p c : Location} {f : Location → Bool} {ls ms : List Location} {seen : List Id}

/-! ### Children -/

/-- The locations of the elements among the children of an element, those in `before` already passed. -/
def kidsFrom (parent : Tag) (outer : Context) (before : List Node) : List Node → List Location
  | [] => []
  | n :: rest =>
    let others := kidsFrom parent outer (n :: before) rest
    match n with
    | .element tag children => ⟨tag, children, .inside parent before rest outer⟩ :: others
    | _ => others

/-- The children of an element, in order. -/
def kids (l : Location) : List Location := kidsFrom l.tag l.context [] l.children

lemma mem_kidsFrom {parent : Tag} {outer : Context} {before nodes : List Node} :
    c ∈ kidsFrom parent outer before nodes ↔
      ∃ xs ys, nodes = xs ++ c.node :: ys ∧ c.context = .inside parent (xs.reverse ++ before) ys outer := by
  induction nodes generalizing before with
  | nil => simp [kidsFrom]
  | cons n rest ih =>
    have hlater : c ∈ kidsFrom parent outer (n :: before) rest ↔ ∃ xs ys, n :: rest = n :: xs ++ c.node :: ys ∧
        c.context = .inside parent ((n :: xs).reverse ++ before) ys outer := by
      rw [ih]
      simp
    have hhere : c ∈ kidsFrom parent outer before (n :: rest) ↔
        (n = c.node ∧ c.context = .inside parent before rest outer) ∨ c ∈ kidsFrom parent outer (n :: before) rest := by
      cases n with
      | element tag children =>
        rw [kidsFrom, List.mem_cons]
        refine or_congr_left ⟨?_, fun ⟨hnode, hcontext⟩ => ?_⟩
        · rintro rfl
          exact ⟨rfl, rfl⟩
        · obtain ⟨rfl, rfl⟩ := Node.element.inj hnode
          rw [← hcontext]
      | _ => simp [kidsFrom, node]
    rw [hhere, hlater]
    constructor
    · rintro (⟨rfl, hcontext⟩ | ⟨xs, ys, hsplit, hcontext⟩)
      · exact ⟨[], rest, rfl, hcontext⟩
      · exact ⟨n :: xs, ys, hsplit, hcontext⟩
    · rintro ⟨xs, ys, hsplit, hcontext⟩
      cases xs with
      | nil =>
        obtain ⟨rfl, rfl⟩ := List.cons.inj hsplit
        exact .inl ⟨rfl, hcontext⟩
      | cons x xs =>
        obtain ⟨rfl, -⟩ := List.cons.inj hsplit
        exact .inr ⟨xs, ys, hsplit, hcontext⟩

lemma mem_kids : c ∈ l.kids ↔ c.parent? = some l := by
  rw [kids, mem_kidsFrom, parent?_eq_some]
  constructor
  · rintro ⟨xs, ys, hchildren, hcontext⟩
    exact ⟨xs.reverse, ys, by simpa using hcontext, by simpa using hchildren⟩
  · rintro ⟨before, after, hcontext, hchildren⟩
    exact ⟨before.reverse, after, hchildren, by simpa using hcontext⟩

lemma nodup_kids (l : Location) : l.kids.Nodup := by
  unfold kids
  generalize ([] : List Node) = before
  generalize l.children = nodes
  induction nodes generalizing before with
  | nil => exact List.nodup_nil
  | cons n rest ih =>
    cases n with
    | element tag children =>
      refine List.nodup_cons.2 ⟨fun hmem => ?_, ih _⟩
      -- those that come later have more before them
      obtain ⟨xs, ys, -, hcontext⟩ := mem_kidsFrom.1 hmem
      have hlength := congrArg List.length (Context.inside.inj hcontext).2.1
      simp at hlength
      omega
    | _ => exact ih _

lemma locationsList_eq (parent : Tag) (outer : Context) (before nodes : List Node) :
    locationsList parent outer before nodes =
      (kidsFrom parent outer before nodes).flatMap fun c => c :: c.descendants := by
  induction nodes generalizing before with
  | nil => rfl
  | cons n rest ih =>
    rw [locationsList, ih]
    cases n <;> rfl

/-- **What lies below an element**: its children, each followed by what lies below it. -/
lemma descendants_eq (l : Location) : l.descendants = l.kids.flatMap fun c => c :: c.descendants :=
  locationsList_eq l.tag l.context [] l.children

/-- Of the elements around an element, and itself, there is one at each depth. -/
lemma eq_of_mem_outward {a b : Location} (ha : a ∈ m.outward) (hb : b ∈ m.outward)
    (h : a.ancestors.length = b.ancestors.length) : a = b := by
  induction m using outside_in with
  | top m hm =>
    have houtward : m.outward = [m] := by rw [outward, ancestors_eq, hm]
    rw [houtward, List.mem_singleton] at ha hb
    rw [ha, hb]
  | child m p hp ih =>
    have hlt : ∀ x ∈ p.outward, x.ancestors.length < m.ancestors.length := fun x hx =>
      length_ancestors_lt (by rwa [ancestors_of_parent hp])
    rcases (mem_outward_of_parent hp).1 ha with ham | ha <;> rcases (mem_outward_of_parent hp).1 hb with hbm | hb
    · rw [ham, hbm]
    · exact absurd (ham ▸ h) (Nat.ne_of_gt (hlt b hb))
    · exact absurd (hbm ▸ h) (Nat.ne_of_lt (hlt a ha))
    · exact ih ha hb

/-- **No element comes twice** below another one. -/
theorem nodup_descendants (l : Location) : l.descendants.Nodup := by
  induction l using inside_out with
  | step l ih =>
    rw [descendants_eq, List.nodup_flatMap]
    refine ⟨fun c hc => List.nodup_cons.2 ⟨not_mem_descendants List.mem_cons_self, ih c (mem_kids.1 hc)⟩, ?_⟩
    refine (nodup_kids l).pairwise_of_forall_ne fun c hc c' hc' hne m hm hm' => hne ?_
    have hself : ∀ d, m ∈ d :: d.descendants → d ∈ m.outward := fun d hd => by
      rcases List.mem_cons.1 hd with rfl | hd
      · exact List.mem_cons_self
      · exact List.mem_cons_of_mem _ (mem_descendants_iff.1 hd)
    refine eq_of_mem_outward (hself c hm) (hself c' hm') ?_
    rw [ancestors_of_parent (mem_kids.1 hc), ancestors_of_parent (mem_kids.1 hc')]

/-- What lies below an element comes in the same order below those around it. -/
lemma descendants_sublist (h : m ∈ l.descendants) : m.descendants.Sublist l.descendants := by
  induction l using inside_out with
  | step l ih =>
    obtain ⟨c, hc, hm⟩ := mem_descendants.1 h
    have hcl : c.descendants.Sublist l.descendants := by
      obtain ⟨xs, ys, hkids⟩ := List.append_of_mem (mem_kids.2 hc)
      rw [descendants_eq l, hkids, List.flatMap_append, List.flatMap_cons]
      exact ((List.sublist_cons_self c _).trans (List.sublist_append_left _ _)).trans (List.sublist_append_right _ _)
    rcases hm with rfl | hm
    · exact hcl
    · exact (ih c hc hm).trans hcl

/-! ### Locations without repetition -/

/-- Elements are known by their identities. -/
def Known (ls : List Location) : Prop := ∀ l ∈ ls, ∀ m ∈ ls, m.tag.id = l.tag.id → m = l

lemma Known.mono {ms : List Location} (h : Known ms) (hsub : ls ⊆ ms) : Known ls := fun l hl m hm =>
  h l (hsub hl) m (hsub hm)

lemma distinct_cons (seen : List Id) (l : Location) (rest : List Location) : distinct seen (l :: rest) =
    if l.tag.id ∈ seen then distinct seen rest else l :: distinct (l.tag.id :: seen) rest := by
  show (if seen.contains l.tag.id then distinct seen rest else l :: distinct (l.tag.id :: seen) rest) = _
  simp only [List.contains_iff_mem]

/-- What has been seen matters only as far as it comes. -/
lemma distinct_congr {seen' : List Id} (h : ∀ l ∈ ls, l.tag.id ∈ seen ↔ l.tag.id ∈ seen') :
    distinct seen ls = distinct seen' ls := by
  induction ls generalizing seen seen' with
  | nil => rfl
  | cons l rest ih =>
    obtain ⟨hl, hrest⟩ := List.forall_mem_cons.1 h
    have hmore : distinct (l.tag.id :: seen) rest = distinct (l.tag.id :: seen') rest := ih fun m hm => by
      simp [hrest m hm]
    simp only [distinct_cons, ih hrest, hmore, hl]

/-- **To leave out what is repeated and to choose can be done in either order.** -/
theorem filter_distinct (h : Known ls) : (distinct seen ls).filter f = distinct seen (ls.filter f) := by
  induction ls generalizing seen with
  | nil => rfl
  | cons l rest ih =>
    have ih := fun seen => @ih seen (h.mono (List.subset_cons_self l rest))
    rw [distinct_cons]
    by_cases hseen : l.tag.id ∈ seen
    · rw [if_pos hseen, ih, List.filter_cons]
      split
      · rw [distinct_cons, if_pos hseen]
      · rfl
    rw [if_neg hseen, List.filter_cons, List.filter_cons, ih]
    split
    · rw [distinct_cons, if_neg hseen]
    · -- an element that is not chosen is not chosen when it comes again
      rename_i hf
      refine distinct_congr fun m hm => ?_
      obtain ⟨hmem, hm⟩ := List.mem_filter.1 hm
      have hne : m.tag.id ≠ l.tag.id := fun heq => hf (h l List.mem_cons_self m (List.mem_cons_of_mem _ hmem) heq ▸ hm)
      simp [hne]

lemma mem_map_distinct {id : Id} : id ∈ (distinct seen ls).map (·.tag.id) ↔ id ∈ ls.map (·.tag.id) ∧ id ∉ seen := by
  induction ls generalizing seen with
  | nil => exact ⟨fun hid => absurd hid List.not_mem_nil, fun hid => absurd hid.1 List.not_mem_nil⟩
  | cons l rest ih =>
    rw [distinct_cons]
    split <;> rename_i hseen
    · rw [ih, List.map_cons, List.mem_cons]
      exact ⟨fun ⟨hid, hnot⟩ => ⟨.inr hid, hnot⟩, fun ⟨hid, hnot⟩ => ⟨hid.resolve_left (hnot <| · ▸ hseen), hnot⟩⟩
    · rw [List.map_cons, List.mem_cons, ih, List.map_cons, List.mem_cons]
      by_cases heq : id = l.tag.id
      · simpa [heq] using hseen
      · simp [heq]

lemma nodup_distinct : ((distinct seen ls).map (·.tag.id)).Nodup := by
  induction ls generalizing seen with
  | nil => exact List.nodup_nil
  | cons l rest ih =>
    rw [distinct_cons]
    split
    · exact ih
    · exact List.nodup_cons.2 ⟨fun hmem => (mem_map_distinct.1 hmem).2 List.mem_cons_self, ih⟩

/-- Each element is counted once. -/
lemma length_distinct (ls : List Location) : (distinct [] ls).length = (ls.map (·.tag.id)).dedup.length := by
  have hperm : ((distinct [] ls).map (·.tag.id)).Perm (ls.map (·.tag.id)).dedup := by
    refine (List.perm_ext_iff_of_nodup nodup_distinct (List.nodup_dedup _)).2 fun id => ?_
    simp [mem_map_distinct]
  rw [← hperm.length_eq, List.length_map]

lemma head?_distinct (ls : List Location) : (distinct [] ls).head? = ls.head? := by
  cases ls <;> rfl

lemma distinct_sublist (seen : List Id) (ls : List Location) : (distinct seen ls).Sublist ls := by
  induction ls generalizing seen with
  | nil => exact List.Sublist.refl _
  | cons l rest ih =>
    rw [distinct_cons]
    split
    · exact (ih seen).trans (List.sublist_cons_self l rest)
    · exact (ih _).cons_cons l

lemma distinct_append (seen : List Id) (ls ms : List Location) :
    distinct seen (ls ++ ms) = distinct seen ls ++ distinct (ls.map (·.tag.id) ++ seen) ms := by
  induction ls generalizing seen with
  | nil => rfl
  | cons l rest ih =>
    rw [List.cons_append, distinct_cons, distinct_cons, ih, ih]
    by_cases hseen : l.tag.id ∈ seen
    · rw [if_pos hseen, if_pos hseen]
      refine congrArg _ (distinct_congr fun m _ => ?_)
      simp only [List.map_cons, List.mem_append, List.mem_cons]
      refine ⟨fun h => h.elim (.inl ∘ .inr) .inr, ?_⟩
      rintro ((heq | h) | h)
      · exact .inr (heq ▸ hseen)
      · exact .inl h
      · exact .inr h
    · rw [if_neg hseen, if_neg hseen, List.cons_append]
      refine congrArg (l :: _ ++ ·) (distinct_congr fun m _ => ?_)
      simp only [List.map_cons, List.cons_append, List.mem_append, List.mem_cons]
      tauto

/-- What has all been seen is left out. -/
lemma distinct_eq_nil (h : ∀ l ∈ ls, l.tag.id ∈ seen) : distinct seen ls = [] := by
  induction ls with
  | nil => rfl
  | cons l rest ih =>
    obtain ⟨hl, hrest⟩ := List.forall_mem_cons.1 h
    rw [distinct_cons, if_pos hl, ih hrest]

lemma mem_distinct (h : Known ls) : m ∈ distinct [] ls ↔ m ∈ ls := by
  refine ⟨fun hm => (distinct_sublist [] ls).subset hm, fun hm => ?_⟩
  have hid : m.tag.id ∈ (distinct [] ls).map (·.tag.id) := mem_map_distinct.2 ⟨List.mem_map_of_mem hm, List.not_mem_nil⟩
  obtain ⟨x, hx, heq⟩ := List.mem_map.1 hid
  rwa [h m hm x ((distinct_sublist [] ls).subset hx) heq] at hx

/-- Some elements of a list, in the order of the list, are chosen from it by what they have. -/
lemma eq_filter_of_sublist {α : Type} {as bs : List α} {f : α → Bool} (h : as.Sublist bs) (hd : bs.Nodup)
    (hmem : ∀ b ∈ bs, b ∈ as ↔ f b = true) : as = bs.filter f := by
  have hfilter : as.Sublist (bs.filter f) := by
    have hself : as.filter f = as := List.filter_eq_self.2 fun a ha => (hmem a (h.subset ha)).1 ha
    exact hself ▸ h.filter f
  refine hfilter.eq_of_length_le ((hd.filter f).subperm fun b hb => ?_).length_le
  obtain ⟨hb, hfb⟩ := List.mem_filter.1 hb
  exact (hmem b hb).2 hfb

lemma distinct_eq_self (h : Known ls) (hd : ls.Nodup) : distinct [] ls = ls := by
  rw [eq_filter_of_sublist (f := fun _ => true) (distinct_sublist [] ls) hd fun m hm => by simp [mem_distinct h, hm],
    List.filter_true]

/-! ### What lies below some of the elements -/

mutual
lemma distinct_locations_sublist (f : Location → Bool) (context : Context) (n : Node) (seen : List Id) :
    (distinct seen (((locations context n).filter f).flatMap descendants)).Sublist (locations context n) := by
  cases n with
  | element tag children =>
    have hrest := distinct_locationsList_sublist f tag context [] children
    rw [locations, List.filter_cons]
    split
    · -- what is below this element has all been seen when what is in it comes
      have hseen : distinct ((descendants ⟨tag, children, context⟩).map (·.tag.id) ++ seen)
          (((locationsList tag context [] children).filter f).flatMap descendants) = [] := by
        refine distinct_eq_nil fun m hm => ?_
        obtain ⟨a, ha, hm⟩ := List.mem_flatMap.1 hm
        have hbelow : m ∈ descendants ⟨tag, children, context⟩ := descendants_trans hm (List.mem_filter.1 ha).1
        exact List.mem_append_left _ (List.mem_map_of_mem hbelow)
      rw [List.flatMap_cons, distinct_append, hseen, List.append_nil]
      exact (distinct_sublist seen _).trans (List.sublist_cons_self _ _)
    · exact (hrest seen).trans (List.sublist_cons_self _ _)
  | _ => exact List.Sublist.refl _

lemma distinct_locationsList_sublist (f : Location → Bool) (parent : Tag) (outer : Context) (before nodes : List Node)
    (seen : List Id) :
    (distinct seen (((locationsList parent outer before nodes).filter f).flatMap descendants)).Sublist
      (locationsList parent outer before nodes) := by
  cases nodes with
  | nil => exact List.Sublist.refl _
  | cons n rest =>
    rw [locationsList, List.filter_append, List.flatMap_append, distinct_append]
    exact (distinct_locations_sublist f _ n _).append
      (distinct_locationsList_sublist f parent outer (n :: before) rest _)
end

/-- **What lies below some of the elements**, each of them once, is what lies below one of them, in document order. -/
theorem distinct_flatMap_descendants {g : Location → Bool} (h : Known l.descendants)
    (hg : ∀ m ∈ l.descendants, g m = true ↔ ∃ a ∈ l.descendants, f a = true ∧ m ∈ a.descendants) :
    distinct [] ((l.descendants.filter f).flatMap descendants) = l.descendants.filter g := by
  have hmem : ∀ m, m ∈ (l.descendants.filter f).flatMap descendants ↔
      ∃ a ∈ l.descendants, f a = true ∧ m ∈ a.descendants := fun m => by simp [List.mem_flatMap, and_assoc]
  have hsub : (l.descendants.filter f).flatMap descendants ⊆ l.descendants := fun m hm => by
    obtain ⟨a, ha, -, hm⟩ := (hmem m).1 hm
    exact descendants_trans hm ha
  refine eq_filter_of_sublist (distinct_locationsList_sublist f l.tag l.context [] l.children []) (nodup_descendants l)
    fun m hm => ?_
  rw [hg m hm, ← hmem]
  exact mem_distinct (h.mono hsub)

end PageTape.Dom.Location
