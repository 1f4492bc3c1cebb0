import Mathlib.Data.List.Basic
import PageTape.Dom.Forest

/-!
# Parents and children

A location is a child of another one if that one is its parent (`parent?_eq_some`).  What lies below an element are its
children and what lies below them (`mem_descendants`), so those are just the elements that it lies around
(`mem_descendants_iff`).  Among the children of one parent an element is known by its name and by the number of the
siblings of that name before it (`eq_of_sameBefore`), or by its name alone if it has no such sibling (`eq_of_alone`).
-/

namespace PageTape.Dom

variable {l m p x : Location}

namespace Location

/-! ### Around an element -/

/-- A child, with the siblings on both sides of it. -/
lemma parent?_eq_some : m.parent? = some p ↔ ∃ before after, m.context = .inside p.tag before after p.context ∧
    p.children = before.reverse ++ m.node :: after := by
  obtain ⟨tag, children, context⟩ := m
  obtain ⟨ptag, pchildren, pcontext⟩ := p
  cases context with
  | top => simp [parent?, ancestors, Context.ancestors]
  | inside parent before after outer =>
    simp only [parent?, ancestors, Context.ancestors, List.head?_cons, Option.some.injEq, Location.mk.injEq,
      Context.inside.injEq]
    constructor
    · rintro ⟨rfl, rfl, rfl⟩
      exact ⟨before, after, ⟨rfl, rfl, rfl, rfl⟩, rfl⟩
    · rintro ⟨before', after', ⟨rfl, rfl, rfl, rfl⟩, rfl⟩
      exact ⟨rfl, rfl, rfl⟩

lemma ancestors_eq (l : Location) : l.ancestors = match l.parent? with
    | some p => p :: p.ancestors
    | none => [] := by
  obtain ⟨tag, children, context⟩ := l
  cases context <;> rfl

lemma ancestors_of_parent (h : m.parent? = some p) : m.ancestors = p :: p.ancestors := by
  rw [ancestors_eq, h]

lemma mem_ancestors_of_parent {a : Location} (h : m.parent? = some p) : a ∈ m.ancestors ↔ a = p ∨ a ∈ p.ancestors := by
  rw [ancestors_of_parent h, List.mem_cons]

/-- From the outside in: what holds of the top of a tree, and of an element if it holds of its parent, holds of all. -/
theorem outside_in {motive : Location → Prop} (top : ∀ l, l.parent? = none → motive l)
    (child : ∀ l p, l.parent? = some p → motive p → motive l) (l : Location) : motive l := by
  obtain ⟨tag, children, context⟩ := l
  induction context generalizing tag children with
  | top => exact top _ rfl
  | inside parent before after outer ih => exact child _ _ rfl (ih _ _)

lemma ancestors_subset {a : Location} (h : a ∈ m.ancestors) : a.ancestors ⊆ m.ancestors := by
  induction m using outside_in with
  | top m hm => simp [ancestors_eq, hm] at h
  | child m p hm ih =>
    rw [ancestors_of_parent hm] at h ⊢
    rcases List.mem_cons.1 h with rfl | h
    · exact List.subset_cons_self _ _
    · exact List.Subset.trans (ih h) (List.subset_cons_self _ _)

lemma mem_outward_of_parent (h : m.parent? = some p) : x ∈ m.outward ↔ x = m ∨ x ∈ p.outward := by
  rw [outward, outward, ancestors_of_parent h, List.mem_cons]

lemma length_ancestors_lt {a : Location} (h : a ∈ l.ancestors) : a.ancestors.length < l.ancestors.length := by
  induction l using outside_in with
  | top l hl => simp [ancestors_eq, hl] at h
  | child l p hp ih =>
    rw [ancestors_of_parent hp, List.length_cons]
    rcases (mem_ancestors_of_parent hp).1 h with rfl | h
    · exact Nat.lt_succ_self _
    · exact Nat.lt_succ_of_lt (ih h)

/-! ### Below an element -/

lemma mem_locationsList {parent : Tag} {outer : Context} {before nodes : List Node} :
    m ∈ locationsList parent outer before nodes ↔
      ∃ xs n ys, nodes = xs ++ n :: ys ∧ m ∈ locations (.inside parent (xs.reverse ++ before) ys outer) n := by
  induction nodes generalizing before with
  | nil => simp [locationsList]
  | cons n rest ih =>
    rw [locationsList, List.mem_append, ih]
    constructor
    · rintro (h | ⟨xs, n', ys, rfl, h⟩)
      · exact ⟨[], n, rest, rfl, h⟩
      · exact ⟨n :: xs, n', ys, rfl, by simpa using h⟩
    · rintro ⟨xs, n', ys, heq, h⟩
      cases xs with
      | nil =>
        obtain ⟨rfl, rfl⟩ := List.cons.inj heq
        exact .inl h
      | cons x xs =>
        obtain ⟨rfl, rfl⟩ := List.cons.inj heq
        exact .inr ⟨xs, n', ys, rfl, by simpa using h⟩

/-- **What lies below an element** are its children, and what lies below them. -/
theorem mem_descendants : m ∈ l.descendants ↔ ∃ c, c.parent? = some l ∧ (m = c ∨ m ∈ c.descendants) := by
  unfold descendants
  rw [mem_locationsList]
  constructor
  · rintro ⟨xs, n, ys, hchildren, h⟩
    cases n with
    | element tag children =>
      refine ⟨⟨tag, children, .inside l.tag xs.reverse ys l.context⟩, parent?_eq_some.2 ⟨_, _, rfl, ?_⟩, ?_⟩
      · rw [List.reverse_reverse]
        exact hchildren
      · simpa [locations] using h
    | _ => simp [locations] at h
  · rintro ⟨c, hc, h⟩
    obtain ⟨before, after, hcontext, hchildren⟩ := parent?_eq_some.1 hc
    refine ⟨before.reverse, c.node, after, hchildren, ?_⟩
    obtain ⟨tag, children, context⟩ := c
    obtain rfl : context = _ := hcontext
    simpa [node, locations, descendants] using h

/-- From the inside out: what holds of an element if it holds of its children, holds of all. -/
theorem inside_out {motive : Location → Prop} (step : ∀ l, (∀ c, c.parent? = some l → motive c) → motive l)
    (l : Location) : motive l := by
  induction hsize : sizeOf l.children using Nat.strongRecOn generalizing l with
  | ind size ih =>
    refine step l fun c hc => ih (sizeOf c.children) ?_ c rfl
    obtain ⟨before, after, -, hchildren⟩ := parent?_eq_some.1 hc
    have hlt : sizeOf c.node < sizeOf l.children :=
      List.sizeOf_lt_of_mem (hchildren ▸ List.mem_append_right _ List.mem_cons_self)
    have hnode : sizeOf c.node = 1 + sizeOf c.tag + sizeOf c.children := Node.element.sizeOf_spec _ _
    omega

lemma descendants_trans (hm : m ∈ p.descendants) (hp : p ∈ l.descendants) : m ∈ l.descendants := by
  induction l using inside_out with
  | step l ih =>
    obtain ⟨c, hc, rfl | hp⟩ := mem_descendants.1 hp
    · exact mem_descendants.2 ⟨_, hc, .inr hm⟩
    · exact mem_descendants.2 ⟨c, hc, .inr (ih c hc hp)⟩

/-- **What lies below an element is what it lies around.** -/
theorem mem_descendants_iff : m ∈ l.descendants ↔ l ∈ m.ancestors := by
  constructor
  · induction l using inside_out with
    | step l ih =>
      intro h
      obtain ⟨c, hc, rfl | h⟩ := mem_descendants.1 h
      · exact ancestors_of_parent hc ▸ List.mem_cons_self
      · exact ancestors_subset (ih c hc h) (ancestors_of_parent hc ▸ List.mem_cons_self)
  · induction m using outside_in with
    | top m hm => simp [ancestors_eq, hm]
    | child m p hm ih =>
      intro h
      rcases (mem_ancestors_of_parent hm).1 h with rfl | h
      · exact mem_descendants.2 ⟨m, hm, .inl rfl⟩
      · exact descendants_trans (mem_descendants.2 ⟨m, hm, .inl rfl⟩) (ih h)

/-- What lies around an element lies below another one that does so too, or is this one, or lies around it. -/
lemma mem_ancestors_cases {a : Location} (hl : l ∈ p.descendants) (ha : a ∈ l.ancestors) :
    a ∈ p.descendants ∨ a = p ∨ a ∈ p.ancestors := by
  induction l using outside_in with
  | top l htop => simp [ancestors_eq, htop] at ha
  | child l q hq ih =>
    rcases (mem_ancestors_of_parent hq).1 (mem_descendants_iff.1 hl) with rfl | hp
    · exact .inr ((mem_ancestors_of_parent hq).1 ha)
    · rcases (mem_ancestors_of_parent hq).1 ha with rfl | ha
      · exact .inl (mem_descendants_iff.2 hp)
      · exact ih (mem_descendants_iff.2 hp) ha

/-- What is around an element is not in it. -/
lemma not_mem_descendants (h : x ∈ l.outward) : x ∉ l.descendants := by
  intro hx
  have hlt := length_ancestors_lt (mem_descendants_iff.1 hx)
  rcases List.mem_cons.1 h with rfl | h
  · exact Nat.lt_irrefl _ hlt
  · exact Nat.lt_asymm hlt (length_ancestors_lt h)

/-! ### Siblings -/

/-- The node is an element of a name. -/
def isNamed (name : String) (n : Node) : Bool := n.tag?.any (·.name == name)

/-- How many siblings of its name stand before an element. -/
def sameBefore (l : Location) : Nat := (l.tagsBefore.filter (·.name == l.tag.name)).length

/-- How many siblings of its name stand after an element. -/
def sameAfter (l : Location) : Nat := (l.tagsAfter.filter (·.name == l.tag.name)).length

lemma length_filter_tags (name : String) (nodes : List Node) :
    ((nodes.filterMap Node.tag?).filter (·.name == name)).length = nodes.countP (isNamed name) := by
  induction nodes with
  | nil => rfl
  | cons n rest ih =>
    cases h : n.tag? with
    | none => simp [h, isNamed, ih]
    | some t =>
      by_cases ht : t.name = name <;> simp [h, isNamed, ih, ht]

lemma sameBefore_eq (l : Location) : l.sameBefore = l.nodesBefore.countP (isNamed l.tag.name) :=
  length_filter_tags _ _

lemma sameAfter_eq (l : Location) : l.sameAfter = l.nodesAfter.countP (isNamed l.tag.name) :=
  length_filter_tags _ _

/-- Two places in one list of nodes: one of them is the other, or comes after it. -/
lemma split_cases {α : Type} {xs ys as bs : List α} {a b : α} (h : xs ++ a :: as = ys ++ b :: bs) :
    (xs = ys ∧ a = b ∧ as = bs) ∨ (∃ zs, ys = xs ++ a :: zs) ∨ ∃ zs, bs = zs ++ a :: as ∧ xs = ys ++ b :: zs := by
  rcases List.append_eq_append_iff.1 h with ⟨zs, rfl, hzs⟩ | ⟨zs, rfl, hzs⟩
  · cases zs with
    | nil =>
      obtain ⟨rfl, rfl⟩ := List.cons.inj hzs
      exact .inl ⟨by simp, rfl, rfl⟩
    | cons z zs =>
      obtain ⟨rfl, -⟩ := List.cons.inj hzs
      exact .inr (.inl ⟨zs, rfl⟩)
  · cases zs with
    | nil =>
      obtain ⟨rfl, rfl⟩ := List.cons.inj hzs
      exact .inl ⟨by simp, rfl, rfl⟩
    | cons z zs =>
      obtain ⟨rfl, rfl⟩ := List.cons.inj hzs
      exact .inr (.inr ⟨zs, rfl, rfl⟩)

lemma isNamed_node (l : Location) : isNamed l.tag.name l.node = true := by simp [isNamed, node, Node.tag?]

/-- Of two children of one parent that have the same name, one comes first, unless they are the same. -/
lemma siblings_cases (hm : m.parent? = some p) (hl : l.parent? = some p) (hname : m.tag.name = l.tag.name) :
    m = l ∨ m.sameBefore < l.sameBefore ∨ l.sameBefore < m.sameBefore ∧ 0 < l.sameAfter := by
  obtain ⟨before, after, hcontext, hchildren⟩ := parent?_eq_some.1 hm
  obtain ⟨before', after', hcontext', hchildren'⟩ := parent?_eq_some.1 hl
  have hbefore : m.sameBefore = before.countP (isNamed l.tag.name) := by
    rw [sameBefore_eq, hname, nodesBefore, hcontext]
  have hbefore' : l.sameBefore = before'.countP (isNamed l.tag.name) := by
    rw [sameBefore_eq, nodesBefore, hcontext']
  have hafter' : l.sameAfter = after'.countP (isNamed l.tag.name) := by
    rw [sameAfter_eq, nodesAfter, hcontext']
  have hmnode : isNamed l.tag.name m.node = true := hname ▸ m.isNamed_node
  rcases split_cases (hchildren.symm.trans hchildren') with ⟨hxs, hnode, hys⟩ | ⟨zs, hzs⟩ | ⟨zs, hzs, hxs⟩
  · left
    obtain ⟨tag, children, context⟩ := m
    obtain ⟨tag', children', context'⟩ := l
    obtain ⟨rfl, rfl⟩ : tag = tag' ∧ children = children' := by simpa [node] using hnode
    obtain rfl : context = _ := hcontext
    obtain rfl : context' = _ := hcontext'
    rw [List.reverse_injective hxs, hys]
  · right; left
    rw [hbefore, hbefore', ← List.countP_reverse (l := before'), hzs, List.countP_append,
      List.countP_cons_of_pos hmnode, List.countP_reverse]
    omega
  · right; right
    rw [hbefore, hbefore', hafter', ← List.countP_reverse (l := before), hxs, hzs, List.countP_append,
      List.countP_append, List.countP_cons_of_pos l.isNamed_node, List.countP_cons_of_pos hmnode,
      List.countP_reverse]
    omega

/-- **Siblings are the same** if they have the same name and as many siblings of it before them. -/
theorem eq_of_sameBefore (hm : m.parent? = some p) (hl : l.parent? = some p) (hname : m.tag.name = l.tag.name)
    (hbefore : m.sameBefore = l.sameBefore) : m = l := by
  rcases siblings_cases hm hl hname with h | h | h
  · exact h
  · omega
  · omega

/-- **An element without siblings of its name** is known by the name. -/
theorem eq_of_alone (hm : m.parent? = some p) (hl : l.parent? = some p) (hname : m.tag.name = l.tag.name)
    (halone : l.sameBefore + l.sameAfter = 0) : m = l := by
  rcases siblings_cases hm hl hname with h | h | h
  · exact h
  · omega
  · omega

/-- The tags beside an element are those of other children of its parent. -/
lemma exists_sibling (hm : m.parent? = some p) {t : Tag} (ht : t ∈ m.tagsBefore ∨ t ∈ m.tagsAfter) :
    ∃ c : Location, c.parent? = some p ∧ c.tag = t := by
  obtain ⟨before, after, hcontext, hchildren⟩ := parent?_eq_some.1 hm
  have hmem : ∃ n ∈ p.children, n.tag? = some t := by
    rw [hchildren]
    rcases ht with ht | ht
    · obtain ⟨n, hn, htag⟩ := List.mem_filterMap.1 ht
      rw [nodesBefore, hcontext] at hn
      exact ⟨n, by simp [hn], htag⟩
    · obtain ⟨n, hn, htag⟩ := List.mem_filterMap.1 ht
      rw [nodesAfter, hcontext] at hn
      exact ⟨n, by simp [hn], htag⟩
  obtain ⟨n, hn, htag⟩ := hmem
  obtain ⟨xs, ys, hsplit⟩ := List.append_of_mem hn
  cases n with
  | element tag children =>
    obtain rfl : tag = t := by simpa [Node.tag?] using htag
    exact ⟨⟨tag, children, .inside p.tag xs.reverse ys p.context⟩,
      parent?_eq_some.2 ⟨_, _, rfl, by rw [List.reverse_reverse]; exact hsplit⟩, rfl⟩
  | _ => simp [Node.tag?] at htag

/-- So they are those of elements which lie where it lies. -/
lemma exists_sibling_mem (hm : m ∈ l.descendants) {t : Tag} (ht : t ∈ m.tagsBefore ∨ t ∈ m.tagsAfter) :
    ∃ c ∈ l.descendants, c.tag = t := by
  have hl := mem_descendants_iff.1 hm
  cases hp : m.parent? with
  | none => simp [ancestors_eq, hp] at hl
  | some p =>
    obtain ⟨c, hc, htag⟩ := exists_sibling hp ht
    exact ⟨c, mem_descendants_iff.2 (by rwa [ancestors_of_parent hc, ← ancestors_of_parent hp]), htag⟩

end Location

/-! ### The elements of a forest -/

namespace Forest

variable {f : Forest}

/-- The elements of a forest are the tops of its trees and what lies below them. -/
lemma mem_locations : l ∈ f.locations ↔ ∃ tag children, .element tag children ∈ f.trees ∧
    (l = ⟨tag, children, .top⟩ ∨ l ∈ Location.descendants ⟨tag, children, .top⟩) := by
  unfold locations
  rw [List.mem_flatMap]
  constructor
  · rintro ⟨n, hn, hl⟩
    cases n with
    | element tag children => exact ⟨tag, children, hn, List.mem_cons.1 hl⟩
    | _ => cases hl
  · rintro ⟨tag, children, hn, hl⟩
    exact ⟨_, hn, List.mem_cons.2 hl⟩

lemma mem_locations_of_locate? {id : Id} (h : f.locate? id = some l) : l ∈ f.locations := List.mem_of_find?_eq_some h

lemma tag_id_of_locate? {id : Id} (h : f.locate? id = some l) : l.tag.id = id := by
  unfold locate? at h
  simpa using List.find?_some h

/-- What lies below an element of a forest is one of its elements. -/
lemma mem_locations_descendants (h : l ∈ f.locations) (hm : m ∈ l.descendants) : m ∈ f.locations := by
  obtain ⟨tag, children, hn, rfl | hl⟩ := mem_locations.1 h
  · exact mem_locations.2 ⟨tag, children, hn, .inr hm⟩
  · exact mem_locations.2 ⟨tag, children, hn, .inr (Location.descendants_trans hm hl)⟩

/-- So is what lies around it. -/
lemma mem_locations_ancestors (h : l ∈ f.locations) (hm : m ∈ l.ancestors) : m ∈ f.locations := by
  obtain ⟨tag, children, hn, rfl | hl⟩ := mem_locations.1 h
  · cases hm
  · rcases Location.mem_ancestors_cases hl hm with hbelow | rfl | habove
    · exact mem_locations.2 ⟨tag, children, hn, .inr hbelow⟩
    · exact mem_locations.2 ⟨tag, children, hn, .inl rfl⟩
    · cases habove

/-- The elements of the document are among those of the forest. -/
lemma mem_locations_of_mem_document (h : l ∈ f.document.descendants) : l ∈ f.locations := by
  unfold document at h
  cases hd : f.locate? documentId with
  | none => rw [hd] at h; cases h
  | some d =>
    rw [hd] at h
    exact mem_locations_descendants (mem_locations_of_locate? hd) h

end Forest

end PageTape.Dom
