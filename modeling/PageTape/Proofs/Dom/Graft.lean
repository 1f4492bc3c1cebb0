import PageTape.Proofs.Dom.Field
import PageTape.Proofs.Dom.Retouch

/-!
# Elements are put in and taken out

* `perm_rewriteList` — an element that gets other children has just their identities in place of those that it had;
* `rewriteList_child` — to take a child out of its place is to rewrite its parent;
* `Forest.Numbered` — no two elements have the same identity, and the next one to be given is new.  Then a tree that is
  added is put into an element by rewriting that one (`append_new`), a child is taken out by rewriting its parent
  (`detach_child`), and all this keeps the identities apart;
* `Forest.Holds` — an element is in another one, and has a tag.  So it is also after elements were retouched, and after
  a text was put into an element that it is around.
-/

namespace PageTape.Dom

variable {id : Id} {edit : Tag → List Node → List Node} {t : Tag} {n : Node} {ns cs xs ys : List Node}

/-! ### Identities -/

lemma idsOf_append (ns ms : List Node) : idsOf (ns ++ ms) = idsOf ns ++ idsOf ms := by
  induction ns with
  | nil => rfl
  | cons n rest ih => rw [List.cons_append, idsOf_cons, ih, idsOf_cons n rest, List.append_assoc]

lemma idsOf_flatMap (ns : List Node) : idsOf ns = ns.flatMap fun n => idsOf [n] := by
  induction ns with
  | nil => rfl
  | cons n rest ih => rw [idsOf_cons, List.flatMap_cons, ih]

lemma idsOf_of_tag? (h : n.tag? = none) : idsOf [n] = [] := by
  cases n with
  | element => cases h
  | _ => rfl

/-- What is no element has no identity. -/
lemma idsOf_filter (ns : List Node) : idsOf (ns.filter fun n => n.tag?.isSome) = idsOf ns := by
  induction ns with
  | nil => rfl
  | cons n rest ih =>
    rw [List.filter_cons, idsOf_cons n rest, ← ih]
    cases h : n.tag? with
    | some t => exact idsOf_cons n _
    | none => rw [idsOf_of_tag? h]; rfl

lemma mem_idsOf (h : .element t cs ∈ Node.elementsList ns) : t.id ∈ idsOf ns :=
  List.mem_filterMap.2 ⟨_, h, rfl⟩

mutual
lemma elements_subset (n : Node) (h : .element t cs ∈ n.elements) : Node.elementsList cs ⊆ n.elements := by
  cases n with
  | element tag children =>
    rcases List.mem_cons.1 h with heq | h
    · obtain ⟨rfl, rfl⟩ := Node.element.inj heq
      exact List.subset_cons_self _ _
    · exact List.Subset.trans (elementsList_subset children h) (List.subset_cons_self _ _)
  | _ => cases h

/-- What is in an element that is somewhere among some nodes is there too. -/
lemma elementsList_subset (ns : List Node) (h : .element t cs ∈ Node.elementsList ns) :
    Node.elementsList cs ⊆ Node.elementsList ns := by
  cases ns with
  | nil => cases h
  | cons n rest =>
    rw [Node.elementsList] at h ⊢
    rcases List.mem_append.1 h with h | h
    · exact List.Subset.trans (elements_subset n h) (List.subset_append_left _ _)
    · exact List.Subset.trans (elementsList_subset rest h) (List.subset_append_right _ _)
end

/-- A child of an element is one of the elements there. -/
lemma id_mem_idsOf (ht : n.tag? = some t) : t.id ∈ idsOf (xs ++ n :: ys) := by
  cases n with
  | element tag children =>
    obtain rfl : tag = t := Option.some.inj ht
    rw [idsOf_append, idsOf_cons, idsOf_element]
    simp
  | _ => cases ht

/-! ### An element is rewritten -/

mutual
lemma rewrite_absent (n : Node) (h : id ∉ idsOf [n]) : n.rewrite id edit = [n] := by
  cases n with
  | element tag children =>
    rw [idsOf_element, List.mem_cons, not_or] at h
    rw [Node.rewrite, if_neg (by simpa using Ne.symm h.1), rewriteList_absent children h.2]
  | _ => rfl

/-- Nodes that do not hold the element stay. -/
lemma rewriteList_absent (ns : List Node) (h : id ∉ idsOf ns) : Node.rewriteList id edit ns = ns := by
  cases ns with
  | nil => rfl
  | cons n rest =>
    rw [idsOf_cons, List.mem_append, not_or] at h
    rw [Node.rewriteList, rewrite_absent n h.1, rewriteList_absent rest h.2]
    rfl
end

variable {k : Tag → List Node → List Node}

mutual
lemma perm_rewrite_node (n : Node) (hd : (idsOf [n]).Nodup) (h : .element t cs ∈ n.elements) :
    (idsOf (n.rewrite t.id (refilling k).edit) ++ idsOf cs).Perm (idsOf [n] ++ idsOf (k t cs)) := by
  cases n with
  | element tag children =>
    rw [idsOf_element, List.nodup_cons] at hd
    rcases List.mem_cons.1 h with heq | h
    · obtain ⟨rfl, rfl⟩ := Node.element.inj heq
      rw [Node.rewrite, if_pos (beq_self_eq_true _)]
      show (idsOf [.element t (k t cs)] ++ idsOf cs).Perm _
      rw [idsOf_element, idsOf_element]
      exact List.Perm.cons _ List.perm_append_comm
    · have hne : tag.id ≠ t.id := fun heq => hd.1 (heq ▸ mem_idsOf h)
      rw [Node.rewrite, if_neg (by simpa using hne), idsOf_element, idsOf_element]
      exact List.Perm.cons _ (perm_rewriteList children hd.2 h)
  | _ => cases h

/-- **An element gets other children**: their identities are there in place of those that it had. -/
lemma perm_rewriteList (ns : List Node) (hd : (idsOf ns).Nodup) (h : .element t cs ∈ Node.elementsList ns) :
    (idsOf (Node.rewriteList t.id (refilling k).edit ns) ++ idsOf cs).Perm (idsOf ns ++ idsOf (k t cs)) := by
  cases ns with
  | nil => cases h
  | cons n rest =>
    rw [idsOf_cons] at hd
    obtain ⟨hn, hrest, hdis⟩ := List.nodup_append.1 hd
    rw [Node.rewriteList, idsOf_append, idsOf_cons n rest, List.perm_iff_count]
    intro a
    rw [Node.elementsList, List.mem_append] at h
    rcases h with h | h
    · have hmem : t.id ∈ idsOf [n] := mem_idsOf (by simpa [Node.elementsList] using h)
      rw [rewriteList_absent rest fun hin => hdis _ hmem _ hin rfl]
      have hcount := List.perm_iff_count.1 (perm_rewrite_node n hn h) a
      simp only [List.count_append] at hcount ⊢
      omega
    · rw [rewrite_absent n fun hin => hdis _ hin _ (mem_idsOf h) rfl]
      have hcount := List.perm_iff_count.1 (perm_rewriteList rest hrest h) a
      simp only [List.count_append] at hcount ⊢
      omega
end

lemma rewriteList_append (ns ms : List Node) : Node.rewriteList id edit (ns ++ ms) =
    Node.rewriteList id edit ns ++ Node.rewriteList id edit ms := by
  induction ns with
  | nil => rfl
  | cons n rest ih => rw [List.cons_append, Node.rewriteList, ih, Node.rewriteList, List.append_assoc]

section Child

variable {u : Tag} (hu : n.tag? = some u)
include hu

/-- The identity of a child is in all that holds its parent. -/
lemma child_mem_idsOf (h : .element t (xs ++ n :: ys) ∈ Node.elementsList ns) : u.id ∈ idsOf ns := by
  have hin : u.id ∈ idsOf (xs ++ n :: ys) := id_mem_idsOf hu
  obtain ⟨e, he, hid⟩ := List.mem_filterMap.1 hin
  exact List.mem_filterMap.2 ⟨e, elementsList_subset ns h he, hid⟩

/-- A child alone is taken out of its siblings. -/
lemma rewriteList_self (hd : (idsOf (xs ++ n :: ys)).Nodup) :
    Node.rewriteList u.id (fun _ _ => []) (xs ++ n :: ys) = xs ++ ys := by
  rw [idsOf_append, idsOf_cons] at hd
  obtain ⟨-, hrest, hdis⟩ := List.nodup_append.1 hd
  obtain ⟨-, -, hdis'⟩ := List.nodup_append.1 hrest
  have hself : u.id ∈ idsOf ([] ++ n :: []) := id_mem_idsOf hu
  have hxs : u.id ∉ idsOf xs := fun hin => hdis _ hin _ (List.mem_append_left _ hself) rfl
  have hys : u.id ∉ idsOf ys := fun hin => hdis' _ hself _ hin rfl
  rw [rewriteList_append, rewriteList_absent xs hxs, Node.rewriteList, rewriteList_absent ys hys]
  cases n with
  | element tag children =>
    obtain rfl : tag = u := Option.some.inj hu
    simp [Node.rewrite]
  | _ => cases hu

mutual
lemma rewrite_child (c : Node) (hd : (idsOf [c]).Nodup) (h : .element t (xs ++ n :: ys) ∈ c.elements) :
    c.rewrite u.id (fun _ _ => []) = c.rewrite t.id (refilling fun _ _ => xs ++ ys).edit := by
  cases c with
  | element tag children =>
    rw [idsOf_element, List.nodup_cons] at hd
    rcases List.mem_cons.1 h with heq | h
    · obtain ⟨rfl, rfl⟩ := Node.element.inj heq
      have hne : t.id ≠ u.id := fun hid => hd.1 (hid ▸ id_mem_idsOf hu)
      rw [Node.rewrite, if_neg (by simpa using hne), rewriteList_self hu hd.2, Node.rewrite,
        if_pos (beq_self_eq_true _)]
      rfl
    · have hne : tag.id ≠ u.id := fun hid => hd.1 (hid ▸ child_mem_idsOf hu h)
      have hne' : tag.id ≠ t.id := fun hid => hd.1 (hid ▸ mem_idsOf h)
      rw [Node.rewrite, if_neg (by simpa using hne), rewriteList_child children hd.2 h, Node.rewrite,
        if_neg (by simpa using hne')]
  | _ => cases h

/-- **To take a child out of its place** is to rewrite its parent. -/
lemma rewriteList_child (ns : List Node) (hd : (idsOf ns).Nodup) (h : .element t (xs ++ n :: ys) ∈ Node.elementsList ns) :
    Node.rewriteList u.id (fun _ _ => []) ns = Node.rewriteList t.id (refilling fun _ _ => xs ++ ys).edit ns := by
  cases ns with
  | nil => cases h
  | cons c rest =>
    rw [idsOf_cons] at hd
    obtain ⟨hc, hrest, hdis⟩ := List.nodup_append.1 hd
    rw [Node.rewriteList, Node.rewriteList]
    rw [Node.elementsList, List.mem_append] at h
    rcases h with h | h
    · have hin : .element t (xs ++ n :: ys) ∈ Node.elementsList [c] := by simpa [Node.elementsList] using h
      rw [rewrite_child c hc h, rewriteList_absent rest fun hmem => hdis _ (child_mem_idsOf hu hin) _ hmem rfl,
        rewriteList_absent rest fun hmem => hdis _ (mem_idsOf hin) _ hmem rfl]
    · rw [rewriteList_child rest hrest h, rewrite_absent c fun hmem => hdis _ hmem _ (child_mem_idsOf hu h) rfl,
        rewrite_absent c fun hmem => hdis _ hmem _ (mem_idsOf h) rfl]
end

end Child

/-! ### What is around an element -/

namespace Location

variable {l m p q x : Location}

/-- What is around an element is told by its outline: the elements are there, each of them in the one that held it. -/
lemma exists_outward (htag : m.tag = l.tag) (h : m.context.outline = l.context.outline) (hx : x ∈ l.outward)
    (hq : x.parent? = some q) : ∃ y ∈ m.outward, y.tag = x.tag ∧ ∃ r, y.parent? = some r ∧ r.tag = q.tag := by
  induction l using outside_in generalizing m with
  | top l hl =>
    obtain rfl : x = l := by simpa [outward, ancestors_eq, hl] using hx
    rw [hl] at hq
    cases hq
  | child l p hp ih =>
    obtain ⟨before, after, hcontext, -⟩ := parent?_eq_some.1 hp
    obtain ⟨mtag, mchildren, mcontext⟩ := m
    dsimp only at htag h
    subst htag
    rw [hcontext] at h
    cases mcontext with
    | top => cases h
    | inside mparent mbefore mafter mouter =>
      obtain ⟨⟨rfl, -⟩, houter⟩ := by simpa only [Context.outline, List.cons.injEq, Prod.mk.injEq] using h
      let around : Location := ⟨p.tag, mbefore.reverse ++ .element l.tag mchildren :: mafter, mouter⟩
      rcases (mem_outward_of_parent hp).1 hx with rfl | hx
      · obtain rfl : p = q := Option.some.inj (hp.symm.trans hq)
        exact ⟨_, List.mem_cons_self, rfl, around, rfl, rfl⟩
      · obtain ⟨y, hy, hrest⟩ := ih (m := around) rfl houter hx
        exact ⟨y, List.mem_cons_of_mem _ hy, hrest⟩

end Location

/-! ### A forest -/

namespace Forest

variable {f : Forest} {l m x : Location}

/-- **The elements of a forest are numbered**: no two of them have the same identity, and the next one is new. -/
structure Numbered (f : Forest) : Prop where
  distinct : f.Distinct
  below : ∀ id ∈ idsOf f.trees, id < f.nextId

instance (f : Forest) : Decidable f.Numbered :=
  decidable_of_iff (f.Distinct ∧ ∀ id ∈ idsOf f.trees, id < f.nextId) ⟨fun ⟨h, h'⟩ => ⟨h, h'⟩, fun h => ⟨h.1, h.2⟩⟩

lemma mem_locations_outward (h : l ∈ f.locations) (hx : x ∈ l.outward) : x ∈ f.locations := by
  rcases List.mem_cons.1 hx with rfl | hx
  · exact h
  · exact mem_locations_ancestors h hx

lemma node_mem (hl : l ∈ f.locations) : l.node ∈ Node.elementsList f.trees :=
  map_node_trees f ▸ List.mem_map_of_mem hl

/-- An element of a forest gets other children. -/
lemma perm_refill (hd : f.Distinct) (hl : l ∈ f.locations) (k : Tag → List Node → List Node) :
    (idsOf (f.rewrite l.tag.id (refilling k).edit).trees ++ idsOf l.children).Perm
      (idsOf f.trees ++ idsOf (k l.tag l.children)) := perm_rewriteList f.trees hd (node_mem hl)

/-- The elements stay distinct when one gets a text in place of its children, which become trees of their own. -/
lemma Distinct.setText (hd : f.Distinct) (id : Id) (value : String) : (f.setText id value).Distinct := by
  unfold Forest.setText replaceChildren
  cases hl : f.locate? id with
  | none => exact hd
  | some l =>
    have hperm := perm_refill hd (mem_locations_of_locate? hl) fun _ _ => [.text .plain value]
    rw [tag_id_of_locate? hl] at hperm
    show (idsOf (_ ++ _)).Nodup
    rw [idsOf_append, idsOf_filter]
    refine hperm.nodup_iff.2 ?_
    show (idsOf f.trees ++ []).Nodup
    rwa [List.append_nil]

/-- A child of an element of a forest is found there. -/
lemma locate?_child (hd : f.Distinct) (hl : l ∈ f.locations) (hn : l.children = xs ++ n :: ys) {u : Tag}
    (hu : n.tag? = some u) : ∃ m, f.locate? u.id = some m ∧ m.tag = u ∧ m.node = n ∧ m.parent? = some l := by
  cases n with
  | element tag children =>
    obtain rfl : tag = u := Option.some.inj hu
    let m : Location := ⟨tag, children, .inside l.tag xs.reverse ys l.context⟩
    have hparent : m.parent? = some l := Location.parent?_eq_some.2 ⟨_, _, rfl, by rw [List.reverse_reverse]; exact hn⟩
    have hm : m ∈ f.locations :=
      mem_locations_descendants hl (Location.mem_descendants.2 ⟨m, hparent, .inl rfl⟩)
    exact ⟨m, hd.locate? hm, rfl, rfl, hparent⟩
  | _ => cases hu

/-- **A child is taken out** as its parent is rewritten. -/
lemma detach_child (hd : f.Distinct) (hl : l ∈ f.locations) (hn : l.children = xs ++ n :: ys) {u : Tag}
    (hu : n.tag? = some u) :
    f.detach u.id = (f.rewrite l.tag.id (refilling fun _ _ => xs ++ ys).edit).addTree n := by
  obtain ⟨m, hm, -, hnode, -⟩ := locate?_child hd hl hn hu
  have hmem : .element l.tag (xs ++ n :: ys) ∈ Node.elementsList f.trees := hn ▸ node_mem hl
  have htake : f.take? u.id = some (n, f.rewrite l.tag.id (refilling fun _ _ => xs ++ ys).edit) := by
    unfold take? rewrite
    rw [hm, ← rewriteList_child hu f.trees hd hmem, Option.map_some, hnode]
  unfold detach
  rw [htake]

/-- The element has its other children then. -/
lemma locate?_detach (hd : f.Distinct) (hl : l ∈ f.locations) (hn : l.children = xs ++ n :: ys) {u : Tag}
    (hu : n.tag? = some u) :
    ∃ m, (f.detach u.id).locate? l.tag.id = some m ∧ m.tag = l.tag ∧ m.children = xs ++ ys := by
  obtain ⟨m, hm, hrewritten⟩ := locate?_rewrite (refilling fun _ _ => xs ++ ys) (hd.locate? hl)
  rw [detach_child hd hl hn hu]
  exact ⟨m, locate?_addTrees hm [n], hrewritten.tag, hrewritten.children⟩

/-- **A new tree is put into an element** as that one is rewritten. -/
lemma append_new (hl : f.locate? id = some l) (ht : n.tag? = some t) (hnew : t.id ∉ idsOf f.trees) :
    (f.addTree n).append id t.id = f.rewrite id (refilling fun _ children => children ++ [n]).edit := by
  have habsent : f.locate? t.id = none := by
    refine List.find?_eq_none.2 fun m hm hid => hnew ?_
    rw [← map_id_trees]
    exact List.mem_map.2 ⟨m, hm, by simpa using hid⟩
  have htake : (f.addTree n).take? t.id = some (n, f) := by
    cases n with
    | element tag children =>
      obtain rfl : tag = t := Option.some.inj ht
      have hfound : (f.addTree (.element tag children)).locate? tag.id = some ⟨tag, children, .top⟩ := by
        unfold locate? locations at habsent ⊢
        rw [addTree, List.flatMap_append, List.find?_append, habsent]
        simp [Dom.locations]
      have hgone : (f.addTree (.element tag children)).rewrite tag.id (fun _ _ => []) = f := by
        unfold rewrite addTree
        dsimp only
        rw [rewriteList_append, rewriteList_absent f.trees hnew]
        simp [Node.rewriteList, Node.rewrite]
      unfold take?
      rw [hfound, hgone]
      rfl
    | _ => cases ht
  unfold append move
  rw [htake]
  dsimp only
  rw [hl]
  rfl

/-- The elements stay numbered. -/
lemma Numbered.append (h : f.Numbered) (hl : l ∈ f.locations) {nextId : Id} (hle : f.nextId ≤ nextId)
    (hnodup : (idsOf [n]).Nodup) (hids : ∀ i ∈ idsOf [n], f.nextId ≤ i ∧ i < nextId) :
    Numbered { f.rewrite l.tag.id (refilling fun _ children => children ++ [n]).edit with nextId } := by
  have hperm : (idsOf (f.rewrite l.tag.id (refilling fun _ children => children ++ [n]).edit).trees).Perm
      (idsOf f.trees ++ idsOf [n]) := by
    have hfilled := perm_refill h.distinct hl fun _ children => children ++ [n]
    rw [idsOf_append] at hfilled
    refine List.perm_iff_count.2 fun a => ?_
    have hcount := List.perm_iff_count.1 hfilled a
    simp only [List.count_append] at hcount ⊢
    omega
  refine ⟨hperm.nodup_iff.2 (List.nodup_append.2 ⟨h.distinct, hnodup, fun i hi j hj => ?_⟩), fun i hi => ?_⟩
  · exact Nat.ne_of_lt (Nat.lt_of_lt_of_le (h.below i hi) (hids j hj).1)
  · rcases List.mem_append.1 (hperm.mem_iff.1 hi) with hi | hi
    · exact Nat.lt_of_lt_of_le (h.below i hi) hle
    · exact (hids i hi).2

/-- **An element of a forest is in another one**, and has a tag. -/
structure Holds (f : Forest) (parent : Id) (tag : Tag) : Prop where
  distinct : f.Distinct
  located : ∃ m l, f.locate? tag.id = some m ∧ m.tag = tag ∧ m.parent? = some l ∧ l.tag.id = parent

namespace Holds

variable {parent : Id} {tag : Tag}

/-- The element stays where it is when elements are retouched. -/
lemma retouch (h : f.Holds parent tag) (g : Retouch) : (f.retouch g).Holds parent (g.tag tag) := by
  obtain ⟨hd, m, l, hm, rfl, hl, rfl⟩ := h
  refine ⟨hd.retouch g, g.location m, g.location l, ?_, rfl, ?_, g.id l.tag⟩
  · rw [g.id, locate?_retouch, hm, Option.map_some]
  · rw [g.parent?_location, hl, Option.map_some]

/-- It is one of the children there. -/
lemma mem_children (h : f.Holds l.tag.id tag) (hl : l ∈ f.locations) : tag ∈ l.children.filterMap Node.tag? := by
  obtain ⟨hd, m, q, hm, rfl, hq, hid⟩ := h
  have hqmem := mem_locations_ancestors (mem_locations_of_locate? hm)
    (Location.ancestors_of_parent hq ▸ List.mem_cons_self)
  obtain rfl : q = l := hd.eq hl hqmem hid
  obtain ⟨before, after, -, hchildren⟩ := Location.parent?_eq_some.1 hq
  exact List.mem_filterMap.2 ⟨m.node, hchildren ▸ List.mem_append_right _ List.mem_cons_self, rfl⟩

/-- It stays where it is when a text is put into it, or into an element that it is around. -/
lemma setText (h : f.Holds parent tag) (hl : f.locate? id = some l) (hin : ∃ m ∈ l.outward, m.tag.id = tag.id)
    (value : String) : (f.setText id value).Holds parent tag := by
  obtain ⟨hd, m, p, hm, rfl, hp, rfl⟩ := h
  have hd' := hd.setText id value
  obtain ⟨x, hx, hid⟩ := hin
  have hxmem := mem_locations_outward (mem_locations_of_locate? hl) hx
  obtain rfl : x = m := hd.eq (mem_locations_of_locate? hm) hxmem hid
  obtain ⟨l', hl', hrewritten⟩ := locate?_rewrite (filling value) hl
  obtain ⟨y, hy, hytag, r, hr, hrtag⟩ := Location.exists_outward hrewritten.tag hrewritten.outline hx hp
  have hset : (f.setText id value).locate? id = some l' := by
    unfold Forest.setText replaceChildren
    rw [hl]
    exact locate?_addTrees hl' _
  have hymem := mem_locations_outward (mem_locations_of_locate? hset) hy
  refine ⟨hd', y, r, ?_, hytag, hr, congrArg (·.id) hrtag⟩
  rw [← hytag]
  exact hd'.locate? hymem

end Holds

end Forest

end PageTape.Dom
