import PageTape.Proofs.Dom.Location
import Mathlib.Data.List.Nodup

/-!
# Elements that are retouched where they stand

* `Retouch` — a change of the attributes of elements, and of what is in those that hold no other element.  Each element
  keeps its identity, its name and its place;
* `ancestors_location`, `elementsBefore_location`, `descendants_location` — so what is around an element is what was
  there before, retouched, and so are the elements of a forest (`locations_retouch`);
* `Forest.Distinct` — no two elements have the same identity.  Then an edit of one element is a retouch of only that one
  (`rewrite_eq_retouch`).
-/

namespace PageTape.Dom

/-- No element is among the nodes. -/
def isLeaf (nodes : List Node) : Bool := nodes.all (·.tag?.isNone)

/-- What elements become where they stand: their tags, and what is in them where that holds no element. -/
structure Retouch where
  tag : Tag → Tag
  text : Tag → List Node → List Node
  id : ∀ t, (tag t).id = t.id
  name : ∀ t, (tag t).name = t.name
  leaf : ∀ t nodes, isLeaf nodes = true → isLeaf (text t nodes) = true

namespace Retouch

variable {g : Retouch} {l : Location} {n : Node} {ns : List Node}

mutual
/-- A node with its elements retouched. -/
def node (g : Retouch) : Node → Node
  | .element tag children => .element (g.tag tag) (if isLeaf children then g.text tag children else g.nodes children)
  | n => n

/-- Nodes with their elements retouched. -/
def nodes (g : Retouch) : List Node → List Node
  | [] => []
  | n :: rest => g.node n :: g.nodes rest
end

/-- What is in an element that is retouched. -/
def children (g : Retouch) (tag : Tag) (nodes : List Node) : List Node :=
  if isLeaf nodes then g.text tag nodes else nodes.map g.node

/-- The surroundings of a node with their elements retouched. -/
def context (g : Retouch) : Context → Context
  | .top => .top
  | .inside parent before after outer =>
    .inside (g.tag parent) (before.map g.node) (after.map g.node) (g.context outer)

/-- An element retouched, in its surroundings. -/
def location (g : Retouch) (l : Location) : Location := ⟨g.tag l.tag, g.children l.tag l.children, g.context l.context⟩

lemma nodes_eq (g : Retouch) (nodes : List Node) : g.nodes nodes = nodes.map g.node := by
  induction nodes with
  | nil => rfl
  | cons n rest ih => rw [nodes, ih, List.map_cons]

lemma node_element (g : Retouch) (tag : Tag) (children : List Node) :
    g.node (.element tag children) = .element (g.tag tag) (g.children tag children) := by
  rw [node, nodes_eq, Retouch.children]

/-- What is no element stays. -/
lemma node_of_tag? (h : n.tag? = none) : g.node n = n := by
  cases n with
  | element => cases h
  | _ => rfl

lemma tag?_node (g : Retouch) (n : Node) : (g.node n).tag? = n.tag?.map g.tag := by
  cases n with
  | element tag children => rw [node_element]; rfl
  | _ => rfl

lemma node_location (g : Retouch) (l : Location) : (g.location l).node = g.node l.node := (g.node_element _ _).symm

@[simp] lemma tag_location (g : Retouch) (l : Location) : (g.location l).tag = g.tag l.tag := rfl

lemma filterMap_tag? (g : Retouch) (nodes : List Node) :
    (nodes.map g.node).filterMap Node.tag? = (nodes.filterMap Node.tag?).map g.tag := by
  simp only [List.filterMap_map, List.map_filterMap, Function.comp_def, tag?_node]

/-- Nodes without an element among them stay. -/
lemma map_leaf (g : Retouch) (h : isLeaf ns = true) : ns.map g.node = ns := by
  induction ns with
  | nil => rfl
  | cons n rest ih =>
    obtain ⟨hn, hrest⟩ := Bool.and_eq_true_iff.1 ((List.all_cons ..).symm.trans h)
    rw [List.map_cons, ih hrest, node_of_tag? (Option.isNone_iff_eq_none.1 hn)]

/-- Nodes with an element among them. -/
lemma children_of_mem (h : n ∈ ns) (hn : n.tag?.isSome = true) (tag : Tag) : g.children tag ns = ns.map g.node := by
  refine if_neg fun hleaf => ?_
  have := List.all_eq_true.1 hleaf n h
  simp_all

/-! ### Around an element -/

lemma ancestors_context (c : Context) (hn : n.tag?.isSome = true) :
    (g.context c).ancestors (g.node n) = (c.ancestors n).map g.location := by
  induction c generalizing n with
  | top => rfl
  | inside parent before after outer ih =>
    have hchildren : (before.map g.node).reverse ++ g.node n :: after.map g.node =
        g.children parent (before.reverse ++ n :: after) := by
      rw [children_of_mem (List.mem_append_right _ List.mem_cons_self) hn]
      simp
    rw [context, Context.ancestors, Context.ancestors, List.map_cons, hchildren, ← node_element, ih rfl]
    rfl

lemma ancestors_location (g : Retouch) (l : Location) : (g.location l).ancestors = l.ancestors.map g.location := by
  unfold Location.ancestors
  rw [node_location]
  exact ancestors_context l.context rfl

lemma parent?_location (g : Retouch) (l : Location) : (g.location l).parent? = l.parent?.map g.location := by
  unfold Location.parent?
  rw [ancestors_location, List.head?_map]

lemma outward_location (g : Retouch) (l : Location) : (g.location l).outward = l.outward.map g.location := by
  unfold Location.outward
  rw [ancestors_location, List.map_cons]

lemma root_location (g : Retouch) (l : Location) : (g.location l).root = g.location l.root := by
  unfold Location.root
  rw [ancestors_location, List.getLast?_map]
  cases l.ancestors.getLast? <;> rfl

lemma nodesBefore_location (g : Retouch) (l : Location) : (g.location l).nodesBefore = l.nodesBefore.map g.node := by
  obtain ⟨tag, children, _ | _⟩ := l <;> rfl

lemma nodesAfter_location (g : Retouch) (l : Location) : (g.location l).nodesAfter = l.nodesAfter.map g.node := by
  obtain ⟨tag, children, _ | _⟩ := l <;> rfl

lemma tagsBefore_location (g : Retouch) (l : Location) : (g.location l).tagsBefore = l.tagsBefore.map g.tag := by
  unfold Location.tagsBefore
  rw [nodesBefore_location, filterMap_tag?]

lemma tagsAfter_location (g : Retouch) (l : Location) : (g.location l).tagsAfter = l.tagsAfter.map g.tag := by
  unfold Location.tagsAfter
  rw [nodesAfter_location, filterMap_tag?]

lemma tags_context (g : Retouch) (c : Context) : (g.context c).tags = c.tags.map g.tag := by
  induction c with
  | top => rfl
  | inside parent before after outer ih => rw [context, Context.tags, Context.tags, ih, List.map_cons]

lemma elementsBefore_location (g : Retouch) (l : Location) :
    (g.location l).elementsBefore = l.elementsBefore.map g.location := by
  have hbefore : ∀ (parent : Tag) (outer : Context) (nodes passed : List Node),
      Location.before (g.tag parent) (g.context outer) (passed.map g.node) (nodes.map g.node) =
        (Location.before parent outer passed nodes).map g.location := by
    intro parent outer nodes
    induction nodes with
    | nil => exact fun _ => rfl
    | cons n rest ih =>
      intro passed
      have hrest := ih (n :: passed)
      cases n with
      | element tag children =>
        rw [List.map_cons, node_element] at hrest
        rw [List.map_cons, node_element, Location.before, Location.before, hrest]
        rfl
      | _ => exact hrest
  obtain ⟨tag, children, context⟩ := l
  cases context with
  | top => rfl
  | inside parent before after outer =>
    have hself := hbefore parent outer before (.element tag children :: after)
    rw [List.map_cons, node_element] at hself
    exact hself

/-! ### Below an element -/

lemma locationsList_leaf (parent : Tag) (outer : Context) (before nodes : List Node) (h : isLeaf nodes = true) :
    locationsList parent outer before nodes = [] := by
  induction nodes generalizing before with
  | nil => rfl
  | cons n rest ih =>
    obtain ⟨hn, hrest⟩ := Bool.and_eq_true_iff.1 ((List.all_cons ..).symm.trans h)
    rw [locationsList, ih _ hrest]
    cases n with
    | element => cases hn
    | _ => rfl

mutual
/-- Below a node. -/
lemma locations_node (g : Retouch) (c : Context) (n : Node) :
    locations (g.context c) (g.node n) = (locations c n).map g.location := by
  cases n with
  | element tag children =>
    rw [node_element, locations, locations, List.map_cons, locationsList_children]
    rfl
  | _ => rfl

/-- Below the nodes in an element. -/
lemma locationsList_map (g : Retouch) (parent : Tag) (outer : Context) (before nodes : List Node) :
    locationsList (g.tag parent) (g.context outer) (before.map g.node) (nodes.map g.node) =
      (locationsList parent outer before nodes).map g.location := by
  cases nodes with
  | nil => rfl
  | cons n rest =>
    have hn := locations_node g (.inside parent before rest outer) n
    have hrest := locationsList_map g parent outer (n :: before) rest
    rw [List.map_cons] at hrest
    rw [List.map_cons, locationsList, locationsList, List.map_append, ← hn, ← hrest]
    rfl

/-- Below an element. -/
lemma locationsList_children (g : Retouch) (parent : Tag) (outer : Context) (nodes : List Node) :
    locationsList (g.tag parent) (g.context outer) [] (g.children parent nodes) =
      (locationsList parent outer [] nodes).map g.location := by
  unfold children
  split
  · rename_i hleaf
    rw [locationsList_leaf _ _ _ _ hleaf, locationsList_leaf _ _ _ _ (g.leaf parent nodes hleaf)]
    rfl
  · exact locationsList_map g parent outer [] nodes
end

lemma descendants_location (g : Retouch) (l : Location) : (g.location l).descendants = l.descendants.map g.location :=
  locationsList_children g l.tag l.context l.children

mutual
lemma elements_node (g : Retouch) (n : Node) : Node.elements (g.node n) = (Node.elements n).map g.node := by
  cases n with
  | element tag children =>
    rw [node_element, Node.elements, Node.elements, List.map_cons, elementsList_children, node_element]
  | _ => rfl

lemma elementsList_map (g : Retouch) (nodes : List Node) :
    Node.elementsList (nodes.map g.node) = (Node.elementsList nodes).map g.node := by
  cases nodes with
  | nil => rfl
  | cons n rest =>
    rw [List.map_cons, Node.elementsList, Node.elementsList, List.map_append, elements_node, elementsList_map g rest]

lemma elementsList_children (g : Retouch) (tag : Tag) (nodes : List Node) :
    Node.elementsList (g.children tag nodes) = (Node.elementsList nodes).map g.node := by
  have hleaf : ∀ nodes : List Node, isLeaf nodes = true → Node.elementsList nodes = [] := by
    intro nodes h
    induction nodes with
    | nil => rfl
    | cons n rest ih =>
      obtain ⟨hn, hrest⟩ := Bool.and_eq_true_iff.1 ((List.all_cons ..).symm.trans h)
      rw [Node.elementsList, ih hrest]
      cases n with
      | element => cases hn
      | _ => rfl
  unfold children
  split
  · rename_i h
    rw [hleaf _ h, hleaf _ (g.leaf tag nodes h)]
    rfl
  · exact elementsList_map g nodes
end

/-- The elements below an element. -/
lemma descendants_node (g : Retouch) (tag : Tag) (children : List Node) :
    (g.node (.element tag children)).descendants = (Node.element tag children).descendants.map g.node := by
  rw [node_element]
  exact elementsList_children g tag children

end Retouch

/-! ### One element -/

/-- The identities of the elements among some nodes and below them. -/
def idsOf (ns : List Node) : List Id := (Node.elementsList ns).filterMap fun n => n.tag?.map (·.id)

lemma idsOf_cons (n : Node) (ns : List Node) : idsOf (n :: ns) = idsOf [n] ++ idsOf ns := by
  simp [idsOf, Node.elementsList]

lemma idsOf_element (tag : Tag) (children : List Node) :
    idsOf [.element tag children] = tag.id :: idsOf children := by
  simp [idsOf, Node.elementsList, Node.elements, Node.tag?]

namespace Retouch

variable {g : Retouch} {id : Id}

/-- Only the element of an identity is retouched. -/
structure Only (g : Retouch) (id : Id) : Prop where
  tag : ∀ t, t.id ≠ id → g.tag t = t
  text : ∀ t ns, t.id ≠ id → g.text t ns = ns

namespace Only

mutual
lemma node_eq (h : g.Only id) (n : Node) (hn : id ∉ idsOf [n]) : g.node n = n := by
  cases n with
  | element tag children =>
    rw [idsOf_element, List.mem_cons, not_or] at hn
    obtain ⟨hid, hchildren⟩ := hn
    rw [node_element, h.tag tag (Ne.symm hid), Retouch.children, h.text tag children (Ne.symm hid),
      map_eq h children hchildren, ite_self]
  | _ => rfl

/-- Nodes without the element stay. -/
lemma map_eq (h : g.Only id) (ns : List Node) (hn : id ∉ idsOf ns) : ns.map g.node = ns := by
  cases ns with
  | nil => rfl
  | cons n rest =>
    rw [idsOf_cons, List.mem_append, not_or] at hn
    rw [List.map_cons, node_eq h n hn.1, map_eq h rest hn.2]
end

variable {edit : Tag → List Node → List Node}

mutual
lemma rewrite_eq (h : g.Only id) (n : Node) (hd : (idsOf [n]).Nodup)
    (hself : ∀ tag children, .element tag children ∈ n.elements → tag.id = id →
      edit tag children = [.element (g.tag tag) (if isLeaf children then g.text tag children else children)]) :
    n.rewrite id edit = [g.node n] := by
  cases n with
  | element tag children =>
    rw [idsOf_element, List.nodup_cons] at hd
    rw [node_element]
    unfold Node.rewrite
    split
    · rename_i hid
      have hid := beq_iff_eq.1 hid
      rw [hself tag children List.mem_cons_self hid, Retouch.children, h.map_eq children (hid ▸ hd.1)]
    · rename_i hid
      have hid : tag.id ≠ id := fun heq => hid (beq_iff_eq.2 heq)
      rw [rewriteList_eq h children hd.2 fun t cs hmem => hself t cs (List.mem_cons_of_mem _ hmem), h.tag tag hid,
        Retouch.children, h.text tag children hid]
      split
      · rw [map_leaf g ‹_›]
      · rfl
  | _ => rfl

/-- **To rewrite one element** is to retouch only that one, if no two elements have the same identity. -/
theorem rewriteList_eq (h : g.Only id) (ns : List Node) (hd : (idsOf ns).Nodup)
    (hself : ∀ tag children, .element tag children ∈ Node.elementsList ns → tag.id = id →
      edit tag children = [.element (g.tag tag) (if isLeaf children then g.text tag children else children)]) :
    Node.rewriteList id edit ns = ns.map g.node := by
  cases ns with
  | nil => rfl
  | cons n rest =>
    rw [idsOf_cons, List.nodup_append] at hd
    rw [Node.rewriteList, List.map_cons, rewrite_eq h n hd.1 fun t cs hmem => hself t cs (List.mem_append_left _ hmem),
      rewriteList_eq h rest hd.2.1 fun t cs hmem => hself t cs (List.mem_append_right _ hmem), List.singleton_append]
end

end Only

/-- The identities stay. -/
lemma idsOf_map (g : Retouch) (ns : List Node) : idsOf (ns.map g.node) = idsOf ns := by
  unfold idsOf
  rw [elementsList_map, List.filterMap_map]
  congr 1
  funext n
  simp [g.tag?_node, Function.comp_def, g.id]

end Retouch

/-! ### A forest -/

namespace Forest

variable {f : Forest} {g : Retouch} {l m : Location}

/-- **No two elements have the same identity.** -/
def Distinct (f : Forest) : Prop := (idsOf f.trees).Nodup

instance (f : Forest) : Decidable f.Distinct := inferInstanceAs (Decidable (List.Nodup _))

mutual
lemma map_node_locations (c : Context) (n : Node) : (Dom.locations c n).map (·.node) = n.elements := by
  cases n with
  | element tag children => rw [Dom.locations, List.map_cons, Node.elements, map_node_locationsList]; rfl
  | _ => rfl

lemma map_node_locationsList (parent : Tag) (outer : Context) (before ns : List Node) :
    (locationsList parent outer before ns).map (·.node) = Node.elementsList ns := by
  cases ns with
  | nil => rfl
  | cons n rest =>
    rw [locationsList, List.map_append, Node.elementsList, map_node_locations, map_node_locationsList]
end

lemma map_node_trees (f : Forest) : f.locations.map (·.node) = Node.elementsList f.trees := by
  unfold locations
  rw [List.map_flatMap]
  induction f.trees with
  | nil => rfl
  | cons n rest ih => rw [List.flatMap_cons, map_node_locations, ih, Node.elementsList]

lemma map_id_trees (f : Forest) : f.locations.map (·.tag.id) = idsOf f.trees := by
  unfold idsOf
  rw [← map_node_trees, List.filterMap_map]
  exact (List.filterMap_eq_map (f := fun l : Location => l.tag.id) ▸ rfl)

/-- So an element is known by its identity. -/
lemma Distinct.eq (h : f.Distinct) (hl : l ∈ f.locations) (hm : m ∈ f.locations) (hid : m.tag.id = l.tag.id) :
    m = l := by
  have hnodup : (f.locations.map (·.tag.id)).Nodup := by rwa [map_id_trees]
  exact List.inj_on_of_nodup_map hnodup hm hl hid

lemma Distinct.locate? (h : f.Distinct) (hl : l ∈ f.locations) : f.locate? l.tag.id = some l := by
  have hsome : (f.locate? l.tag.id).isSome := List.find?_isSome.2 ⟨l, hl, beq_self_eq_true _⟩
  obtain ⟨m, hm⟩ := Option.isSome_iff_exists.1 hsome
  rw [hm, h.eq hl (mem_locations_of_locate? hm) (tag_id_of_locate? hm)]

/-- The forest with its elements retouched. -/
def retouch (f : Forest) (g : Retouch) : Forest := { f with trees := f.trees.map g.node }

lemma Distinct.retouch (h : f.Distinct) (g : Retouch) : (f.retouch g).Distinct := by
  unfold Distinct Forest.retouch
  rwa [g.idsOf_map]

/-- **An edit of one element** is a retouch of only that one. -/
lemma rewrite_eq_retouch {id : Id} {edit : Tag → List Node → List Node} (hd : f.Distinct) (hg : g.Only id)
    (hself : ∀ l, f.locate? id = some l → edit l.tag l.children =
      [.element (g.tag l.tag) (if isLeaf l.children then g.text l.tag l.children else l.children)]) :
    f.rewrite id edit = f.retouch g := by
  unfold rewrite Forest.retouch
  rw [hg.rewriteList_eq _ hd]
  intro tag children hmem hid
  rw [← map_node_trees] at hmem
  obtain ⟨l, hl, hnode⟩ := List.mem_map.1 hmem
  obtain ⟨rfl, rfl⟩ := Node.element.inj hnode
  exact hself l (hid ▸ hd.locate? hl)

/-- **The elements of a forest that is retouched** are those that it had, each of them retouched. -/
theorem locations_retouch (f : Forest) (g : Retouch) : (f.retouch g).locations = f.locations.map g.location := by
  unfold locations retouch
  rw [List.flatMap_map, List.map_flatMap]
  exact List.flatMap_congr fun n _ => g.locations_node .top n

/-- An element is found where it was. -/
lemma locate?_retouch (f : Forest) (g : Retouch) (id : Id) :
    (f.retouch g).locate? id = (f.locate? id).map g.location := by
  unfold locate?
  rw [locations_retouch, List.find?_map]
  congr 1
  exact congrArg (List.find? · f.locations) (funext fun l => by simp [Retouch.location, g.id])

end Forest

end PageTape.Dom
