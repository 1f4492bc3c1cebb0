import PageTape.Dom.Control
import Mathlib.Data.Option.Basic

/-!
# One element is rewritten in its place

An edit of one element leaves its place as it was.  What a place tells is its `outline`: the elements around it, and the
names of the siblings at every level; an element that is found by its identity is found at the same outline after it
was rewritten (`locate?_rewrite`).
-/

namespace PageTape.Dom

/-- The names of the elements among some nodes. -/
def namesOf (nodes : List Node) : List String := (nodes.filterMap Node.tag?).map (·.name)

lemma namesOf_cons (n : Node) (nodes : List Node) :
    namesOf (n :: nodes) = (n.tag?.map (·.name)).toList ++ namesOf nodes := by
  cases h : n.tag? <;> simp [namesOf, h]

/-- What a place tells: the elements around it from the inside out, each with the names of the elements before and after
the one that it holds. -/
def Context.outline : Context → List (Tag × List String × List String)
  | top => []
  | inside parent before after outer => (parent, namesOf before, namesOf after) :: outer.outline

/-- What an element may be rewritten to: an element of the same identity and name. -/
structure Rewriting where
  tag : Tag → Tag
  children : Tag → List Node → List Node
  id : ∀ t, (tag t).id = t.id
  name : ∀ t, (tag t).name = t.name

variable {id : Id} {g : Rewriting}

namespace Rewriting

/-- A rewriting as edits of a forest take it. -/
def edit (g : Rewriting) (tag : Tag) (children : List Node) : List Node := [.element (g.tag tag) (g.children tag children)]

/-- A node with the element of an identity rewritten. -/
def node (g : Rewriting) (id : Id) : Node → Node
  | .element tag children =>
    if tag.id == id then .element (g.tag tag) (g.children tag children)
    else .element tag (Node.rewriteList id g.edit children)
  | n => n

lemma rewrite_eq (g : Rewriting) (id : Id) (n : Node) : Node.rewrite id g.edit n = [g.node id n] := by
  cases n with
  | element tag children =>
    simp only [Node.rewrite, node]
    split <;> rfl
  | _ => rfl

lemma rewriteList_eq (g : Rewriting) (id : Id) (nodes : List Node) :
    Node.rewriteList id g.edit nodes = nodes.map (g.node id) := by
  induction nodes with
  | nil => rfl
  | cons n rest ih => rw [Node.rewriteList, rewrite_eq, ih, List.map_cons, List.singleton_append]

lemma node_element (g : Rewriting) {tag : Tag} (h : (tag.id == id) = false) (children : List Node) :
    g.node id (.element tag children) = .element tag (children.map (g.node id)) := by
  simp [node, h, rewriteList_eq]

/-- What is rewritten keeps its name. -/
lemma name_node (g : Rewriting) (id : Id) (n : Node) : (g.node id n).tag?.map (·.name) = n.tag?.map (·.name) := by
  cases n with
  | element tag children =>
    simp only [node]
    split
    · exact congrArg some (g.name tag)
    · rfl
  | _ => rfl

lemma namesOf_map (g : Rewriting) (id : Id) (nodes : List Node) : namesOf (nodes.map (g.node id)) = namesOf nodes := by
  unfold namesOf
  simp only [List.map_filterMap, List.filterMap_map, Function.comp_def, name_node]

end Rewriting

/-- An element before and after it was rewritten. -/
structure Rewritten (g : Rewriting) (l m : Location) : Prop where
  tag : m.tag = g.tag l.tag
  children : m.children = g.children l.tag l.children
  outline : m.context.outline = l.context.outline

/-! ### The element is found where it was -/

/-- The first of some locations that has an identity. -/
abbrev firstOf (id : Id) (ls : List Location) : Option Location := ls.find? fun l => l.tag.id == id

lemma rel_or {α β : Type} {R : α → β → Prop} {x x' : Option α} {y y' : Option β} (h : Option.Rel R x y)
    (h' : Option.Rel R x' y') : Option.Rel R (x.or x') (y.or y') := by
  cases h with
  | some h => exact .some h
  | none => simpa using h'

mutual
/-- Below a node. -/
lemma rel_locations (g : Rewriting) (id : Id) (c c' : Context) (h : c.outline = c'.outline) (n : Node) :
    Option.Rel (Rewritten g) (firstOf id (locations c n)) (firstOf id (locations c' (g.node id n))) := by
  cases n with
  | element tag children =>
    cases htag : tag.id == id with
    | true =>
      have hnew : ((g.tag tag).id == id) = true := by rw [g.id]; exact htag
      simp only [Rewriting.node, htag, if_true, locations, firstOf, List.find?_cons, hnew]
      exact .some ⟨rfl, rfl, h.symm⟩
    | false =>
      rw [g.node_element htag]
      simp only [locations, firstOf, List.find?_cons, htag]
      exact rel_locationsList g id tag c c' h [] [] rfl children
  | _ => exact .none

/-- Below the children of an element. -/
lemma rel_locationsList (g : Rewriting) (id : Id) (parent : Tag) (c c' : Context) (h : c.outline = c'.outline)
    (before before' : List Node) (hb : namesOf before = namesOf before') (nodes : List Node) :
    Option.Rel (Rewritten g) (firstOf id (locationsList parent c before nodes))
      (firstOf id (locationsList parent c' before' (nodes.map (g.node id)))) := by
  cases nodes with
  | nil => exact .none
  | cons n rest =>
    have hn := rel_locations g id (.inside parent before rest c) (.inside parent before' (rest.map (g.node id)) c')
      (by simp only [Context.outline, hb, h, g.namesOf_map]) n
    have hrest := rel_locationsList g id parent c c' h (n :: before) (g.node id n :: before')
      (by rw [namesOf_cons, namesOf_cons, hb, g.name_node]) rest
    rw [List.map_cons, locationsList, locationsList, firstOf, firstOf, List.find?_append, List.find?_append]
    exact rel_or hn hrest
end

namespace Forest

variable {f : Forest} {l : Location}

/-- **An element that is rewritten is found at the place where it was.** -/
theorem locate?_rewrite (g : Rewriting) (h : f.locate? id = some l) :
    ∃ m, (f.rewrite id g.edit).locate? id = some m ∧ Rewritten g l m := by
  have hrel : ∀ trees : List Node, Option.Rel (Rewritten g) (firstOf id (trees.flatMap (Dom.locations .top)))
      (firstOf id ((trees.map (g.node id)).flatMap (Dom.locations .top))) := by
    intro trees
    induction trees with
    | nil => exact .none
    | cons n rest ih =>
      rw [List.map_cons, List.flatMap_cons, List.flatMap_cons, firstOf, firstOf, List.find?_append, List.find?_append]
      exact rel_or (rel_locations g id .top .top rfl n) ih
  have hf : Option.Rel (Rewritten g) (f.locate? id) ((f.rewrite id g.edit).locate? id) := by
    have htrees := hrel f.trees
    rwa [← g.rewriteList_eq] at htrees
  rw [h] at hf
  generalize (f.rewrite id g.edit).locate? id = found at hf ⊢
  cases hf with
  | some hm => exact ⟨_, rfl, hm⟩

end Forest

end PageTape.Dom
