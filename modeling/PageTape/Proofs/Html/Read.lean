import PageTape.Proofs.Dom.Graft
import PageTape.Html.Reader

/-!
# The nodes that are read of a text

* `read_renumber` — from whatever number on the elements of a text get their identities, they are the same but for these;
* `ids_read` — the identities of the elements are just the numbers from there on, each of them given once;
* `attrs_read` — no element has an attribute twice.
-/

namespace PageTape

open Dom

namespace Dom

mutual
/-- The node with the identities of its elements moved on. -/
def Node.renumber (k : Id) : Node → Node
  | .element tag children => .element { tag with id := tag.id + k } (Node.renumberList k children)
  | .text kind value => .text kind value
  | .comment value => .comment value
  | .special kind value => .special kind value

/-- Nodes with the identities of their elements moved on. -/
def Node.renumberList (k : Id) : List Node → List Node
  | [] => []
  | n :: rest => n.renumber k :: Node.renumberList k rest
end

lemma Node.renumberList_eq (k : Id) (ns : List Node) : Node.renumberList k ns = ns.map (Node.renumber k) := by
  induction ns with
  | nil => rfl
  | cons n rest ih => rw [Node.renumberList, ih, List.map_cons]

lemma Node.tag?_renumber (k : Id) (n : Node) :
    (n.renumber k).tag? = n.tag?.map fun tag => { tag with id := tag.id + k } := by
  cases n <;> rfl

/-! ### Tags -/

/-- The tags of the elements among some nodes and below them. -/
def tagsOf (ns : List Node) : List Tag := (Node.elementsList ns).filterMap Node.tag?

lemma map_id_tagsOf (ns : List Node) : (tagsOf ns).map (·.id) = idsOf ns := by
  unfold tagsOf idsOf
  rw [List.map_filterMap]

lemma tagsOf_cons (n : Node) (ns : List Node) : tagsOf (n :: ns) = tagsOf [n] ++ tagsOf ns := by
  simp [tagsOf, Node.elementsList]

lemma tagsOf_element (tag : Tag) (children : List Node) : tagsOf [.element tag children] = tag :: tagsOf children := by
  simp [tagsOf, Node.elementsList, Node.elements, Node.tag?]

lemma tagsOf_of_tag? {n : Node} (h : n.tag? = none) : tagsOf [n] = [] := by
  cases n with
  | element => cases h
  | _ => rfl

lemma tagsOf_flatMap (ns : List Node) : tagsOf ns = ns.flatMap fun n => tagsOf [n] := by
  induction ns with
  | nil => rfl
  | cons n rest ih => rw [tagsOf_cons, List.flatMap_cons, ih]

lemma mem_tagsOf {n : Node} {ns : List Node} {t : Tag} (hn : n ∈ ns) (ht : n.tag? = some t) : t ∈ tagsOf ns := by
  rw [tagsOf_flatMap]
  refine List.mem_flatMap.2 ⟨n, hn, ?_⟩
  cases n with
  | element tag children =>
    obtain rfl : tag = t := Option.some.inj ht
    exact tagsOf_element tag children ▸ List.mem_cons_self
  | _ => cases ht

/-- To read the tags of nodes in another order makes no difference. -/
lemma tagsOf_reverse (ns : List Node) : (tagsOf ns.reverse).Perm (tagsOf ns) := by
  rw [tagsOf_flatMap, tagsOf_flatMap ns]
  exact List.Perm.flatMap_right _ (List.reverse_perm ns)

namespace Attrs

lemma map_fst_set (attrs : Attrs) (name : String) (value : AttrValue) : (attrs.set name value).map (·.1) =
    if name ∈ attrs.map (·.1) then attrs.map (·.1) else attrs.map (·.1) ++ [name] := by
  induction attrs with
  | nil => rfl
  | cons a rest ih =>
    obtain ⟨n, v⟩ := a
    unfold set
    by_cases hn : n = name
    · simp [hn]
    · rw [if_neg hn, List.map_cons, ih]
      by_cases hin : name ∈ rest.map (·.1)
      · simp only [List.map_cons, List.mem_cons, hin, or_true, if_true]
      · simp only [List.map_cons, List.mem_cons, hin, Ne.symm hn, or_false, if_false, List.cons_append]

/-- No attribute is there twice. -/
lemma nodup_ofTexts (name : String) (texts : List (String × String)) :
    ((ofTexts name texts).map (·.1)).Nodup := by
  unfold ofTexts
  have hset : ∀ (texts : List (String × String)) (attrs : Attrs), (attrs.map (·.1)).Nodup →
      ((texts.foldl (fun acc a => acc.set a.1 (valueOf name a.1 a.2)) attrs).map (·.1)).Nodup := by
    intro texts
    induction texts with
    | nil => exact fun _ h => h
    | cons a rest ih =>
      intro attrs h
      refine ih _ ?_
      rw [map_fst_set]
      split
      · exact h
      · exact List.nodup_append.2 ⟨h, List.nodup_singleton _, fun x hx y hy hxy => by simp_all⟩
  exact hset texts [] List.nodup_nil

/-- Attributes of which none is there twice are the same as themselves. -/
lemma same_self {attrs : Attrs} (h : (attrs.map (·.1)).Nodup) : same attrs attrs = true := by
  have hlookup : ∀ a ∈ attrs, attrs.lookup a.1 = some a.2 := by
    induction attrs with
    | nil => nofun
    | cons a rest ih =>
      obtain ⟨hnot, hrest⟩ := List.nodup_cons.1 h
      intro b hb
      rcases List.mem_cons.1 hb with rfl | hb
      · exact List.lookup_cons_self
      · have hne : (b.1 == a.1) = false := beq_eq_false_iff_ne.2 fun heq => hnot (List.mem_map.2 ⟨b, hb, heq⟩)
        rw [List.lookup_cons, hne]
        exact ih hrest b hb
  unfold same
  rw [Bool.and_eq_true, beq_self_eq_true, List.all_eq_true]
  exact ⟨rfl, fun a ha => by simp [hlookup a ha]⟩

end Attrs

end Dom

namespace Html

namespace Reading

variable {k : Id} {r : Reading}

/-! ### Other numbers -/

/-- A reading with the identities of its elements moved on. -/
def renumber (k : Id) (r : Reading) : Reading :=
  { r with
    stack := r.stack.map fun e => ({ e.1 with id := e.1.id + k }, e.2.map (Node.renumber k))
    top := r.top.map (Node.renumber k)
    nextId := r.nextId + k }

lemma add_renumber (r : Reading) (n : Node) : (r.renumber k).add (n.renumber k) = (r.add n).renumber k := by
  obtain ⟨stack, top, pending, nextId, awaited⟩ := r
  cases stack <;> rfl

lemma content_renumber (r : Reading) (cs : List Char) : (r.renumber k).content cs = r.content cs := by
  unfold content renumber
  simp only [List.any_map, Function.comp_def]

lemma textKind_renumber (r : Reading) : (r.renumber k).textKind = r.textKind := by
  unfold textKind renumber
  simp only [List.findSome?_map, Function.comp_def]

lemma flush_renumber (r : Reading) : (r.renumber k).flush = r.flush.renumber k := by
  unfold flush
  rw [textKind_renumber, content_renumber, show (r.renumber k).pending = r.pending from rfl]
  split
  · rfl
  · exact congrArg (fun r : Reading => { r with pending := [] }) (add_renumber r (.text r.textKind (r.content r.pending)))

lemma pop_renumber (r : Reading) : (r.renumber k).pop = r.pop.renumber k := by
  obtain ⟨stack, top, pending, nextId, awaited⟩ := r
  cases stack with
  | nil => rfl
  | cons e rest =>
    have hadd := add_renumber (k := k) ⟨rest, top, pending, nextId, awaited⟩ (.element e.1 e.2.reverse)
    rw [Node.renumber, Node.renumberList_eq, List.map_reverse] at hadd
    exact hadd

lemma popMany_renumber (count : Nat) (r : Reading) : popMany count (r.renumber k) = (popMany count r).renumber k := by
  induction count generalizing r with
  | zero => rfl
  | succ count ih => rw [popMany, pop_renumber, ih, popMany]

lemma close_renumber (r : Reading) (name : String) : (r.renumber k).close name = (r.close name).renumber k := by
  have hfind : (r.renumber k).stack.findIdx? (fun e => e.1.name == name) =
      r.stack.findIdx? fun e => e.1.name == name := by
    unfold renumber
    simp only [List.findIdx?_map, Function.comp_def]
  unfold close
  rw [hfind]
  split
  · exact popMany_renumber _ r
  · rfl

lemma special_renumber (r : Reading) (cs : List Char) {node : String → Node}
    (hnode : ∀ s, (node s).renumber k = node s) : (r.renumber k).special cs node = (r.special cs node).renumber k := by
  show (r.renumber k).flush.add (node ((r.renumber k).flush.content cs)) = _
  rw [flush_renumber, content_renumber, ← hnode, add_renumber]
  rfl

lemma token_renumber (r : Reading) (t : Token) : (r.renumber k).token t = (r.token t).renumber k := by
  cases t with
  | text value => rfl
  | start name attrs closed =>
    unfold token
    dsimp only
    rw [flush_renumber]
    have hopen : ∀ r : Reading, ({ r.renumber k with
        stack := (⟨(r.renumber k).nextId, name, Attrs.ofTexts name attrs⟩, []) :: (r.renumber k).stack
        nextId := (r.renumber k).nextId + 1 } : Reading) =
        ({ r with stack := (⟨r.nextId, name, Attrs.ofTexts name attrs⟩, []) :: r.stack, nextId := r.nextId + 1 } :
          Reading).renumber k := fun r => by
      unfold renumber
      simp only [List.map_cons, List.map_nil, Nat.add_right_comm]
    rw [hopen]
    split
    · exact pop_renumber _
    · split
      · rw [pop_renumber]
        rfl
      · rfl
  | finish name =>
    unfold token
    dsimp only
    rw [flush_renumber, close_renumber, show (r.renumber k).awaited = r.awaited from rfl]
    split <;> rfl
  | _ => exact special_renumber r _ fun _ => rfl

lemma finish_renumber (r : Reading) : (r.renumber k).finish = r.finish.renumber k := by
  unfold finish
  rw [flush_renumber, popMany_renumber]
  simp [renumber]

lemma foldl_renumber (ts : List Token) (r : Reading) :
    ts.foldl token (r.renumber k) = (ts.foldl token r).renumber k := by
  induction ts generalizing r with
  | nil => rfl
  | cons t rest ih => rw [List.foldl_cons, token_renumber, ih, List.foldl_cons]

/-! ### Each number once -/

/-- The tags of the elements that have been read. -/
def tags (r : Reading) : List Tag := tagsOf r.top ++ r.stack.flatMap fun e => e.1 :: tagsOf e.2

lemma tags_add (r : Reading) (n : Node) : (r.add n).tags.Perm (tagsOf [n] ++ r.tags) := by
  obtain ⟨stack, top, pending, nextId, awaited⟩ := r
  cases stack with
  | nil =>
    show (tagsOf (n :: top) ++ []).Perm (tagsOf [n] ++ (tagsOf top ++ []))
    rw [tagsOf_cons, List.append_nil, List.append_nil]
  | cons e rest =>
    show (tagsOf top ++ (e.1 :: tagsOf (n :: e.2) ++ rest.flatMap _)).Perm _
    rw [tagsOf_cons]
    refine List.perm_iff_count.2 fun a => ?_
    simp only [tags, List.flatMap_cons, List.count_append, List.count_cons]
    omega

lemma tags_flush (r : Reading) : r.flush.tags.Perm r.tags := by
  unfold flush
  split
  · exact .refl _
  · exact tags_add r _

lemma tags_pop (r : Reading) : r.pop.tags.Perm r.tags := by
  obtain ⟨stack, top, pending, nextId, awaited⟩ := r
  cases stack with
  | nil => exact .refl _
  | cons e rest =>
    have hadd := tags_add ⟨rest, top, pending, nextId, awaited⟩ (.element e.1 e.2.reverse)
    rw [tagsOf_element] at hadd
    have hreverse := List.perm_iff_count.1 (tagsOf_reverse e.2)
    refine hadd.trans (List.perm_iff_count.2 fun a => ?_)
    have := hreverse a
    simp only [tags, List.flatMap_cons, List.count_append, List.count_cons]
    omega

lemma tags_popMany (count : Nat) (r : Reading) : (popMany count r).tags.Perm r.tags := by
  induction count generalizing r with
  | zero => exact .refl _
  | succ count ih => exact (ih r.pop).trans (tags_pop r)

lemma tags_close (r : Reading) (name : String) : (r.close name).tags.Perm r.tags := by
  unfold close
  split
  · exact tags_popMany _ r
  · exact .refl _

lemma tags_special (r : Reading) (cs : List Char) {node : String → Node} (hnode : ∀ s, (node s).tag? = none) :
    (r.special cs node).tags.Perm r.tags := by
  refine (tags_add r.flush _).trans ?_
  rw [tagsOf_of_tag? (hnode _)]
  exact tags_flush r

lemma nextId_add (r : Reading) (n : Node) : (r.add n).nextId = r.nextId := by
  unfold add
  split <;> rfl

lemma nextId_flush (r : Reading) : r.flush.nextId = r.nextId := by
  unfold flush
  split
  · rfl
  · exact nextId_add r _

lemma nextId_pop (r : Reading) : r.pop.nextId = r.nextId := by
  unfold pop
  split
  · exact nextId_add _ _
  · rfl

lemma nextId_popMany (count : Nat) (r : Reading) : (popMany count r).nextId = r.nextId := by
  induction count generalizing r with
  | zero => rfl
  | succ count ih => exact (ih r.pop).trans (nextId_pop r)

lemma nextId_close (r : Reading) (name : String) : (r.close name).nextId = r.nextId := by
  unfold close
  split
  · exact nextId_popMany _ r
  · rfl

/-- Just the numbers from one on have been given, each of them once, and no element has an attribute twice. -/
structure Counted (k count : Id) (r : Reading) : Prop where
  next : r.nextId = k + count
  ids : (r.tags.map (·.id)).Perm (List.range' k count)
  attrs : ∀ t ∈ r.tags, (t.attrs.map (·.1)).Nodup

variable {count : Nat}

/-- No element begins. -/
lemma Counted.same {r' : Reading} (h : r.Counted k count) (hnext : r'.nextId = r.nextId) (htags : r'.tags.Perm r.tags) :
    r'.Counted k count :=
  ⟨hnext.trans h.next, (htags.map _).trans h.ids, fun t ht => h.attrs t (htags.mem_iff.1 ht)⟩

/-- An element begins. -/
lemma Counted.begin (h : r.Counted k count) (name : String) (texts : List (String × String)) :
    Counted k (count + 1) { r with
      stack := (⟨r.nextId, name, Attrs.ofTexts name texts⟩, []) :: r.stack
      nextId := r.nextId + 1 } := by
  have htags : List.Perm (tags { r with
      stack := (⟨r.nextId, name, Attrs.ofTexts name texts⟩, []) :: r.stack
      nextId := r.nextId + 1 }) (⟨r.nextId, name, Attrs.ofTexts name texts⟩ :: r.tags) := by
    refine List.perm_iff_count.2 fun a => ?_
    simp only [tags, List.flatMap_cons, List.count_append, List.count_cons, List.count_nil,
      show tagsOf [] = [] from rfl]
    omega
  refine ⟨by rw [h.next, Nat.add_assoc], ?_, fun t ht => ?_⟩
  · rw [List.range'_concat, Nat.one_mul, ← h.next]
    exact (htags.map _).trans ((h.ids.cons _).trans (List.perm_append_singleton _ _).symm)
  · rcases List.mem_cons.1 (htags.mem_iff.1 ht) with rfl | ht
    · exact Attrs.nodup_ofTexts name texts
    · exact h.attrs t ht

lemma Counted.token (h : r.Counted k count) (t : Token) : ∃ count', (r.token t).Counted k count' := by
  cases t with
  | text value => exact ⟨count, h.same rfl (.refl _)⟩
  | start name attrs closed =>
    have hopen := (h.same (nextId_flush r) (tags_flush r)).begin name attrs
    refine ⟨count + 1, ?_⟩
    unfold Reading.token
    dsimp only
    split
    · exact hopen.same (nextId_pop _) (tags_pop _)
    · split
      · exact hopen.same (nextId_pop _) (tags_pop _)
      · exact hopen
  | finish name =>
    refine ⟨count, ?_⟩
    unfold Reading.token
    dsimp only
    split
    · exact h.same rfl (.refl _)
    · exact h.same ((nextId_close _ _).trans (nextId_flush r)) ((tags_close _ _).trans (tags_flush r))
  | _ => exact ⟨count, h.same ((nextId_add _ _).trans (nextId_flush r)) (tags_special r _ fun _ => rfl)⟩

lemma Counted.finish (h : r.Counted k count) : r.finish.Counted k count :=
  h.same ((nextId_popMany _ _).trans (nextId_flush r)) ((tags_popMany _ _).trans (tags_flush r))

lemma Counted.foldl (h : r.Counted k count) (ts : List Token) : ∃ count', (ts.foldl Reading.token r).Counted k count' := by
  induction ts generalizing r count with
  | nil => exact ⟨count, h⟩
  | cons t rest ih =>
    obtain ⟨count', h'⟩ := h.token t
    exact ih h'

end Reading

/-- **The elements are the same from whatever number on** they get their identities. -/
theorem read_renumber (k : Id) (s : String) : (read k s).1 = (read 0 s).1.map (Node.renumber k) := by
  have hfrom : ({ nextId := k } : Reading) = Reading.renumber k { nextId := 0 } := by simp [Reading.renumber]
  unfold read
  dsimp only
  rw [hfrom, Reading.foldl_renumber, Reading.finish_renumber]
  exact List.map_reverse.symm

/-- All tags that have been read are counted. -/
lemma exists_counted (k : Id) (s : String) : ∃ r : Reading, ∃ count, r.Counted k count ∧ (read k s).2 = r.nextId ∧
    (tagsOf (read k s).1).Perm (tagsOf r.top) := by
  have hstart : Reading.Counted k 0 { nextId := k } := ⟨rfl, .refl _, nofun⟩
  obtain ⟨count, hcounted⟩ := hstart.foldl (tokens s)
  exact ⟨_, count, hcounted.finish, rfl, tagsOf_reverse _⟩

/-- **Each number from there on is given once.** -/
theorem ids_read (k : Id) (s : String) : k ≤ (read k s).2 ∧ (idsOf (read k s).1).Nodup ∧
    ∀ i ∈ idsOf (read k s).1, k ≤ i ∧ i < (read k s).2 := by
  obtain ⟨r, count, hcounted, hnext, htop⟩ := exists_counted k s
  have hids : (idsOf (read k s).1).Perm ((tagsOf r.top).map (·.id)) := map_id_tagsOf (read k s).1 ▸ htop.map _
  have hrange := hcounted.ids
  rw [Reading.tags, List.map_append] at hrange
  obtain ⟨hnodup, -⟩ := List.nodup_append.1 (hrange.nodup_iff.2 List.nodup_range')
  rw [hnext, hcounted.next]
  refine ⟨Nat.le_add_right k count, hids.nodup_iff.2 hnodup, fun i hi => ?_⟩
  exact List.mem_range'_1.1 (hrange.mem_iff.1 (List.mem_append_left _ (hids.mem_iff.1 hi)))

/-- **No element has an attribute twice.** -/
theorem attrs_read (k : Id) (s : String) : ∀ t ∈ tagsOf (read k s).1, (t.attrs.map (·.1)).Nodup := by
  obtain ⟨r, count, hcounted, -, htop⟩ := exists_counted k s
  exact fun t ht => hcounted.attrs t (List.mem_append_left _ (htop.mem_iff.1 ht))

end Html

end PageTape
