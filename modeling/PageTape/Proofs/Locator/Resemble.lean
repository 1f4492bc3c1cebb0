import PageTape.Proofs.Locator.Trail

/-!
# What the place of an element selects

An element is selected by the place of another one if it resembles its trail: it answers to the first element of it,
its parent to the second one, and so on (`matches_place`).  An element resembles its own trail (`isPlacedAs_self`), and
among the children of one parent it is the only one that answers to itself (`eq_of_answers`).
-/

namespace PageTape.Locator

open Dom Css

variable {l m p : Location} {ts : List Location}

/-- An element has what is asked of one element of a trail: its id, or else its name and its position. -/
def Answers (l m : Location) : Prop :=
  if l.tag.ident.isEmpty then m.tag.name = l.tag.name ∧ ∀ k, position? l = some k → m.sameBefore + 1 = k
  else m.tag.ident = l.tag.ident

/-- An element has what is asked of the first element of a trail, its parent what is asked of the second one, and so
on. -/
def Resembles : List Location → Location → Prop
  | [], _ => True
  | [l], m => Answers l m
  | l :: l' :: rest, m => Answers l m ∧ ∃ p, m.parent? = some p ∧ Resembles (l' :: rest) p

lemma Resembles.answers (h : Resembles (l :: ts) m) : Answers l m := by
  cases ts with
  | nil => exact h
  | cons l' ts => exact h.1

/-- An element has all that the place of an element tells of it.  A body is only told by its name. -/
def IsPlacedAs (l m : Location) : Prop :=
  match trail l with
  | [] => m.tag.name = l.tag.name
  | t :: ts => Resembles (t :: ts) m

/-! ### What is selected -/

lemma holds_questions (hl : l.Writable) (hm : m.IsLower) : allHold (questions l) m = true ↔ Answers l m := by
  have hname := holds_name hm.tag.name hl.name
  unfold questions Answers
  split
  · rw [hl.lowerName]
    cases position? l with
    | none => simp [allHold, hname]
    | some k => simp [allHold, hname, holds_nth hm.tag.name hm.siblings k]
  · simp [allHold, holds_ident hm.tag]

lemma matches_chain (hts : ts ≠ []) (hw : ∀ l ∈ ts, l.Writable) (hm : m.LowerPath) :
    (chain ts).matches m = true ↔ Resembles ts m := by
  induction ts generalizing m with
  | nil => exact absurd rfl hts
  | cons l rest ih =>
    obtain ⟨hl, hrest⟩ := List.forall_mem_cons.1 hw
    have hquestions := holds_questions hl (hm m List.mem_cons_self)
    cases rest with
    | nil => rwa [chain, Selector.matches, Resembles]
    | cons l' rest =>
      have hparent : ((Combinator.child.places m).any fun p => (chain (l' :: rest)).matches p) = true ↔
          ∃ p, m.parent? = some p ∧ Resembles (l' :: rest) p := by
        rw [List.any_eq_true]
        refine exists_congr fun p => ?_
        rw [Combinator.places, Option.mem_toList]
        exact and_congr_right fun hp => ih (List.cons_ne_nil l' rest) hrest (hm.parent hp)
      rw [chain, Selector.matches, Bool.and_eq_true, hquestions, hparent, Resembles]

/-- **The place of an element selects** those that have all that it tells. -/
theorem matches_place (hl : l.tag.isDocument = false) (h : l.WritablePath) (hm : m.LowerPath) :
    (place l).matches m = true ↔ IsPlacedAs l m := by
  have hw := trail_writable h
  unfold place IsPlacedAs
  cases htrail : trail l with
  | nil =>
    have hself := h.writable List.mem_cons_self hl
    have hname := holds_name (hm m List.mem_cons_self).tag.name hself.name
    show (Selector.compound [.name none l.tag.lowerName]).matches m = true ↔ _
    simp [Selector.matches, allHold, hself.lowerName, hname]
  | cons t ts => exact matches_chain (List.cons_ne_nil t ts) (htrail ▸ hw) hm

/-! ### The element itself -/

lemma position?_eq (l : Location) : position? l = match l.parent? with
    | none => none
    | some p => if p.tag.isDocument || l.sameBefore + l.sameAfter == 0 then none else some (l.sameBefore + 1) := by
  obtain ⟨tag, children, context⟩ := l
  cases context <;> rfl

lemma answers_self (l : Location) : Answers l l := by
  unfold Answers
  split
  · refine ⟨rfl, fun k hk => ?_⟩
    rw [position?_eq] at hk
    split at hk
    · cases hk
    · split at hk
      · cases hk
      · exact Option.some.inj hk
  · rfl

/-- An element of which a trail tells no more is its own whole trail; else the trail goes on with its parent's. -/
lemma trail_eq (l : Location) : trail l =
    if l.tag.isDocument || l.tag.lowerName == "body" then []
    else if l.tag.ident.isEmpty then l :: (l.parent?.map trail).getD []
    else [l] := by
  have hrest : trailFrom l.ancestors = (l.parent?.map trail).getD [] := by
    rw [Location.ancestors_eq]
    cases l.parent? <;> rfl
  unfold trail Location.outward
  rw [trailFrom, hrest]
  rfl

/-- An element resembles its own trail. -/
lemma resembles_self (l : Location) : Resembles (trail l) l := by
  induction l using Location.outside_in with
  | top l hl =>
    rw [trail_eq, hl]
    split_ifs
    · trivial
    · exact answers_self l
    · exact answers_self l
  | child l p hp ih =>
    rw [trail_eq, hp]
    split_ifs
    · trivial
    · show Resembles (l :: trail p) l
      cases htrail : trail p with
      | nil => exact answers_self l
      | cons t ts => exact ⟨answers_self l, p, hp, htrail ▸ ih⟩
    · exact answers_self l

/-- **An element has all that its place tells.** -/
theorem isPlacedAs_self (l : Location) : IsPlacedAs l l := by
  have hself := resembles_self l
  unfold IsPlacedAs
  split
  · rfl
  · rename_i t ts htrail
    rwa [htrail] at hself

/-! ### Other elements -/

/-- A child of an element is the only one that answers to itself. -/
theorem eq_of_answers (hm : m.parent? = some p) (hl : l.parent? = some p) (hp : p.tag.isDocument = false)
    (hident : l.tag.ident.isEmpty = true) (h : Answers l m) : m = l := by
  rw [Answers, if_pos hident, position?_eq, hl] at h
  obtain ⟨hname, hposition⟩ := h
  by_cases halone : l.sameBefore + l.sameAfter = 0
  · exact Location.eq_of_alone hm hl hname halone
  · have hcount : (l.sameBefore + l.sameAfter == 0) = false := beq_eq_false_iff_ne.2 halone
    have hbefore := hposition (l.sameBefore + 1) (by dsimp only; rw [hp, hcount]; rfl)
    exact Location.eq_of_sameBefore hm hl hname (by omega)

/-- The document answers to no element. -/
lemma not_answers_document (hl : l.Writable) (hm : m.IsDocument) : ¬ Answers l m := by
  unfold Answers
  split
  · rintro ⟨hname, -⟩
    have hplain := hl.name
    rw [← hname, hm.tag] at hplain
    exact absurd hplain (by decide)
  · rename_i hident
    intro heq
    rw [← heq, hm.tag] at hident
    exact hident rfl

end PageTape.Locator
