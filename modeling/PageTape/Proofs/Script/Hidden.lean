import PageTape.Proofs.Script.Frames

/-!
# Steps that are not asked for, and the trace that they leave

A scroll or a hover that is not asked for is not written, but it is still the step before the next one: the pause before
a step is the time since the step just before it, written or not, and only a step with no other before it can be the
opening navigation.  So a script need not be the one of the same steps without them.  `LeavesNoTrace` says where it is:
each step that may be written is told the same of its neighbour as it would be of the last one left.

What is told of steps is their `outline`, which is the same without the hidden steps exactly where these leave no trace
(`outline_kept_iff`).  The lines of a script are the `weave` of its outline, and the outline can be read off them again
where pauses stand out among the lines (`Dialect.PausesStandOut.leavesNoTrace`).
-/

namespace PageTape.Script

open RecordingFile (Material)

variable {o : Options} {chosen : Step → Bool} {previous : Option Step} {first filled : Bool} {s : Step}
  {steps : List Step}

/-! ### What is told of a step -/

/-- A scroll or a hover that is not asked for. -/
def isHidden (o : Options) (s : Step) : Bool :=
  (s.kind == .scroll && !o.includeScrollSteps) || (s.kind == .hover && !o.includeHoverSteps)

/-- The steps without those that are chosen among the hidden ones. -/
def kept (o : Options) (chosen : Step → Bool) (steps : List Step) : List Step :=
  steps.filter fun s => !(isHidden o s && chosen s)

/-- The pause before a step: the time since the step before it, if that is long enough. -/
def pauseFor? (o : Options) (previous : Option Step) (s : Step) : Option Int :=
  (previous.map fun p => s.timestamp - p.timestamp).filter (o.minWaitThreshold ≤ ·)

/-- What is told of a step behind another: nothing, or that it is written, with or without a pause before it. -/
def showing? (o : Options) (previous : Option Step) (s : Step) : Option (Option Int) :=
  if isSuppressed o previous.isNone s then none else some (pauseFor? o previous s)

/-- The steps that are written, each with the pause before it. -/
def outline (o : Options) (previous : Option Step) : List Step → List (Option Int × Step)
  | [] => []
  | s :: rest => ((showing? o previous s).map (·, s)).toList ++ outline o (some s) rest

/-- **Hidden steps leave no trace** if of every other step the same is told behind its neighbour as behind the last step
that is kept before it. -/
def LeavesNoTrace (o : Options) (chosen : Step → Bool) (steps : List Step) : Prop :=
  ∀ before s after, steps = before ++ s :: after → isHidden o s = false →
    showing? o before.getLast? s = showing? o (kept o chosen before).getLast? s

lemma isSuppressed_eq (o : Options) (first : Bool) (s : Step) : isSuppressed o first s =
    (isHidden o s || (first && s.kind == .navigate && (nonempty? o.pageUrl).isSome)) := rfl

lemma showing?_hidden (h : isHidden o s = true) : showing? o previous s = none := by
  rw [showing?, isSuppressed_eq, h]
  rfl

lemma kept_cons : kept o chosen (s :: steps) =
    if isHidden o s && chosen s then kept o chosen steps else s :: kept o chosen steps := by
  rw [kept, List.filter_cons]
  cases isHidden o s && chosen s <;> rfl

/-! ### Which steps are written -/

lemma map_snd_outline : (outline o previous steps).map Prod.snd = shown o previous.isNone steps := by
  induction steps generalizing previous with
  | nil => rfl
  | cons s rest ih =>
    rw [outline, shown, List.map_append, ih, showing?]
    split <;> rfl

/-- Behind another step all are written that are not hidden. -/
lemma shown_false : shown o false steps = steps.filter fun s => !isHidden o s := by
  induction steps with
  | nil => rfl
  | cons s rest ih =>
    rw [shown, ih, isSuppressed_eq, List.filter_cons]
    cases isHidden o s <;> rfl

lemma filter_kept : (kept o chosen steps).filter (fun s => !isHidden o s) = steps.filter fun s => !isHidden o s := by
  rw [kept, List.filter_filter]
  congr 1
  funext s
  cases isHidden o s <;> rfl

lemma length_outline_kept {p q : Step} :
    (outline o (some p) steps).length = (outline o (some q) (kept o chosen steps)).length := by
  have hshown : ∀ (r : Step) (l : List Step), (outline o (some r) l).length = (shown o false l).length := by
    intro r l
    rw [← List.length_map Prod.snd, map_snd_outline]
    rfl
  rw [hshown, hshown, shown_false, shown_false, filter_kept]

/-- The steps written at the beginning are all that are written behind another step, but for an opening navigation. -/
lemma shown_true : shown o false steps = shown o true steps ∨
    ∃ s, s.kind = .navigate ∧ (nonempty? o.pageUrl).isSome = true ∧ shown o false steps = s :: shown o true steps := by
  cases steps with
  | nil => exact .inl rfl
  | cons s rest =>
    rw [shown, shown, isSuppressed_eq, isSuppressed_eq]
    cases hhidden : isHidden o s with
    | true => exact .inl rfl
    | false =>
      cases hopening : s.kind == .navigate && (nonempty? o.pageUrl).isSome with
      | false => exact .inl (by simp [hopening])
      | true =>
        obtain ⟨hkind, hurl⟩ := (Bool.and_eq_true _ _).mp hopening
        exact .inr ⟨s, by simpa using hkind, hurl, by simp [hkind, hurl]⟩

/-- Without the chosen steps the same are written, but for a navigation that has become the opening one. -/
lemma shown_kept (o : Options) (chosen : Step → Bool) (steps : List Step) :
    shown o true steps = shown o true (kept o chosen steps) ∨ ∃ s, s.kind = .navigate ∧
      (nonempty? o.pageUrl).isSome = true ∧ shown o true steps = s :: shown o true (kept o chosen steps) := by
  have hrest : ∀ l, shown o false l = shown o false (kept o chosen l) := fun l => by
    rw [shown_false, shown_false, filter_kept]
  cases steps with
  | nil => exact .inl rfl
  | cons s rest =>
    rw [kept_cons]
    split
    · rename_i hremoved
      have hhidden := ((Bool.and_eq_true _ _).mp hremoved).1
      have hskip : shown o true (s :: rest) = shown o false (kept o chosen rest) := by
        rw [shown, isSuppressed_eq, hhidden, ← hrest rest]
        rfl
      rw [hskip]
      exact shown_true
    · left
      rw [shown, shown, hrest rest]

/-- A hidden step is no action. -/
lemma filterMap_kept : (kept o chosen steps).filterMap Step.action? = steps.filterMap Step.action? := by
  induction steps with
  | nil => rfl
  | cons s rest ih =>
    rw [kept_cons]
    split
    · rename_i hremoved
      have hkind : s.kind = .scroll ∨ s.kind = .hover := by
        have hhidden := ((Bool.and_eq_true _ _).mp hremoved).1
        simp only [isHidden, Bool.or_eq_true, Bool.and_eq_true, beq_iff_eq] at hhidden
        exact hhidden.imp And.left And.left
      have hnone : s.action? = none := by rcases hkind with hkind | hkind <;> simp [Step.action?, hkind, StepKind.action?]
      rw [ih, List.filterMap_cons_none hnone]
    · rw [List.filterMap_cons, List.filterMap_cons, ih]

/-! ### The outline without the chosen steps -/

lemma forall_split_cons {α : Type} {P : List α → α → Prop} {a : α} {as : List α} :
    (∀ before x after, a :: as = before ++ x :: after → P before x) ↔
      P [] a ∧ ∀ before x after, as = before ++ x :: after → P (a :: before) x := by
  constructor
  · intro h
    exact ⟨h [] a as rfl, fun before x after heq => h (a :: before) x after (by rw [heq]; rfl)⟩
  · rintro ⟨hnil, hcons⟩ before x after heq
    cases before with
    | nil =>
      obtain ⟨rfl, -⟩ := List.cons.inj heq
      exact hnil
    | cons b before =>
      obtain ⟨rfl, rfl⟩ := List.cons.inj heq
      exact hcons before x after rfl

lemma getLast?_cons_or (s : Step) (before : List Step) (p : Option Step) :
    (s :: before).getLast?.or p = before.getLast?.or (some s) := by
  rw [List.getLast?_cons]
  cases before.getLast? <;> rfl

/-- The outlines behind two steps are the same exactly where the same is told of each step. -/
lemma outline_kept_iff_behind (o : Options) (chosen : Step → Bool) (p q : Option Step) (steps : List Step) :
    outline o p steps = outline o q (kept o chosen steps) ↔
      ∀ before s after, steps = before ++ s :: after → isHidden o s = false →
        showing? o (before.getLast?.or p) s = showing? o ((kept o chosen before).getLast?.or q) s := by
  induction steps generalizing p q with
  | nil => simp [outline, kept]
  | cons s rest ih =>
    rw [forall_split_cons (P := fun before x => isHidden o x = false →
      showing? o (before.getLast?.or p) x = showing? o ((kept o chosen before).getLast?.or q) x)]
    simp only [getLast?_cons_or]
    rw [kept_cons]
    split
    · rename_i hremoved
      have hhidden := ((Bool.and_eq_true _ _).mp hremoved).1
      have hskip : outline o p (s :: rest) = outline o (some s) rest := by
        rw [outline, showing?_hidden hhidden]
        rfl
      have hkept : ∀ before, kept o chosen (s :: before) = kept o chosen before := fun before => by
        rw [kept_cons, if_pos hremoved]
      simp only [hskip, hkept, ih (some s) q, hhidden, Bool.true_eq_false, false_implies, true_and]
    · rename_i hremains
      have hkept : ∀ before, kept o chosen (s :: before) = s :: kept o chosen before := fun before => by
        rw [kept_cons, if_neg hremains]
      simp only [hkept, getLast?_cons_or, ← ih (some s) (some s)]
      rw [outline, outline]
      constructor
      · intro heq
        obtain ⟨htold, hrest⟩ := List.append_inj' heq length_outline_kept
        refine ⟨fun _ => ?_, hrest⟩
        show showing? o p s = showing? o q s
        cases hp : showing? o p s <;> cases hq : showing? o q s <;> simp_all
      · rintro ⟨htold, hrest⟩
        rw [hrest]
        congr 3
        cases hhidden : isHidden o s with
        | true => rw [showing?_hidden hhidden, showing?_hidden hhidden]
        | false => exact htold hhidden

/-- The outlines are the same exactly where the hidden steps leave no trace. -/
lemma outline_kept_iff (o : Options) (chosen : Step → Bool) (steps : List Step) :
    outline o none steps = outline o none (kept o chosen steps) ↔ LeavesNoTrace o chosen steps := by
  rw [outline_kept_iff_behind]
  simp only [Option.or_none, LeavesNoTrace]

/-! ### The lines of an outline -/

/-- The lines of a pause, if there is one. -/
def Dialect.pauseLines (d : Dialect) (pause : Option Int) : List Line :=
  match pause with
  | some delta => d.indented (d.pause delta)
  | none => []

/-- Where the part that submits begins. -/
def Dialect.divider (d : Dialect) (filled : Bool) (s : Step) : List Line :=
  if (s.kind == .click || s.kind == .submit) && filled then [d.remark "Submit"] else []

/-- A field has been filled since the last submission, behind a step. -/
def filledAfter (filled : Bool) (s : Step) : Bool :=
  if (s.kind == .click || s.kind == .submit) && filled then false else filled || s.kind == .fill

/-- **The lines of an outline**. -/
def Dialect.weave (d : Dialect) (o : Options) (filled : Bool) : List (Option Int × Step) → List Line
  | [] => []
  | (pause, s) :: rest =>
    d.pauseLines pause ++ (d.divider filled s ++ d.stepLines o s ++ d.weave o (filledAfter filled s) rest)

variable {d : Dialect} {xs ys : List (Option Int × Step)}

lemma pauseBefore_eq (d : Dialect) (o : Options) (previous : Option Step) (s : Step) :
    d.pauseBefore o previous s = d.pauseLines (pauseFor? o previous s) := by
  unfold Dialect.pauseBefore pauseFor?
  cases previous with
  | none => rfl
  | some p =>
    dsimp only [Option.map_some]
    rw [Option.filter_some]
    by_cases hlong : o.minWaitThreshold ≤ s.timestamp - p.timestamp
    · simp [hlong, Dialect.pauseLines]
    · simp [hlong, Dialect.pauseLines]

/-- The lines of steps are those of their outline. -/
lemma stepsFrom_eq_weave (d : Dialect) (o : Options) (previous : Option Step) (filled : Bool) (steps : List Step) :
    d.stepsFrom o previous filled steps = d.weave o filled (outline o previous steps) := by
  induction steps generalizing previous filled with
  | nil => rfl
  | cons s rest ih =>
    rw [Dialect.stepsFrom, outline, showing?]
    split
    · exact ih (some s) filled
    · rw [pauseBefore_eq]
      simp only [ih, Option.map_some, Option.toList_some, List.singleton_append, Dialect.weave, List.append_assoc]
      rfl

/-- A script is the same without hidden steps that leave no trace. -/
lemma stepsScript_kept (d : Dialect) (h : LeavesNoTrace o chosen steps) :
    d.stepsScript o (kept o chosen steps) = d.stepsScript o steps := by
  rw [Dialect.stepsScript, Dialect.stepsScript, filterMap_kept, Dialect.stepsBody, Dialect.stepsBody, stepsFrom_eq_weave,
    stepsFrom_eq_weave, (outline_kept_iff o chosen steps).2 h]

/-! ### Pauses among the lines -/

variable {γ : Type} {f : Line → γ} {isPause : γ → Bool}

lemma map_weave_cons (f : Line → γ) (d : Dialect) (o : Options) (filled : Bool) (pause : Option Int) (s : Step) :
    (d.weave o filled ((pause, s) :: xs)).map f = (d.pauseLines pause).map f ++
      ((d.divider filled s ++ d.stepLines o s).map f ++ (d.weave o (filledAfter filled s) xs).map f) := by
  rw [Dialect.weave, List.map_append, List.map_append]

/-- **Pauses stand out** among the lines of a dialect if no line of a step looks like one and they tell their time.  A body
without a statement may be filled up with some lines. -/
structure Dialect.PausesStandOut (d : Dialect) (f : Line → γ) (isPause : γ → Bool) (spare : List Line) : Prop where
  pause : ∀ delta, ∀ l ∈ d.indented (d.pause delta), isPause (f l) = true
  pause_ne_nil : ∀ delta, d.indented (d.pause delta) ≠ []
  pause_inj : ∀ delta delta', (d.indented (d.pause delta)).map f = (d.indented (d.pause delta')).map f → delta = delta'
  step : ∀ o s, ∀ l ∈ d.stepLines o s, isPause (f l) = false
  step_ne_nil : ∀ o s, d.stepLines o s ≠ []
  submit : isPause (f (d.remark "Submit")) = false
  spare_step : ∀ l ∈ spare, isPause (f l) = false
  navigate : ∀ url, Line.isStatement ⟨d.margin, d.navigate url⟩ = true
  frames : d.Frames spare

namespace Dialect.PausesStandOut

variable {spare : List Line} (h : d.PausesStandOut f isPause spare)
include h

lemma divider_step {c : γ} (hc : c ∈ (d.divider filled s ++ d.stepLines o s).map f) :
    isPause c = false := by
  obtain ⟨l, hl, rfl⟩ := List.mem_map.1 hc
  rcases List.mem_append.1 hl with hl | hl
  · unfold Dialect.divider at hl
    split at hl
    · rw [List.mem_singleton.1 hl]
      exact h.submit
    · cases hl
  · exact h.step o s l hl

lemma pauseLines_all {pause : Option Int} : ∀ c ∈ (d.pauseLines pause).map f, isPause c = true := by
  intro c hc
  obtain ⟨l, hl, rfl⟩ := List.mem_map.1 hc
  cases pause with
  | none => cases hl
  | some delta => exact h.pause delta l hl

lemma pauseLines_inj {a b : Option Int} (heq : (d.pauseLines a).map f = (d.pauseLines b).map f) : a = b := by
  cases a with
  | none =>
    cases b with
    | none => rfl
    | some delta => exact absurd (List.map_eq_nil_iff.1 heq.symm) (h.pause_ne_nil delta)
  | some delta =>
    cases b with
    | none => exact absurd (List.map_eq_nil_iff.1 heq) (h.pause_ne_nil delta)
    | some delta' => rw [h.pause_inj delta delta' heq]

/-- Pauses at the head of lines can be told from what follows. -/
lemma takeWhile_pause {pause : Option Int} {filled : Bool} {s : Step} {rest : List γ} :
    ((d.pauseLines pause).map f ++ ((d.divider filled s ++ d.stepLines o s).map f ++ rest)).takeWhile isPause =
      (d.pauseLines pause).map f := by
  have hstep : d.divider filled s ++ d.stepLines o s ≠ [] := by
    simp [h.step_ne_nil]
  obtain ⟨l, lines, heq⟩ := List.exists_cons_of_ne_nil hstep
  have hmem : f l ∈ (d.divider filled s ++ d.stepLines o s).map f := by simp [heq]
  have hhead : isPause (f l) = false := h.divider_step hmem
  rw [List.takeWhile_append_of_pos h.pauseLines_all, heq, List.map_cons, List.cons_append,
    List.takeWhile_cons_of_neg (by simp [hhead]), List.append_nil]

/-- The pauses of the same steps can be read off their lines. -/
lemma weave_inj {filled : Bool} (hsteps : xs.map Prod.snd = ys.map Prod.snd)
    (heq : (d.weave o filled xs).map f = (d.weave o filled ys).map f) : xs = ys := by
  induction xs generalizing ys filled with
  | nil => exact (List.map_eq_nil_iff.1 hsteps.symm).symm
  | cons x xs ih =>
    obtain ⟨pause, s⟩ := x
    cases ys with
    | nil => cases hsteps
    | cons y ys =>
      obtain ⟨pause', s'⟩ := y
      obtain ⟨rfl, hrest⟩ : s = s' ∧ xs.map Prod.snd = ys.map Prod.snd := by simpa using hsteps
      rw [map_weave_cons, map_weave_cons] at heq
      have hpauses : (d.pauseLines pause).map f = (d.pauseLines pause').map f := by
        have htake := congrArg (List.takeWhile isPause) heq
        rwa [h.takeWhile_pause, h.takeWhile_pause] at htake
      obtain rfl := h.pauseLines_inj hpauses
      have hlines := List.append_cancel_left (List.append_cancel_left heq)
      rw [ih hrest hlines]

/-- Without the pauses there are the lines of the steps. -/
lemma filter_weave {filled : Bool} : ((d.weave o filled xs).map f).filter (fun c => !isPause c) =
    (d.weave o filled (xs.map fun x => (none, x.2))).map f := by
  induction xs generalizing filled with
  | nil => rfl
  | cons x xs ih =>
    obtain ⟨pause, s⟩ := x
    have hpause : ((d.pauseLines pause).map f).filter (fun c => !isPause c) = [] := by
      rw [List.filter_eq_nil_iff]
      intro c hc
      simp [h.pauseLines_all c hc]
    have hstep : ((d.divider filled s ++ d.stepLines o s).map f).filter (fun c => !isPause c) =
        (d.divider filled s ++ d.stepLines o s).map f := by
      rw [List.filter_eq_self]
      intro c hc
      simp [h.divider_step hc]
    rw [map_weave_cons, List.filter_append, List.filter_append, hpause, hstep, ih, List.map_cons, map_weave_cons]
    rfl

/-- The lines of steps without a navigation that opens them are fewer. -/
lemma length_weave_navigate (o : Options) (filled : Bool) (xs : List (Option Int × Step)) (hs : s.kind = .navigate) :
    (d.weave o filled xs).length < (d.weave o filled ((none, s) :: xs)).length := by
  have hfilled : filledAfter filled s = filled := by simp [filledAfter, hs]
  have hpos : 0 < (d.stepLines o s).length := List.length_pos_iff.2 (h.step_ne_nil o s)
  rw [Dialect.weave, hfilled]
  simp only [List.length_append]
  omega

/-- A script that opens a page holds a statement. -/
lemma stepsBody_statement (hurl : (nonempty? o.pageUrl).isSome = true) :
    (d.stepsBody o steps).any Line.isStatement = true := by
  obtain ⟨url, hurl⟩ := Option.isSome_iff_exists.1 hurl
  simp [Dialect.stepsBody, Dialect.opening, hurl, Dialect.indented, h.navigate]

/-- The lines of a body that are no pauses: those of the steps that are written, and what stands around them. -/
lemma filter_stepsBody : ((d.stepsBody o steps).map f).filter (fun c => !isPause c) =
    ((d.opening o).map f).filter (fun c => !isPause c) ++
      (d.weave o false ((shown o true steps).map fun s => (none, s))).map f ++
        ((d.assertionBlock o).map f).filter fun c => !isPause c := by
  have hshown : (outline o none steps).map Prod.snd = shown o true steps := map_snd_outline
  have hsteps : (outline o none steps).map (fun x => ((none : Option Int), x.2)) =
      (shown o true steps).map fun s => (none, s) := by
    rw [← hshown, List.map_map]
    rfl
  rw [Dialect.stepsBody, stepsFrom_eq_weave, List.map_append, List.map_append, List.filter_append, List.filter_append,
    h.filter_weave, hsteps]

/-- The outline without the chosen steps is the same if the lines of the script are. -/
lemma outline_eq (heq : (d.stepsScript o steps).map f = (d.stepsScript o (kept o chosen steps)).map f) :
    outline o none steps = outline o none (kept o chosen steps) := by
  obtain ⟨frame, ⟨before, after, hframe⟩, hfile⟩ := h.frames o (steps.filterMap Step.action?) true
  rw [Dialect.stepsScript, Dialect.stepsScript, filterMap_kept, hfile, hfile, hframe, hframe] at heq
  simp only [List.map_append, List.append_cancel_left_eq, List.append_cancel_right_eq] at heq
  have hspare : ∀ body : List Line, ((if body.any Line.isStatement then [] else spare).map f).filter
      (fun c => !isPause c) = (if body.any Line.isStatement then [] else spare).map f := by
    intro body
    rw [List.filter_eq_self]
    intro c hc
    obtain ⟨l, hl, rfl⟩ := List.mem_map.1 hc
    split at hl
    · cases hl
    · simp [h.spare_step l hl]
  have hlength := congrArg (fun lines => (lines.filter fun c => !isPause c).length) heq
  simp only [List.filter_append, h.filter_stepsBody, hspare, List.length_append, List.length_map] at hlength
  rcases shown_kept o chosen steps with hshown | ⟨s, hs, hurl, hshown⟩
  · -- what fills up a body is the same, so that the bodies are
    rw [← hshown] at hlength
    have hsame : ∀ b b' : Bool, (if b then [] else spare).length = (if b' then [] else spare).length →
        (if b then [] else spare) = if b' then [] else spare := by
      rintro (- | -) (- | -) <;> simp +contextual [List.length_eq_zero_iff, eq_comm]
    rw [hsame _ ((d.stepsBody o (kept o chosen steps)).any Line.isStatement) (by omega)] at heq
    have hbody := List.append_cancel_right heq
    simp only [Dialect.stepsBody, stepsFrom_eq_weave, List.map_append, List.append_cancel_left_eq,
      List.append_cancel_right_eq] at hbody
    refine h.weave_inj ?_ hbody
    rw [map_snd_outline, map_snd_outline]
    exact hshown
  · -- a navigation is written that is not in the other script
    rw [h.stepsBody_statement hurl, h.stepsBody_statement hurl, hshown] at hlength
    have hless := h.length_weave_navigate o false ((shown o true (kept o chosen steps)).map fun s => (none, s)) hs
    rw [List.map_cons] at hlength
    omega

/-- **Hidden steps leave no trace if the lines are the same without them.** -/
lemma leavesNoTrace (heq : (d.stepsScript o steps).map f = (d.stepsScript o (kept o chosen steps)).map f) :
    LeavesNoTrace o chosen steps :=
  (outline_kept_iff o chosen steps).1 (h.outline_eq heq)

end Dialect.PausesStandOut

end PageTape.Script
