import PageTape.Proofs.Recorder.Kept
import Mathlib.Data.List.Chain

/-!
# Edits of one field that follow each other are one step

Text that is typed changes the newest step if that one has filled the same field, and so does a choice, and a form that
is submitted records only the fields of which there is no step yet.  So no two steps that stand next to each other edit
the same field, unless steps are edited by hand: every move preserves this (`Move.merged`), and so does every signal
(`AllMerged.obey`).
-/

namespace PageTape.Recorder

variable {may : Leave} {r r' : Recorder} {steps : List Step} {step last : Step}

/-! ### Steps that edit the same field -/

/-- Both steps fill the same field, or both choose in it. -/
structure SameEdit (s t : Step) : Prop where
  kind : s.kind = .fill ∨ s.kind = .select
  sameKind : t.kind = s.kind
  selector : t.selector = s.selector

/-- No two steps that stand next to each other edit the same field. -/
def Merged (steps : List Step) : Prop := steps.IsChain fun s t => ¬ SameEdit s t

lemma merged_concat : Merged (steps ++ [step]) ↔ Merged steps ∧ ∀ last ∈ steps.getLast?, ¬ SameEdit last step := by
  simp [Merged, List.isChain_append]

namespace Merged

/-- The last step may change, but not what it edits. -/
lemma update (h : Merged (steps ++ [last])) (hk : step.kind = last.kind) (hs : step.selector = last.selector) :
    Merged (steps ++ [step]) := by
  obtain ⟨hsteps, hlast⟩ := merged_concat.1 h
  refine merged_concat.2 ⟨hsteps, fun s hmem he => hlast s hmem ?_⟩
  exact ⟨he.kind, hk ▸ he.sameKind, hs ▸ he.selector⟩

/-- A step that edits no field may follow. -/
lemma concat (h : Merged steps) (hf : step.kind ≠ .fill) (hc : step.kind ≠ .select) : Merged (steps ++ [step]) :=
  merged_concat.2 ⟨h, fun _ _ he => he.kind.elim (fun e => hf (he.sameKind.trans e)) fun e => hc (he.sameKind.trans e)⟩

/-- A text that is recorded changes the newest step if that one has filled the same field. -/
lemma takes {w : Waiting String Typed} {steps' : List Step} (h : Merged steps) (ht : Takes w steps steps') :
    Merged steps' := by
  cases ht with
  | update steps last habout => exact h.update rfl rfl
  | append _ step hfills hnew =>
    refine merged_concat.2 ⟨h, fun s hmem he => ?_⟩
    have habout : isAbout .fill w.key s = true :=
      isAbout_iff.2 ⟨he.sameKind.symm.trans hfills.1, he.selector.symm.trans hfills.2.1⟩
    rw [hnew s hmem] at habout
    cases habout

end Merged

/-! ### Moves -/

/-- **No move adds an edit of the field that the newest step edits**, unless steps are edited by hand. -/
theorem Move.merged (hm : Move may r r') (he : may.edits = false) (h : Merged r.steps) : Merged r'.steps := by
  have hactive : ∀ {a}, r.active = some a → Merged a.session.steps := fun ha => steps_of_active ha ▸ h
  cases hm with
  | told | attended | passed => exact h
  | flushed _ ha _ _ ht | rung _ ha _ _ _ ht => exact (hactive ha).takes ht
  | @acted a step _ ha _ _ _ _ hf hc =>
    refine merged_concat.2 ⟨hactive ha, fun last hlast hedit => ?_⟩
    rcases hedit.kind with hk | hk
    · exact hf (hedit.sameKind.trans hk) last (List.mem_of_getLast? hlast) hk hedit.selector.symm
    · exact hc (hedit.sameKind.trans hk) last hlast hk hedit.selector.symm
  | rechosen _ _ ha _ hs =>
    have hsteps := hactive ha
    rw [hs] at hsteps
    exact hsteps.update rfl rfl
  | noted _ ha _ hk =>
    refine (hactive ha).concat (fun e => ?_) fun e => ?_ <;> rw [e] at hk <;> cases hk
  | edited _ _ _ _ hedits => rw [he] at hedits; cases hedits
  | heeded _ ha | settled ha | counted ha | idleSet _ ha | idleCancelled ha | idleRung ha | paused ha | resumed ha =>
    have hsteps := hactive ha
    exact hsteps

lemma Path.merged (hp : Path may r r') (he : may.edits = false) (h : Merged r.steps) : Merged r'.steps := by
  induction hp with
  | refl => exact h
  | tail _ hm ih => exact hm.merged he ih

/-! ### Signals -/

/-- The steps of the session that is active and of the one that is stopped are merged. -/
structure AllMerged (r : Recorder) : Prop where
  active : Merged r.steps
  stopped : ∀ session, r.stopped = some session → Merged session.steps

lemma AllMerged.session (h : r.AllMerged) {session : Session} (hs : r.session? = some session) :
    Merged session.steps := by
  unfold session? at hs
  split at hs
  · rename_i a ha
    obtain rfl := Option.some.inj hs
    exact steps_of_active ha ▸ h.active
  · exact h.stopped session hs

lemma steps_of_none (h : r.active = none) : r.steps = [] := by simp [steps, h]

lemma AllMerged.path (h : r.AllMerged) (hp : Path may r r') (he : may.edits = false) : r'.AllMerged where
  active := hp.merged he h.active
  stopped session hs := h.stopped session (hp.sameSession.stopped ▸ hs)

lemma AllMerged.conclude (h : r.AllMerged) : r.conclude.AllMerged where
  active := by rw [steps_of_none (conclude_active r)]; exact .nil
  stopped session hs := by
    unfold Recorder.conclude at hs
    cases ha : r.active with
    | none => exact h.stopped session (by simpa [ha] using hs)
    | some a =>
      obtain rfl : { a.session with status := .stopped } = session := by simpa [ha] using hs
      exact steps_of_active ha ▸ h.active

lemma AllMerged.fresh (h : r.Fresh) : r.AllMerged where
  active := by rw [steps_of_none h.active]; exact .nil
  stopped session hs := by rw [h.stopped] at hs; cases hs

/-- **Every signal keeps steps merged**, unless steps are edited by hand. -/
theorem AllMerged.obey (h : r.AllMerged) (hl : r.Linked) {s : Signal} (he : s.edits = false) :
    (r.obey s).AllMerged := by
  have houtcome := hl.outcome (s := s) fun hin => Signal.within_anyTraffic (by simp [Signal.isRecorded, hin, he])
  generalize r.obey s = r' at houtcome ⊢
  cases houtcome with
  | kept ht =>
    obtain ⟨a, ha, -⟩ := Signal.text?_eq_some ht
    have hsteps := h.active
    rw [steps_of_active ha] at hsteps
    rw [keepText_eq ha]
    exact ⟨hsteps, h.stopped⟩
  | moved _ hp => exact h.path hp rfl
  | ended _ hp _ => exact (h.path hp rfl).conclude
  | begun p _ hp _ => exact ⟨.singleton _, fun _ hs => by cases hs⟩
  | forgotten _ =>
    have hsteps : Recorder.steps { r.drop with stopped := none, stoppedResponses := [], lastUserActionAt := 0 } = [] :=
      steps_of_none (drop_active r)
    exact ⟨by rw [hsteps]; exact .nil, fun _ hs => by cases hs⟩

lemma AllMerged.obeyAll (h : r.AllMerged) (hl : r.Linked) {signals : List Signal}
    (he : ∀ s ∈ signals, s.edits = false) : (r.obeyAll signals).AllMerged := by
  induction signals generalizing r with
  | nil => exact h
  | cons s rest ih =>
    obtain ⟨hs, hrest⟩ := List.forall_mem_cons.1 he
    exact ih (h.obey hl hs) (hl.obey_any s) hrest

end PageTape.Recorder
