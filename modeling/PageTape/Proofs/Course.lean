import Mathlib.Logic.Relation

/-!
# Programs that change a state and may fail halfway

A `Course` says what always holds of a state and how the state may get on.  `Course.Runs P act Q` says that `act`,
begun where `P` holds, stays on the course even where it fails, and that `Q` holds of its answer and the state after
it where it does not.  `FailsOnly I F act` says that `act`, begun where `I` holds, leaves a state where `I` holds, and
that it fails with no other faults than those of `F`.  The rules below take such a program apart along its text.
-/

namespace PageTape

/-- What always holds of a state, and how it may get on. -/
structure Course (σ : Type) where
  holds : σ → Prop
  leads : σ → σ → Prop
  refl : ∀ s, leads s s
  trans : ∀ {s t u}, leads s t → leads t u → leads s u
  keeps : ∀ {s t}, leads s t → holds s → holds t

namespace Course

variable {σ ε α β : Type}

/-- The course on which a part of the state stays as it is. -/
def still (f : σ → β) : Course σ where
  holds _ := True
  leads s t := f t = f s
  refl _ := rfl
  trans h h' := h'.trans h
  keeps _ h := h

/-! ### Running a program -/

section Run

variable (s : σ)

@[simp] lemma run_pure (a : α) : (pure a : ExceptT ε (StateM σ) α).run s = (.ok a, s) := rfl

@[simp] lemma run_throw (e : ε) : (throw e : ExceptT ε (StateM σ) α).run s = (.error e, s) := rfl

@[simp] lemma run_get : (get : ExceptT ε (StateM σ) σ).run s = (.ok s, s) := rfl

@[simp] lemma run_set (t : σ) : (set t : ExceptT ε (StateM σ) PUnit).run s = (.ok ⟨⟩, t) := rfl

@[simp] lemma run_modify (f : σ → σ) : (modify f : ExceptT ε (StateM σ) PUnit).run s = (.ok ⟨⟩, f s) := rfl

@[simp] lemma run_modifyGet (f : σ → α × σ) :
    (modifyGet f : ExceptT ε (StateM σ) α).run s = (.ok (f s).1, (f s).2) := rfl

lemma run_bind (x : ExceptT ε (StateM σ) α) (f : α → ExceptT ε (StateM σ) β) :
    (x >>= f).run s = match x.run s with
      | (.ok a, t) => (f a).run t
      | (.error e, t) => (.error e, t) := by
  simp only [bind, ExceptT.bind, ExceptT.mk, ExceptT.run, StateT.bind]
  rcases x s with ⟨_ | _, _⟩ <;> rfl

lemma run_tryCatch (x : ExceptT ε (StateM σ) α) (y : ε → ExceptT ε (StateM σ) α) :
    (tryCatch x y).run s = match x.run s with
      | (.ok a, t) => (.ok a, t)
      | (.error e, t) => (y e).run t := by
  simp only [tryCatch, tryCatchThe, MonadExceptOf.tryCatch, ExceptT.tryCatch, ExceptT.mk, ExceptT.run, bind,
    StateT.bind]
  rcases x s with ⟨_ | _, _⟩ <;> rfl

lemma run_map (f : α → β) (x : ExceptT ε (StateM σ) α) :
    (f <$> x).run s = ((x.run s).1.map f, (x.run s).2) := by
  rw [map_eq_pure_bind, run_bind]
  rcases x.run s with ⟨_ | _, _⟩ <;> rfl

lemma run_discard (x : ExceptT ε (StateM σ) α) :
    (discard x).run s = ((x.run s).1.map fun _ => ⟨⟩, (x.run s).2) :=
  run_map s (Function.const α PUnit.unit) x

end Run

/-! ### Programs on a course -/

/-- Begun where `P` holds, the program stays on the course; where it does not fail, `Q` holds after it. -/
def Runs (C : Course σ) (P : σ → Prop) (act : ExceptT ε (StateM σ) α) (Q : α → σ → Prop) : Prop :=
  ∀ s, C.holds s → P s → C.leads s (act.run s).2 ∧ ∀ a, (act.run s).1 = .ok a → Q a (act.run s).2

namespace Runs

variable {C : Course σ} {P P' : σ → Prop} {Q Q' : α → σ → Prop} {S : β → σ → Prop}
  {x : ExceptT ε (StateM σ) α} {f : α → ExceptT ε (StateM σ) β}

lemma mono (h : C.Runs P x Q) (hP : ∀ s, C.holds s → P' s → P s) (hQ : ∀ a s, Q a s → Q' a s) :
    C.Runs P' x Q' := fun s hs hP' =>
  ⟨(h s hs (hP s hs hP')).1, fun a ha => hQ a _ ((h s hs (hP s hs hP')).2 a ha)⟩

lemma strengthen (hP : ∀ s, C.holds s → P' s → P s) (h : C.Runs P x Q) : C.Runs P' x Q :=
  h.mono hP fun _ _ hQ => hQ

lemma weaken (hQ : ∀ a s, Q a s → Q' a s) (h : C.Runs P x Q) : C.Runs P x Q' :=
  h.mono (fun _ _ hP => hP) hQ

protected lemma pure {a : α} (h : ∀ s, C.holds s → P s → Q a s) : C.Runs P (pure a : ExceptT ε (StateM σ) α) Q := by
  intro s hs hP
  refine ⟨C.refl s, fun b hb => ?_⟩
  obtain rfl : a = b := by simpa using hb
  exact h s hs hP

protected lemma throw {e : ε} : C.Runs P (throw e : ExceptT ε (StateM σ) α) Q := by
  intro s _ _
  exact ⟨C.refl s, fun b hb => by simp at hb⟩

protected lemma modify {g : σ → σ} {T : PUnit → σ → Prop} (h : ∀ s, C.holds s → P s → C.leads s (g s) ∧ T ⟨⟩ (g s)) :
    C.Runs P (modify g : ExceptT ε (StateM σ) PUnit) T := fun s hs hP =>
  ⟨(h s hs hP).1, fun _ _ => (h s hs hP).2⟩

protected lemma set {t : σ} {T : PUnit → σ → Prop} (h : ∀ s, C.holds s → P s → C.leads s t ∧ T ⟨⟩ t) :
    C.Runs P (set t : ExceptT ε (StateM σ) PUnit) T := fun s hs hP =>
  ⟨(h s hs hP).1, fun _ _ => (h s hs hP).2⟩

protected lemma bind (hx : C.Runs P x Q) (hf : ∀ a, C.Runs (Q a) (f a) S) : C.Runs P (x >>= f) S := by
  intro s hs hP
  obtain ⟨h₁, h₂⟩ := hx s hs hP
  rw [run_bind]
  rcases hr : x.run s with ⟨_ | a, t⟩
  · rw [hr] at h₁
    exact ⟨h₁, fun b hb => by simp at hb⟩
  · rw [hr] at h₁ h₂
    obtain ⟨h₃, h₄⟩ := hf a t (C.keeps h₁ hs) (h₂ a rfl)
    exact ⟨C.trans h₁ h₃, h₄⟩

/-- A program that leaves the state as it is only gives an answer. -/
lemma bind_still (hx : ∀ s, (x.run s).2 = s)
    (hf : ∀ r a, (x.run r).1 = .ok a → C.Runs (fun s => s = r ∧ P s) (f a) S) : C.Runs P (x >>= f) S := by
  intro s hs hP
  rw [run_bind]
  have hstill := hx s
  rcases hr : x.run s with ⟨_ | a, t⟩ <;> rw [hr] at hstill <;> dsimp only at hstill <;> subst hstill
  · exact ⟨C.refl _, fun b hb => by simp at hb⟩
  · exact hf t a (by rw [hr]) t hs ⟨rfl, hP⟩

/-- What is read is the state there is. -/
lemma bind_get {g : σ → ExceptT ε (StateM σ) β} (h : ∀ r, C.Runs (fun s => s = r ∧ P s) (g r) S) :
    C.Runs P (get >>= g) S := by
  refine bind_still (fun _ => rfl) fun r a ha => ?_
  obtain rfl : r = a := by simpa using ha
  exact h r

protected lemma map {g : α → β} (h : C.Runs P x fun a s => S (g a) s) : C.Runs P (g <$> x) S := by
  intro s hs hP
  obtain ⟨h₁, h₂⟩ := h s hs hP
  rw [run_map]
  refine ⟨h₁, fun b hb => ?_⟩
  rcases hr : x.run s with ⟨_ | a, t⟩ <;> rw [hr] at hb h₂
  · simp [Except.map] at hb
  · obtain rfl : g a = b := by simpa [Except.map] using hb
    exact h₂ a rfl

protected lemma discard {T : PUnit → σ → Prop} (h : C.Runs P x fun _ s => T ⟨⟩ s) :
    C.Runs P (Functor.discard x) T :=
  Runs.map h

/-- Whether it fails or not, the program stays on the course. -/
lemma leads (h : C.Runs P x Q) {s : σ} (hs : C.holds s) (hP : P s) : C.leads s (x.run s).2 := (h s hs hP).1

lemma ite {c : Prop} [Decidable c] {x y : ExceptT ε (StateM σ) α} (hx : c → C.Runs P x Q) (hy : ¬ c → C.Runs P y Q) :
    C.Runs P (if c then x else y) Q := by
  split
  · exact hx ‹_›
  · exact hy ‹_›

/-- A program for each item of a list, `I` being what holds before each of the items that are left. -/
lemma forM {τ : Type} {I : List τ → σ → Prop} {g : τ → ExceptT ε (StateM σ) PUnit}
    (h : ∀ a rest, C.Runs (I (a :: rest)) (g a) fun _ => I rest) :
    ∀ l : List τ, C.Runs (I l) (l.forM g) fun _ => I []
  | [] => Runs.pure fun _ _ hI => hI
  | a :: rest => by
    show C.Runs _ (g a >>= fun _ => rest.forM g) _
    exact (h a rest).bind fun _ => Runs.forM h rest

end Runs

end Course

/-! ### What a program may fail with -/

variable {σ ε α β : Type}

/-- **What a program may fail with**, begun where `I` holds, which it keeps. -/
def FailsOnly (I : σ → Prop) (F : ε → Prop) (act : ExceptT ε (StateM σ) α) : Prop :=
  ∀ s, I s → I (act.run s).2 ∧ ∀ fault, (act.run s).1 = .error fault → F fault

namespace FailsOnly

variable {I : σ → Prop} {F G : ε → Prop} {x y : ExceptT ε (StateM σ) α} {f : α → ExceptT ε (StateM σ) β}

lemma mono (h : FailsOnly I F x) (hFG : ∀ fault, F fault → G fault) : FailsOnly I G x := fun s hs =>
  ⟨(h s hs).1, fun fault hf => hFG fault ((h s hs).2 fault hf)⟩

protected lemma pure (a : α) : FailsOnly I F (pure a : ExceptT ε (StateM σ) α) := fun _ hs => ⟨hs, nofun⟩

protected lemma throw {fault : ε} (h : F fault) : FailsOnly I F (throw fault : ExceptT ε (StateM σ) α) := fun _ hs => by
  refine ⟨hs, fun fault' hf => ?_⟩
  obtain rfl : fault = fault' := by simpa using hf
  exact h

protected lemma modify {g : σ → σ} (h : ∀ s, I s → I (g s)) :
    FailsOnly I F (modify g : ExceptT ε (StateM σ) PUnit) := fun s hs => ⟨h s hs, nofun⟩

protected lemma modifyGet {g : σ → α × σ} (h : ∀ s, I s → I (g s).2) :
    FailsOnly I F (modifyGet g : ExceptT ε (StateM σ) α) := fun s hs => ⟨h s hs, nofun⟩

protected lemma set {t : σ} (h : I t) : FailsOnly I F (set t : ExceptT ε (StateM σ) PUnit) := fun _ _ => ⟨h, nofun⟩

protected lemma bind (hx : FailsOnly I F x) (hf : ∀ a, FailsOnly I F (f a)) : FailsOnly I F (x >>= f) := by
  intro s hs
  obtain ⟨h₁, h₂⟩ := hx s hs
  rw [Course.run_bind]
  rcases hr : x.run s with ⟨fault | a, t⟩ <;> rw [hr] at h₁ h₂
  · refine ⟨h₁, fun fault' hf => ?_⟩
    cases hf
    exact h₂ fault rfl
  · exact hf a t h₁

/-- What is read is a state in which `I` holds. -/
lemma bind_get {g : σ → ExceptT ε (StateM σ) β} (h : ∀ s, I s → FailsOnly I F (g s)) :
    FailsOnly I F (get >>= g) := fun s hs => by
  rw [Course.run_bind, Course.run_get]
  exact h s hs s hs

protected lemma map {g : α → β} (h : FailsOnly I F x) : FailsOnly I F (g <$> x) := by
  rw [map_eq_pure_bind]
  exact h.bind fun _ => .pure _

protected lemma discard (h : FailsOnly I F x) : FailsOnly I F (discard x) := h.map

lemma ite {c : Prop} [Decidable c] (hx : FailsOnly I F x) (hy : FailsOnly I F y) :
    FailsOnly I F (if c then x else y) := by
  split
  · exact hx
  · exact hy

/-- What fails is made good, unless by that it fails as well. -/
protected lemma tryCatch {z : ε → ExceptT ε (StateM σ) α} (hx : FailsOnly I F x)
    (hz : ∀ fault, F fault → FailsOnly I G (z fault)) : FailsOnly I G (tryCatch x z) := by
  intro s hs
  obtain ⟨h₁, h₂⟩ := hx s hs
  rw [Course.run_tryCatch]
  rcases hr : x.run s with ⟨fault | a, t⟩ <;> rw [hr] at h₁ h₂
  · exact hz fault (h₂ fault rfl) t h₁
  · exact ⟨h₁, nofun⟩

lemma forM {τ : Type} {g : τ → ExceptT ε (StateM σ) PUnit} (l : List τ) (h : ∀ a ∈ l, FailsOnly I F (g a)) :
    FailsOnly I F (l.forM g) := by
  induction l with
  | nil => exact .pure _
  | cons a rest ih =>
    obtain ⟨ha, hrest⟩ := List.forall_mem_cons.1 h
    show FailsOnly I F (g a >>= fun _ => rest.forM g)
    exact ha.bind fun _ => ih hrest

end FailsOnly

end PageTape
