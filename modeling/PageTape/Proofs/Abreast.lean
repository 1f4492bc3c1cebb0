import PageTape.Proofs.Course
import Mathlib.Data.List.Forall2

/-!
# Two programs side by side

A `Course` follows one program.  Here two of them are followed at once, each on a state of its own: `Abreast R ρ x y`
says that from states that are related by `R` the two programs come to such states again, and that both fail for the
same reason or both give an answer, the answers then being related by `ρ`.  The rules take the programs apart along
their texts, as the rules of a course do.
-/

namespace PageTape

variable {σ ε α α' β β' : Type} {R : σ → σ → Prop} {ρ : α → α' → Prop} {ρ' : β → β' → Prop}

/-- Two runs have ended alike, in related states: both have failed for the same reason, or their answers are related. -/
inductive EndAbreast (R : σ → σ → Prop) (ρ : α → α' → Prop) : Except ε α × σ → Except ε α' × σ → Prop
  | failed {e : ε} {s t : σ} (h : R s t) : EndAbreast R ρ (.error e, s) (.error e, t)
  | answered {a : α} {a' : α'} {s t : σ} (h : R s t) (ha : ρ a a') : EndAbreast R ρ (.ok a, s) (.ok a', t)

/-- **Two programs side by side**: begun in related states they end alike, and in related states. -/
def Abreast (R : σ → σ → Prop) (ρ : α → α' → Prop) (x : ExceptT ε (StateM σ) α) (y : ExceptT ε (StateM σ) α') : Prop :=
  ∀ s t, R s t → EndAbreast R ρ (x.run s) (y.run t)

namespace EndAbreast

variable {x : ExceptT ε (StateM σ) α} {y : ExceptT ε (StateM σ) α'} {f : α → ExceptT ε (StateM σ) β}
  {g : α' → ExceptT ε (StateM σ) β'} {s t : σ}

lemma state {p : Except ε α × σ} {q : Except ε α' × σ} (h : EndAbreast R ρ p q) : R p.2 q.2 := by
  cases h with
  | failed h => exact h
  | answered h _ => exact h

lemma weaken {τ : α → α' → Prop} {p : Except ε α × σ} {q : Except ε α' × σ} (h : EndAbreast R ρ p q)
    (hρ : ∀ a b, ρ a b → τ a b) : EndAbreast R τ p q := by
  cases h with
  | failed h => exact .failed h
  | answered h ha => exact .answered h (hρ _ _ ha)

/-- What the programs go on with may use that they have answered so. -/
lemma bind_ok (h : EndAbreast R ρ (x.run s) (y.run t))
    (hf : ∀ a b s' t', x.run s = (.ok a, s') → y.run t = (.ok b, t') → ρ a b → R s' t' →
      EndAbreast R ρ' ((f a).run s') ((g b).run t')) :
    EndAbreast R ρ' ((x >>= f).run s) ((y >>= g).run t) := by
  rw [Course.run_bind, Course.run_bind]
  generalize x.run s = p at h hf ⊢
  generalize y.run t = q at h hf ⊢
  cases h with
  | failed h => exact .failed h
  | answered h ha => exact hf _ _ _ _ rfl rfl ha h

lemma bind (h : EndAbreast R ρ (x.run s) (y.run t))
    (hf : ∀ a b s t, ρ a b → R s t → EndAbreast R ρ' ((f a).run s) ((g b).run t)) :
    EndAbreast R ρ' ((x >>= f).run s) ((y >>= g).run t) := h.bind_ok fun a b s t _ _ => hf a b s t

lemma map {p : α → β} {q : α' → β'} (h : EndAbreast R ρ (x.run s) (y.run t)) (hpq : ∀ a b, ρ a b → ρ' (p a) (q b)) :
    EndAbreast R ρ' ((p <$> x).run s) ((q <$> y).run t) := by
  rw [Course.run_map, Course.run_map]
  generalize x.run s = p at h ⊢
  generalize y.run t = q at h ⊢
  cases h with
  | failed h => exact .failed h
  | answered h ha => exact .answered h (hpq _ _ ha)

end EndAbreast

namespace Abreast

variable {x : ExceptT ε (StateM σ) α} {y : ExceptT ε (StateM σ) α'} {f : α → ExceptT ε (StateM σ) β}
  {g : α' → ExceptT ε (StateM σ) β'}

lemma weaken {τ : α → α' → Prop} (h : Abreast R ρ x y) (hρ : ∀ a b, ρ a b → τ a b) : Abreast R τ x y :=
  fun s t hst => (h s t hst).weaken hρ

protected lemma pure {a : α} {b : α'} (h : ρ a b) :
    Abreast R ρ (pure a : ExceptT ε (StateM σ) α) (pure b : ExceptT ε (StateM σ) α') := fun _ _ hst => .answered hst h

protected lemma throw {e : ε} :
    Abreast R ρ (throw e : ExceptT ε (StateM σ) α) (throw e : ExceptT ε (StateM σ) α') := fun _ _ hst => .failed hst

protected lemma modify {p q : σ → σ} (h : ∀ s t, R s t → R (p s) (q t)) :
    Abreast R (fun _ _ => True) (modify p : ExceptT ε (StateM σ) PUnit) (modify q) :=
  fun s t hst => .answered (h s t hst) trivial

protected lemma set {u v : σ} (h : R u v) :
    Abreast R Eq (set u : ExceptT ε (StateM σ) PUnit) (set v) := fun _ _ _ => .answered h rfl

protected lemma modifyGet {p : σ → α × σ} {q : σ → α' × σ} (h : ∀ s t, R s t → R (p s).2 (q t).2 ∧ ρ (p s).1 (q t).1) :
    Abreast R ρ (modifyGet p : ExceptT ε (StateM σ) α) (modifyGet q : ExceptT ε (StateM σ) α') :=
  fun s t hst => .answered (h s t hst).1 (h s t hst).2

protected lemma bind (h : Abreast R ρ x y) (hf : ∀ a b, ρ a b → Abreast R ρ' (f a) (g b)) :
    Abreast R ρ' (x >>= f) (y >>= g) := fun s t hst => (h s t hst).bind fun a b s t hab hst => hf a b hab s t hst

/-- What is read are related states. -/
lemma bind_get {f : σ → ExceptT ε (StateM σ) β} {g : σ → ExceptT ε (StateM σ) β'}
    (h : ∀ s t, R s t → Abreast R ρ' (f s) (g t)) : Abreast R ρ' (get >>= f) (get >>= g) := by
  intro s t hst
  rw [Course.run_bind, Course.run_bind]
  exact h s t hst s t hst

protected lemma map {p : α → β} {q : α' → β'} (h : Abreast R ρ x y) (hpq : ∀ a b, ρ a b → ρ' (p a) (q b)) :
    Abreast R ρ' (p <$> x) (q <$> y) := fun s t hst => (h s t hst).map hpq

protected lemma discard (h : Abreast R ρ x y) : Abreast R (fun _ _ => True) (discard x) (discard y) :=
  h.map fun _ _ _ => trivial

lemma ite {c c' : Prop} [Decidable c] [Decidable c'] {x x' : ExceptT ε (StateM σ) α} {y y' : ExceptT ε (StateM σ) α'}
    (hc : c ↔ c') (hx : c → Abreast R ρ x y) (hy : ¬ c → Abreast R ρ x' y') :
    Abreast R ρ (if c then x else x') (if c' then y else y') := by
  by_cases h : c
  · rw [if_pos h, if_pos (hc.1 h)]
    exact hx h
  · rw [if_neg h, if_neg (not_congr hc |>.1 h)]
    exact hy h

/-- A program for each item of two lists, the items of which are related in turn. -/
lemma forM {τ τ' : Type} {V : τ → τ' → Prop} {p : τ → ExceptT ε (StateM σ) PUnit} {q : τ' → ExceptT ε (StateM σ) PUnit}
    {l : List τ} {l' : List τ'} (hl : List.Forall₂ V l l') (h : ∀ a b, V a b → Abreast R (fun _ _ => True) (p a) (q b)) :
    Abreast R (fun _ _ => True) (l.forM p) (l'.forM q) := by
  induction hl with
  | nil => exact .pure trivial
  | cons hab _ ih => exact (h _ _ hab).bind fun _ _ _ => ih

end Abreast

end PageTape
