import PageTape.Proofs.Abreast
import PageTape.Proofs.Recorder.Signal

/-!
# Time that passes in two parts

* `advance_unheeding` — what a recorder does as time passes does not depend on the notices that it has given before;
* `advance_split` — to let time pass at once, or in two parts, is the same to a recorder.
-/

namespace PageTape.Recorder

variable {α β : Type} {r : Recorder} {p : Page}

/-! ### Notices -/

/-- The recorder with notices given before its own. -/
def after (ns : List Notice) (r : Recorder) : Recorder := { r with notices := ns ++ r.notices }

/-- What is done does not depend on the notices given before. -/
abbrev Unheeding (act : Act α) : Prop := ∀ ns, Abreast (fun r s => s = r.after ns) Eq act act

namespace Unheeding

variable {x : Act α} {f : α → Act β}

protected lemma pure (a : α) : Unheeding (pure a) := fun _ => .pure rfl

protected lemma throw (fault : Fault) : Unheeding (throw fault : Act α) := fun _ => .throw

protected lemma bind (hx : Unheeding x) (hf : ∀ a, Unheeding (f a)) : Unheeding (x >>= f) := fun ns =>
  (hx ns).bind fun a _ hab => hab ▸ hf a ns

protected lemma get {f : Recorder → Act β} (hsame : ∀ r ns, f (r.after ns) = f r) (hf : ∀ r, Unheeding (f r)) :
    Unheeding (get >>= f) := fun ns => .bind_get fun r s hs => by
  rw [hs, hsame]
  exact hf r ns

protected lemma modify {g : Recorder → Recorder} (h : ∀ r ns, g (r.after ns) = (g r).after ns) :
    Unheeding (modify g) := fun ns r s hs => by
  subst hs
  rw [Course.run_modify, Course.run_modify, h]
  exact .answered rfl rfl

protected lemma modifyGet {g : Recorder → α × Recorder}
    (h : ∀ r ns, g (r.after ns) = ((g r).1, (g r).2.after ns)) : Unheeding (modifyGet g) := fun ns r s hs => by
  subst hs
  rw [Course.run_modifyGet, Course.run_modifyGet, h]
  exact .answered rfl rfl

protected lemma discard (hx : Unheeding x) : Unheeding (discard x) := fun ns => (hx ns).map fun _ _ _ => rfl

protected lemma ite {c : Prop} [Decidable c] {x y : Act α} (hx : Unheeding x) (hy : Unheeding y) :
    Unheeding (if c then x else y) := by
  split
  · exact hx
  · exact hy

lemma run_after (hx : Unheeding x) (ns : List Notice) (r : Recorder) :
    x.run (r.after ns) = ((x.run r).1, (x.run r).2.after ns) := by
  have h := hx ns r _ rfl
  generalize x.run r = u at h ⊢
  generalize x.run (r.after ns) = v at h ⊢
  cases h with
  | failed h => rw [h]
  | answered h ha => rw [h, ha]

end Unheeding

lemma tell_unheeding (callback : Callback) (position : Nat) (step : Step) : Unheeding (tell callback position step) := by
  have hnote : Unheeding (modify fun r => { r with notices := r.notices ++ [⟨callback, position, step⟩] }) :=
    .modify fun r ns => by simp [after]
  refine .get (fun _ _ => rfl) fun r => ?_
  split
  · exact .pure _
  · exact hnote
  · exact hnote.bind fun _ => .throw _

lemma add_unheeding (step : Step) : Unheeding (add step) := by
  refine fun ns => .bind_get fun r s hs => ?_
  subst hs
  refine .ite Iff.rfl (fun _ => ?_) fun _ => .pure rfl
  refine .bind (.set rfl) fun _ _ _ => ?_
  exact Unheeding.bind (tell_unheeding .added r.steps.length step) (fun _ => .pure true) ns

lemma change_unheeding (position : Nat) (f : Step → Step) : Unheeding (change position f) := by
  refine .get (fun _ _ => rfl) fun r => ?_
  split
  · exact .pure _
  · exact .bind (.modify fun _ _ => rfl) fun _ => tell_unheeding _ _ _

lemma addUserStep_unheeding (step : Step) : Unheeding (addUserStep step) := by
  have hadd := add_unheeding step
  refine .get (fun _ _ => rfl) fun r => ?_
  dsimp only
  split
  · exact .bind (.modify fun _ _ => rfl) fun _ => hadd
  · exact hadd

lemma recordText_unheeding (p : Page) (selector : String) (typed : Typed) :
    Unheeding (recordText p selector typed) := by
  refine .get (fun _ _ => rfl) fun r => .ite (.pure _) ?_
  dsimp only
  split
  · exact .bind (.modify fun _ _ => rfl) fun _ => change_unheeding _ _
  · exact (addUserStep_unheeding _).discard

lemma wakeText_unheeding (p : Page) (selector : String) : Unheeding (wakeText p selector) := by
  refine .bind (.modifyGet fun r ns => ?_) fun typed => ?_
  · cases h : r.active <;> simp only [after, h]
  · cases typed with
    | some typed => exact recordText_unheeding p selector typed
    | none => exact .pure _

lemma leavesAlone_unheeding (l : Dom.Location) : Unheeding (leavesAlone l) := by
  refine .get (fun _ _ => rfl) fun r => ?_
  cases isOwn r.config l with
  | ok a => exact .pure a
  | error fault => exact .throw fault

lemma newFields_unheeding (ls : List Dom.Location) : Unheeding (newFields ls) := by
  induction ls with
  | nil => exact .pure _
  | cons l rest ih =>
    unfold newFields
    exact .ite (.bind (leavesAlone_unheeding l) fun isOwn => .bind ih fun more => .pure _) ih

lemma noteFields_unheeding (p : Page) (mutations : List Page.Mutation) : Unheeding (noteFields p mutations) := by
  refine .bind (newFields_unheeding _) fun fields => ?_
  cases fields with
  | nil => exact .pure _
  | cons first rest => exact .get (fun _ _ => rfl) fun r => (add_unheeding _).discard

lemma noteLoaded_unheeding (p : Page) (mutations : List Page.Mutation) : Unheeding (noteLoaded p mutations) := by
  unfold noteLoaded
  split
  · exact .pure _
  · exact .get (fun _ _ => rfl) fun r => (add_unheeding _).discard

lemma wakeMutations_unheeding (p : Page) : Unheeding (wakeMutations p) := by
  refine .bind (.modifyGet fun r ns => ?_) fun mutations => ?_
  · cases h : r.active <;> simp only [after, h]
  · cases mutations with
    | none => exact .pure _
    | some mutations =>
      exact .get (fun _ _ => rfl) fun r =>
        .ite (.bind (noteFields_unheeding p mutations) fun _ => noteLoaded_unheeding p mutations) (.pure _)

lemma noteIdle_unheeding : Unheeding noteIdle := by
  refine .get (fun _ _ => rfl) fun r => .ite (.pure _) (.bind (add_unheeding _) fun added => ?_)
  exact .ite (.modify fun _ _ => rfl) (.pure _)

lemma wakeIdle_unheeding : Unheeding wakeIdle :=
  .bind (.modify fun _ _ => rfl) fun _ => .get (fun _ _ => rfl) fun _ => .ite noteIdle_unheeding (.pure _)

lemma goOff_unheeding (p : Page) (alarm : Alarm) : Unheeding (goOff p alarm) := by
  cases alarm with
  | input selector => exact wakeText_unheeding p selector
  | mutations => exact wakeMutations_unheeding p
  | idle => exact wakeIdle_unheeding

lemma runDue_unheeding (p : Page) (target : Rat) (n : Nat) : Unheeding (runDue p target n) := by
  induction n with
  | zero => exact .pure _
  | succ n ih =>
    unfold runDue
    refine .get (fun _ _ => rfl) fun r => ?_
    split
    · exact .pure _
    · exact .bind (.modify fun _ _ => rfl) fun _ => .bind (goOff_unheeding p _) fun _ => ih

/-- **What a recorder does as time passes does not depend on the notices given before.** -/
theorem advance_unheeding (p : Page) (ms : Rat) : Unheeding (advance p ms) :=
  .get (fun _ _ => rfl) fun _ => .get (fun _ _ => rfl) fun _ =>
    .bind (runDue_unheeding p _ _) fun _ => .modify fun _ _ => rfl

/-! ### Two parts -/

lemma runDue_succ (p : Page) (target : Rat) (n : ℕ) (r : Recorder) :
    (runDue p target (n + 1)).run r = match r.clock.popDue? target with
      | none => (.ok ⟨⟩, r)
      | some (t, clock) => (goOff p t.alarm >>= fun _ => runDue p target n).run { r with clock } := by
  conv_lhs => unfold runDue
  rw [Course.run_bind, Course.run_get]
  dsimp only
  cases r.clock.popDue? target with
  | none => rfl
  | some q =>
    dsimp only
    rw [Course.run_bind, Course.run_modify]

/-- A timer that goes off is gone, and sets no other one. -/
lemma goOff_fewer {p : Page} {target : Rat} {t : Timer Alarm} {clock : Clock Alarm} {u : Unit} {s : Recorder}
    (hl : r.Linked) (hp : r.clock.popDue? target = some (t, clock))
    (h : (goOff p t.alarm).run { r with clock } = (.ok u, s)) :
    s.Linked ∧ s.clock.timers.length < r.clock.timers.length := by
  obtain ⟨hm, hfirst, -, rfl⟩ := Clock.popDue?_eq_some hp
  obtain ⟨hpath, hclock⟩ := goOff_leads anything p hl hm hfirst
  rw [h] at hpath hclock
  refine ⟨hpath.linked hl, ?_⟩
  rw [hclock u rfl]
  exact Clock.length_cancel_lt hm

lemma runDue_fewer {p : Page} {target : Rat} {n : ℕ} {u : Unit} {s : Recorder} (hl : r.Linked)
    (h : (runDue p target n).run r = (.ok u, s)) : s.Linked ∧ s.clock.timers.length ≤ r.clock.timers.length := by
  induction n generalizing r with
  | zero =>
    cases h
    exact ⟨hl, le_rfl⟩
  | succ n ih =>
    rw [runDue_succ] at h
    split at h
    · cases h
      exact ⟨hl, le_rfl⟩
    · rename_i hp
      rw [Course.run_bind] at h
      split at h
      · rename_i hgo
        obtain ⟨hl', hlt⟩ := goOff_fewer hl hp hgo
        obtain ⟨hl'', hle⟩ := ih hl' h
        exact ⟨hl'', hle.trans hlt.le⟩
      · cases h

lemma runDue_of_timers_eq_nil (p : Page) (target : Rat) (ht : r.clock.timers = []) (n : ℕ) :
    (runDue p target n).run r = (.ok ⟨⟩, r) := by
  cases n with
  | zero => rfl
  | succ n =>
    have hp : r.clock.popDue? target = none := by simp only [Clock.popDue?, Clock.earliest?_eq_none.2 ht]
    rw [runDue_succ, hp]

/-- If as many timers may go off as are set, then how many more may does not matter. -/
lemma runDue_enough (p : Page) (target : Rat) (hl : r.Linked) {m n : ℕ} (hm : r.clock.timers.length ≤ m)
    (hn : r.clock.timers.length ≤ n) : (runDue p target m).run r = (runDue p target n).run r := by
  induction m generalizing r n with
  | zero =>
    have ht := List.length_eq_zero_iff.1 (Nat.le_zero.1 hm)
    rw [runDue_of_timers_eq_nil p target ht, runDue_of_timers_eq_nil p target ht]
  | succ m ih =>
    cases n with
    | zero =>
      have ht := List.length_eq_zero_iff.1 (Nat.le_zero.1 hn)
      rw [runDue_of_timers_eq_nil p target ht, runDue_of_timers_eq_nil p target ht]
    | succ n =>
      rw [runDue_succ, runDue_succ]
      cases hp : r.clock.popDue? target with
      | none => rfl
      | some q =>
        dsimp only
        rw [Course.run_bind, Course.run_bind]
        rcases hgo : (goOff p q.1.alarm).run { r with clock := q.2 } with ⟨e | u, s⟩
        · rfl
        · obtain ⟨hl', hlt⟩ := goOff_fewer hl hp hgo
          exact ih hl' (by omega) (by omega)

/-- On the way to a later time, the clock comes through an earlier one. -/
lemma runDue_earlier (p : Page) {a b : Rat} (hab : a ≤ b) (hl : r.Linked) {m n : ℕ} (hm : r.clock.timers.length ≤ m)
    (hn : r.clock.timers.length ≤ n) :
    (runDue p a m >>= fun _ => runDue p b n).run r = (runDue p b n).run r := by
  induction m generalizing r with
  | zero => rfl
  | succ m ih =>
    rw [Course.run_bind, runDue_succ]
    cases hp : r.clock.popDue? a with
    | none => rfl
    | some q =>
      obtain ⟨n, rfl⟩ : ∃ k, n = k + 1 := by
        obtain ⟨hmem, -⟩ := Clock.popDue?_eq_some hp
        have := List.length_pos_of_mem hmem
        exact ⟨n - 1, by omega⟩
      rw [runDue_succ, Clock.popDue?_of_le hp hab]
      dsimp only
      rw [Course.run_bind, Course.run_bind]
      rcases hgo : (goOff p q.1.alarm).run { r with clock := q.2 } with ⟨e | u, s⟩
      · rfl
      · obtain ⟨hl', hlt⟩ := goOff_fewer hl hp hgo
        have hih := ih hl' (by omega) (by omega)
        rw [Course.run_bind] at hih
        dsimp only
        rw [hih]
        exact runDue_enough p b hl' (by omega) (by omega)

/-- The time does not matter to a clock that is to go to another one: the timers set it, or the arrival. -/
lemma advanceTo_withNow (p : Page) (target now : Rat) (r : Recorder) :
    (advanceTo p target).run { r with clock := { r.clock with now } } = (advanceTo p target).run r := by
  unfold advanceTo
  rw [Course.run_bind, Course.run_bind, Course.run_get, Course.run_get]
  dsimp only
  rw [Course.run_bind, Course.run_bind]
  have hp : ({ r.clock with now := now } : Clock Alarm).pending = r.clock.pending := rfl
  rw [hp]
  cases r.clock.pending with
  | zero => rfl
  | succ n =>
    rw [runDue_succ, runDue_succ]
    have hpop : ({ r.clock with now := now } : Clock Alarm).popDue? target = r.clock.popDue? target := rfl
    dsimp only
    rw [hpop]
    cases r.clock.popDue? target <;> rfl

lemma advanceTo_split (p : Page) {a b : Rat} (hl : r.Linked) (hab : a ≤ b) :
    (advanceTo p a >>= fun _ => advanceTo p b).run r = (advanceTo p b).run r := by
  have hfrom : ∀ (target : Rat) (s : Recorder), (advanceTo p target).run s =
      (runDue p target s.clock.timers.length >>= fun _ =>
        modify fun s : Recorder => { s with clock := { s.clock with now := target } }).run s := fun _ _ => rfl
  have hearlier := runDue_earlier p hab hl (le_refl r.clock.timers.length) le_rfl
  rw [Course.run_bind, hfrom a, hfrom b, Course.run_bind, Course.run_bind, ← hearlier, Course.run_bind]
  rcases hdue : (runDue p a r.clock.timers.length).run r with ⟨e | u, s⟩
  · rfl
  · obtain ⟨hl', hle⟩ := runDue_fewer hl hdue
    show (advanceTo p b).run { s with clock := { s.clock with now := a } } = _
    rw [advanceTo_withNow, hfrom b, Course.run_bind, runDue_enough p b hl' le_rfl hle]

/-- **To a recorder it makes no difference whether time passes at once or in two parts.** -/
theorem advance_split (p : Page) (hl : r.Linked) (a : Rat) {b : Rat} (hb : 0 ≤ b) :
    (advance p a >>= fun _ => advance p b).run r = (advance p (a + b)).run r := by
  have hab : r.clock.now + a ≤ r.clock.now + a + b := le_add_of_nonneg_right hb
  have hfrom : ∀ (ms : Rat) (s : Recorder), (advance p ms).run s = (advanceTo p (s.clock.now + ms)).run s :=
    fun _ _ => rfl
  rw [hfrom (a + b), ← add_assoc, ← advanceTo_split p hl hab, Course.run_bind, Course.run_bind, hfrom a]
  rcases ha : (advanceTo p (r.clock.now + a)).run r with ⟨e | u, s⟩
  · rfl
  · have hnow : s.clock.now = r.clock.now + a := by
      unfold advanceTo at ha
      rw [Course.run_bind, Course.run_get] at ha
      dsimp only at ha
      rw [Course.run_bind] at ha
      split at ha
      · rw [Course.run_modify] at ha
        cases ha
        rfl
      · cases ha
    dsimp only
    rw [hfrom b, hnow]

end PageTape.Recorder
