import PageTape.Proofs.Recorder.Accord

/-!
# Waiting for an idle network

A step that waits for an idle network is added when the network has been idle for a while, or before the end of a
session.  What a recorder does with the time that passes, and before the end, keeps it in accord with the moments of
its session, where each of these steps is one more moment.

* `Accords.runDue`, `Accords.runTimers` — time passes, and timers go off (`rings`, `ringsAll`);
* `Accords.noteUnsettled` — a session is about to be stopped.
-/

namespace PageTape.Recorder

variable {may : Leave} {p : Page} {r r' r'' : Recorder}

/-! ### Waits that are added -/

/-- A callback fails or it does not, and nothing but the notices changes. -/
lemma tell_added_run (position : ℕ) (step : Step) (r : Recorder) : ∃ notices,
    (tell .added position step).run r = (if r.onAdded = .fail then .error (.callbackFailed .added) else .ok ⟨⟩,
      { r with notices }) := by
  unfold tell
  rw [Course.run_bind, Course.run_get]
  dsimp only
  split <;> rename_i hreaction
  · exact ⟨r.notices, by rw [if_neg (by simp [hreaction])]; rfl⟩
  · exact ⟨_, by rw [if_neg (by simp [hreaction])]; rfl⟩
  · exact ⟨_, by rw [if_pos hreaction]; rfl⟩

/-- A step is added while recording, and it is told whether the callbacks fail on it. -/
lemma add_run_eq {a : Active} (ha : r.active = some a) (hr : a.session.status = .recording) (step : Step) :
    ∃ notices, (add step).run r = (if r.onAdded = .fail then .error (.callbackFailed .added) else .ok true,
      { r with active := some (a.withSteps (a.session.steps ++ [step])), notices }) := by
  have hrec : r.isRecording = true := isRecording_iff.2 ⟨a, ha, hr⟩
  have hsteps : r.changeSteps (· ++ [step]) = { r with active := some (a.withSteps (a.session.steps ++ [step])) } := by
    simp [changeSteps, changeActive, ha, Active.withSteps]
  obtain ⟨notices, htell⟩ := tell_added_run r.steps.length step
    { r with active := some (a.withSteps (a.session.steps ++ [step])) }
  refine ⟨notices, ?_⟩
  unfold add
  rw [Course.run_bind, Course.run_get]
  simp only [hrec, if_true, hsteps]
  rw [Course.run_bind, Course.run_set]
  dsimp only
  rw [Course.run_bind, htell]
  by_cases hfail : r.onAdded = .fail
  · simp only [hfail, if_true]
  · simp only [hfail, if_false]
    rfl

/-- A wait for an idle network may be added now: the session is recorded, and there has been an action of the user
shortly before. -/
def mayWait (r : Recorder) : Prop :=
  r.isRecording = true ∧ r.clock.now - r.lastUserActionAt < r.config.actionWindow

/-- The step that waits for an idle network. -/
def waitStep (r : Recorder) : Step :=
  { kind := .waitForNetworkIdle, timestamp := r.now, label := some "Wait for network requests to complete"
    waitTimeout := some r.config.idleTimeout }

/-- The recorder with a wait for an idle network added now, of which `notices` tell. -/
def withWait (r : Recorder) (a : Active) (notices : List Notice) : Recorder :=
  { r with
    notices
    active := some { a.withSteps (a.session.steps ++ [waitStep r]) with
      traffic := { a.traffic with
        settledSinceIdle := if r.onAdded = .fail then a.traffic.settledSinceIdle else false } } }

lemma idleStamps_withWait {a : Active} (ha : r.active = some a) (notices : List Notice) :
    idleStamps (r.withWait a notices).steps = idleStamps r.steps ++ [r.now] := by
  rw [steps_of_active ha]
  simp [withWait, steps, Active.withSteps, idleStamps, idleWaits, waitStep]

/-- A wait for an idle network is added where it may be; unless the callbacks fail on it, no request has settled since
then. -/
lemma noteIdle_cases (r : Recorder) : (¬ r.mayWait ∧ noteIdle.run r = (.ok ⟨⟩, r)) ∨
    r.mayWait ∧ ∃ a notices, r.active = some a ∧ noteIdle.run r =
      (if r.onAdded = .fail then .error (.callbackFailed .added) else .ok ⟨⟩, r.withWait a notices) := by
  unfold noteIdle mayWait
  rw [Course.run_bind, Course.run_get]
  dsimp only
  by_cases hstale : (r.config.actionWindow : ℚ) ≤ r.clock.now - r.lastUserActionAt
  · rw [if_pos hstale]
    exact .inl ⟨fun h => absurd h.2 (not_lt.2 hstale), rfl⟩
  rw [if_neg hstale, Course.run_bind]
  cases hrec : r.isRecording with
  | false =>
    rw [add_idle hrec]
    exact .inl ⟨fun h => (Bool.false_ne_true h.1).elim, rfl⟩
  | true =>
    obtain ⟨a, ha, hr⟩ := isRecording_iff.1 hrec
    obtain ⟨notices, hadd⟩ := add_run_eq ha hr (waitStep r)
    refine .inr ⟨⟨rfl, not_le.1 hstale⟩, a, notices, ha, ?_⟩
    unfold withWait
    unfold waitStep at hadd ⊢
    rw [hadd]
    by_cases hfail : r.onAdded = .fail
    · simp only [hfail, if_true]
      rfl
    · simp only [hfail, if_false, if_true]
      rfl

lemma mayWait_changeTraffic (r : Recorder) (f : Traffic → Traffic) : (r.changeTraffic f).mayWait ↔ r.mayWait := by
  unfold mayWait
  rw [isRecording_changeTraffic]
  exact Iff.rfl

/-- When the network has been idle, a wait for that is added where it may be. -/
lemma wakeIdle_cases (r : Recorder) :
    (wakeIdle.run r).2 = r.changeTraffic ({ · with idleTimer := none }) ∨
      r.mayWait ∧ ∃ a notices, (r.changeTraffic ({ · with idleTimer := none })).active = some a ∧
        (wakeIdle.run r).2 = (r.changeTraffic ({ · with idleTimer := none })).withWait a notices := by
  unfold wakeIdle
  rw [Course.run_bind, Course.run_modify]
  dsimp only
  rw [Course.run_bind, Course.run_get]
  dsimp only
  split
  · obtain ⟨-, hrun⟩ | ⟨hmay, a, notices, ha, hrun⟩ := noteIdle_cases (r.changeTraffic ({ · with idleTimer := none }))
    · rw [hrun]
      exact .inl rfl
    · rw [hrun]
      exact .inr ⟨(mayWait_changeTraffic r _).1 hmay, a, notices, ha, rfl⟩
  · exact .inl rfl

/-! ### Time that passes -/

/-- The timers that go off until a time, at most a number of them, each with the recorder when its alarm is heard. -/
def rings (p : Page) (target : ℚ) : ℕ → Recorder → List (Alarm × Recorder)
  | 0, _ => []
  | n + 1, r => match r.clock.popDue? target with
    | none => []
    | some (timer, clock) =>
      (timer.alarm, { r with clock }) :: match (goOff p timer.alarm).run { r with clock } with
        | (.ok _, s) => rings p target n s
        | (.error _, _) => []

/-- The timers that go off from timer to timer, at most a number of times. -/
def ringsAll (p : Page) : ℕ → Recorder → List (Alarm × Recorder)
  | 0, _ => []
  | n + 1, r => match r.clock.earliest? with
    | none => []
    | some timer =>
      rings p (max r.clock.now timer.due) r.clock.pending r ++
        match (advanceTo p (max r.clock.now timer.due)).run r with
          | (.ok _, s) => ringsAll p n s
          | (.error _, _) => []

/-- The moment in which a timer that goes off adds a step that waits for an idle network, if it does. -/
def waitOf? (p : Page) (ring : Alarm × Recorder) : Option Moment :=
  if (idleWaits ring.2.steps).length < (idleWaits ((goOff p ring.1).run ring.2).2.steps).length then
    some (.waited ring.2.clock.now ring.2.lastUserActionAt (ring.2.onAdded == .fail)) else none

/-- The moments of timers that go off, newest first. -/
def waitsOf (p : Page) (l : List (Alarm × Recorder)) : List Moment := (l.filterMap (waitOf? p)).reverse

lemma waitsOf_cons (p : Page) (ring : Alarm × Recorder) (l : List (Alarm × Recorder)) :
    waitsOf p (ring :: l) = waitsOf p l ++ (waitOf? p ring).toList := by
  unfold waitsOf
  rw [List.filterMap_cons]
  cases waitOf? p ring <;> simp

lemma waitsOf_append (p : Page) (l l' : List (Alarm × Recorder)) :
    waitsOf p (l ++ l') = waitsOf p l' ++ waitsOf p l := by simp [waitsOf]

lemma length_lt_of_idleStamps {steps steps' : List Step} {stamp : ℤ}
    (h : idleStamps steps' = idleStamps steps ++ [stamp]) : (idleWaits steps).length < (idleWaits steps').length := by
  have hlength := congrArg List.length h
  simp only [idleStamps, List.length_append, List.length_map, List.length_singleton] at hlength
  omega

lemma waitOf?_eq_none {ring : Alarm × Recorder}
    (h : idleWaits ((goOff p ring.1).run ring.2).2.steps = idleWaits ring.2.steps) : waitOf? p ring = none :=
  if_neg (by rw [h]; exact lt_irrefl _)

namespace Accords

variable {moments : List Moment}

/-- A wait for an idle network is added, which is one more moment. -/
lemma withWait {m : Moment} {a : Active} {notices : List Notice} (hl : (r.withWait a notices).Linked)
    (hdelay : 0 ≤ r.config.idleDelay) (hunset : Unset r)
    (hc : Chronicle may (m :: moments) r.config r.clock.now (r.withWait a notices).steps)
    (htold : m.isToldWait = true → r.onAdded ≠ .fail ∧ a.traffic.inFlight = 0) :
    Accords may (m :: moments) (r.withWait a notices) where
  linked := hl
  isActive := rfl
  delay := hdelay
  chronicle := hc
  live t ht hta := absurd hta (hunset t ht)
  spent k hk hkt traffic htr := by
    obtain rfl : m = k := by simpa using hk
    obtain ⟨hfail, hnone⟩ := htold hkt
    obtain rfl := Option.some.inj htr
    exact ⟨hnone, if_neg hfail⟩

/-- The network has been idle: a wait for that is added where it may be. -/
lemma ringIdle (h : Accords may moments r) {t : Timer Alarm} (ht : t ∈ r.clock.timers)
    (hfirst : ∀ u ∈ r.clock.timers, t.Ahead u) (hta : t.alarm = .idle) :
    Accords may ((waitOf? p (.idle, { r with clock := r.clock.ring t })).toList ++ moments)
      (wakeIdle.run { r with clock := r.clock.ring t }).2 := by
  have hpath : Path {} r (wakeIdle.run { r with clock := r.clock.ring t }).2 :=
    (wakeIdle_leads h.linked ht hfirst hta).1
  have hlinked := hpath.linked h.linked
  obtain ⟨a, ha⟩ := h.exists_active
  obtain ⟨hhead, hzero⟩ := h.live t ht hta
  have hdue : r.clock.now ≤ t.due := h.linked.sound.ahead t ht
  -- there was this timer only
  have hunset : ∀ u ∈ (r.clock.ring t).timers, u.alarm ≠ .idle := fun u hu hua => by
    obtain ⟨hu, hne⟩ := Clock.mem_ring.1 hu
    have hidle := (h.linked.active a ha).isIdle
    exact hne (Option.some.inj ((hidle u hu hua).symm.trans (hidle t ht hta)))
  have hsteps : (r.changeTraffic ({ · with idleTimer := none })).steps = r.steps :=
    (alike_changeTraffic r _).steps
  have hchronicle : Chronicle may moments r.config t.due r.steps := h.chronicle.onward hdue (.inr rfl)
  have htraffic : ∀ traffic, (r.changeTraffic ({ · with idleTimer := none })).traffic? = some traffic →
      traffic.inFlight = 0 := fun traffic htr => by
    rw [traffic?_changeTraffic] at htr
    obtain ⟨before, hbefore, rfl⟩ := Option.map_eq_some_iff.1 htr
    exact hzero before hbefore
  obtain hrun | ⟨hmay, b, notices, hb, hrun⟩ := wakeIdle_cases { r with clock := r.clock.ring t }
  · have hnone : waitOf? p (.idle, { r with clock := r.clock.ring t }) = none := by
      refine waitOf?_eq_none ?_
      show idleWaits (wakeIdle.run _).2.steps = _
      rw [hrun]
      exact congrArg idleWaits hsteps
    rw [hnone]
    rw [hrun] at hlinked ⊢
    exact {
      linked := hlinked
      isActive := (alike_changeTraffic { r with clock := r.clock.ring t } _).isActive.trans h.isActive
      delay := h.delay
      chronicle := hchronicle.onward le_rfl (.inr (congrArg idleWaits hsteps))
      live := fun u hu hua => absurd hua (hunset u hu)
      spent := fun m hm htold => by
        rw [Option.toList_none, List.nil_append, hhead] at hm
        obtain rfl := Option.some.inj hm
        cases htold }
  · have hgrown : idleStamps (wakeIdle.run { r with clock := r.clock.ring t }).2.steps =
        idleStamps r.steps ++ [stampOf t.due] := by
      rw [hrun, idleStamps_withWait hb]
      exact congrArg (idleStamps · ++ [stampOf t.due]) hsteps
    have hsome : waitOf? p (.idle, { r with clock := r.clock.ring t }) =
        some (.waited t.due r.lastUserActionAt (r.onAdded == .fail)) :=
      if_pos (length_lt_of_idleStamps hgrown)
    rw [hsome]
    have hjustified : Justified r.config (.waited t.due r.lastUserActionAt (r.onAdded == .fail) :: moments) :=
      ⟨hhead, hmay.2, h.chronicle.justified⟩
    have hchronicle := hchronicle.add rfl hjustified hgrown
    rw [hrun] at hlinked hchronicle ⊢
    refine withWait hlinked h.delay hunset hchronicle fun htold => ?_
    refine ⟨?_, htraffic b.traffic (traffic?_eq (a := b) hb)⟩
    rw [(alike_changeTraffic _ _).onAdded]
    simpa [Moment.isToldWait] using htold

/-- **A timer goes off**, with the wait that it may add. -/
theorem ring (h : Accords may moments r) (p : Page) {t : Timer Alarm} (ht : t ∈ r.clock.timers)
    (hfirst : ∀ u ∈ r.clock.timers, t.Ahead u) :
    Accords may ((waitOf? p (t.alarm, { r with clock := r.clock.ring t })).toList ++ moments)
      ((goOff p t.alarm).run { r with clock := r.clock.ring t }).2 := by
  have other : Beside {} r ((goOff p t.alarm).run { r with clock := r.clock.ring t }).2 →
      Accords may ((waitOf? p (t.alarm, { r with clock := r.clock.ring t })).toList ++ moments)
        ((goOff p t.alarm).run { r with clock := r.clock.ring t }).2 := fun hb => by
    have hwaits := hb.waits.resolve_left nofun
    rw [waitOf?_eq_none (by exact hwaits)]
    exact h.beside ⟨hb.linked, hb.config, hb.traffic, hb.timers, .inr hwaits, hb.now⟩
  cases hta : t.alarm with
  | input s =>
    rw [hta] at other
    exact other (wakeText_leads (C := aside {}) p h.linked ht hfirst hta).1
  | mutations =>
    rw [hta] at other
    exact other (wakeMutations_leads (C := aside {}) p h.linked ht hfirst hta).1
  | idle => exact h.ringIdle ht hfirst hta

/-- **All timers that are due by a time go off**, as far as callbacks do not fail. -/
theorem runDue (h : Accords may moments r) (p : Page) {target : ℚ} (hnow : r.clock.now ≤ target) (n : ℕ) :
    Accords may (waitsOf p (rings p target n r) ++ moments) ((Recorder.runDue p target n).run r).2 ∧
      ∀ u, ((Recorder.runDue p target n).run r).1 = .ok u →
        ((Recorder.runDue p target n).run r).2.clock.now ≤ target := by
  induction n generalizing r moments with
  | zero => exact ⟨h, fun _ _ => hnow⟩
  | succ n ih =>
    unfold rings Recorder.runDue
    rw [Course.run_bind, Course.run_get]
    dsimp only
    cases hp : r.clock.popDue? target with
    | none => exact ⟨h, fun _ _ => hnow⟩
    | some popped =>
      obtain ⟨t, clock⟩ := popped
      obtain ⟨ht, hfirst, hdue, rfl⟩ := Clock.popDue?_eq_some hp
      have hring := h.ring p ht hfirst
      have hclock := (goOff_leads {} p h.linked ht hfirst).2
      dsimp only
      rw [Course.run_bind, Course.run_modify]
      dsimp only
      rw [Course.run_bind, waitsOf_cons, List.append_assoc]
      rcases hr : (goOff p t.alarm).run { r with clock := r.clock.ring t } with ⟨fault | u, s⟩ <;>
        rw [hr] at hring hclock
      · exact ⟨hring, fun _ hu => by cases hu⟩
      · dsimp only at hring hclock ⊢
        exact ih hring (by rw [hclock u rfl]; exact hdue)

/-- **Time passes until a time**, with the waits that are added meanwhile. -/
theorem advanceTo (h : Accords may moments r) (p : Page) {target : ℚ} (hnow : r.clock.now ≤ target) :
    Accords may (waitsOf p (rings p target r.clock.pending r) ++ moments) ((Recorder.advanceTo p target).run r).2 := by
  have hpath : Path {} r ((Recorder.advanceTo p target).run r).2 :=
    (advanceTo_runs p target).leads h.linked (.inr hnow)
  have hlinked := hpath.linked h.linked
  obtain ⟨hrun, hlate⟩ := h.runDue p hnow r.clock.pending
  unfold Recorder.advanceTo at hlinked ⊢
  rw [Course.run_bind, Course.run_get] at hlinked ⊢
  dsimp only at hlinked ⊢
  rw [Course.run_bind] at hlinked ⊢
  rcases hr : (Recorder.runDue p target r.clock.pending).run r with ⟨fault | u, s⟩ <;> rw [hr] at hrun hlate hlinked
  · exact hrun
  · exact {
      hrun with
      linked := hlinked
      chronicle := hrun.chronicle.onward (hlate u rfl) (.inr rfl) }

/-- **Time passes from timer to timer**, with the waits that are added meanwhile. -/
theorem runTimers (h : Accords may moments r) (p : Page) (n : ℕ) :
    Accords may (waitsOf p (ringsAll p n r) ++ moments) ((Recorder.runTimers p n).run r).2 := by
  induction n generalizing r moments with
  | zero => exact h
  | succ n ih =>
    unfold ringsAll Recorder.runTimers
    rw [Course.run_bind, Course.run_get]
    dsimp only
    cases he : r.clock.earliest? with
    | none => exact h
    | some timer =>
      have hadvance := h.advanceTo p (le_max_left r.clock.now timer.due)
      dsimp only
      rw [Course.run_bind, waitsOf_append, List.append_assoc]
      rcases hr : (Recorder.advanceTo p (max r.clock.now timer.due)).run r with ⟨fault | u, s⟩ <;> rw [hr] at hadvance
      · exact hadvance
      · exact ih hadvance

end Accords

/-- The timers that go off on a signal, each with the recorder when its alarm is heard. -/
def Signal.rings (s : Signal) (r : Recorder) : List (Alarm × Recorder) :=
  match s with
  | advance p ms => Recorder.rings p (r.clock.now + ms) r.clock.pending r
  | runAll p => ringsAll p r.clock.pending r
  | _ => []

/-! ### Before the end of a session -/

namespace Accords

variable {moments : List Moment}

/-- The timer for an idle network is cancelled. -/
lemma quieted (h : Accords may moments r) (hl : r'.Linked) (ha : Alike r r') (hunset : Unset r')
    (ht : r'.traffic? = r.traffic?.map ({ · with idleTimer := none })) : Accords may moments r' where
  linked := hl
  isActive := ha.isActive.trans h.isActive
  delay := ha.config ▸ h.delay
  chronicle := by
    rw [ha.config, ha.now, ha.steps]
    exact h.chronicle
  live t ht hta := absurd hta (hunset t ht)
  spent m hm htold traffic htr := by
    rw [ht] at htr
    obtain ⟨before, hbefore, rfl⟩ := Option.map_eq_some_iff.1 htr
    exact h.spent m hm htold before hbefore

/-- Where a request is under way, or has settled after the last wait, no wait for an idle network is the newest
moment. -/
lemma not_isToldWait (h : Accords may moments r) {a : Active} (ha : r.active = some a)
    (hu : a.traffic.idleTimer.isSome = true ∨ a.traffic.inFlight ≠ 0 ∨ a.traffic.settledSinceIdle = true) :
    ∀ m ∈ moments.head?, m.isToldWait = false := by
  intro m hm
  rw [Bool.eq_false_iff]
  intro htold
  obtain ⟨hnone, hsettled⟩ := h.spent m hm htold _ (traffic?_eq ha)
  rcases hu with htimer | hflight | hlate
  · obtain ⟨n, hn⟩ := Option.isSome_iff_exists.1 htimer
    obtain ⟨t, ht, -, hta⟩ := (h.linked.active a ha).idle n hn
    rw [(h.live t ht hta).1] at hm
    obtain rfl := Option.some.inj hm
    cases htold
  · exact hflight hnone
  · rw [hsettled] at hlate
    cases hlate

/-- **Before a session is stopped** a wait is added where a request is under way or has settled after the last wait; or
nothing is added.  If the callbacks fail on it, the session goes on. -/
theorem noteUnsettled (h : Accords may moments r) :
    (idleWaits (Recorder.noteUnsettled.run r).2.steps = idleWaits r.steps ∧
      Accords may moments (Recorder.noteUnsettled.run r).2) ∨
    (idleStamps (Recorder.noteUnsettled.run r).2.steps = idleStamps r.steps ++ [r.now] ∧
      (Recorder.noteUnsettled.run r).2.active.isSome = true ∧
      Chronicle may (.closed r.clock.now (r.onAdded == .fail) :: moments) (Recorder.noteUnsettled.run r).2.config
        (Recorder.noteUnsettled.run r).2.clock.now (Recorder.noteUnsettled.run r).2.steps ∧
      ∀ fault, (Recorder.noteUnsettled.run r).1 = .error fault →
        Accords may (.closed r.clock.now (r.onAdded == .fail) :: moments) (Recorder.noteUnsettled.run r).2) := by
  obtain ⟨a, ha⟩ := h.exists_active
  obtain ⟨s, hcancel, hlinked, halike, hunset, htraffic⟩ := h.linked.cancelIdle
  unfold Recorder.noteUnsettled
  rw [Course.run_bind, Course.run_get]
  simp only [ha]
  split
  case isFalse => exact .inl ⟨rfl, h⟩
  rename_i hunsettled
  have hu : a.traffic.idleTimer.isSome = true ∨ a.traffic.inFlight ≠ 0 ∨ a.traffic.settledSinceIdle = true := by
    simp only [Traffic.isRecent, Bool.or_eq_true, Bool.and_eq_true, bne_iff_ne] at hunsettled
    tauto
  rw [Course.run_bind, hcancel]
  dsimp only
  have hpath : Path {} s (noteIdle.run s).2 := noteIdle_runs.leads hlinked ⟨rfl, rfl⟩
  have hnoted := hpath.linked hlinked
  obtain ⟨-, hrun⟩ | ⟨-, b, notices, hb, hrun⟩ := noteIdle_cases s <;> rw [hrun] at hnoted ⊢
  · exact .inl ⟨congrArg idleWaits halike.steps, h.quieted hlinked halike hunset htraffic⟩
  have hgrown : idleStamps (s.withWait b notices).steps = idleStamps r.steps ++ [r.now] := by
    rw [idleStamps_withWait hb, halike.steps, Recorder.now, halike.now]
    rfl
  have hclosed : Chronicle may (.closed r.clock.now (r.onAdded == .fail) :: moments) s.config s.clock.now
      (s.withWait b notices).steps := by
    rw [halike.config, halike.now]
    exact h.chronicle.add rfl ⟨h.not_isToldWait ha hu, h.chronicle.justified⟩ hgrown
  refine .inr ⟨hgrown, rfl, hclosed, fun fault hf => ?_⟩
  -- the callbacks fail on the step
  by_cases hfail : s.onAdded = .fail
  · refine withWait hnoted (halike.config ▸ h.delay) hunset hclosed fun htold => ?_
    rw [← halike.onAdded] at htold
    simp [Moment.isToldWait, hfail] at htold
  · simp [hfail] at hf

end Accords

/-! ### The end of a session -/

/-- The steps of the session, be it active or stopped. -/
def sessionSteps (r : Recorder) : List Step := (r.session?.map (·.steps)).getD []

lemma sessionSteps_of_active {a : Active} (h : r.active = some a) : r.sessionSteps = r.steps := by
  simp [sessionSteps, session?, steps, h]

lemma sessionSteps_conclude {a : Active} (h : r.active = some a) : r.conclude.sessionSteps = r.steps := by
  rw [sessionSteps, session?, conclude_active, steps, h]
  simp [conclude, h]

lemma conclude_now (r : Recorder) : r.conclude.clock.now = r.clock.now := by
  rw [conclude_clock, drop_now]

/-- The texts that wait are recorded in no time, and the callbacks stay. -/
lemma recordAllWaiting_atOnce (p : Page) {now : ℚ} {reaction : Reaction} :
    (course {}).Runs (fun s => s.clock.now = now ∧ s.onAdded = reaction) (recordAllWaiting p) fun _ s =>
      s.clock.now = now ∧ s.onAdded = reaction := by
  unfold recordAllWaiting
  refine .bind_get fun r => ?_
  split
  · rename_i a ha
    refine Course.Runs.mono (Course.Runs.forM (I := fun l s => (∃ a, s.active = some a ∧ a.inputs.waiting = l) ∧
      s.clock.now = now ∧ s.onAdded = reaction) (fun w rest s hs hP => ?_) a.inputs.waiting) ?_ ?_
    · obtain ⟨hwaits, hnow, hreaction⟩ := hP
      obtain ⟨hleads, hrest⟩ := recordWaiting_runs (C := course {}) p w rest s hs hwaits
      obtain ⟨b, hb, hw⟩ := hwaits
      obtain ⟨-, steps, notices, -, hrun⟩ := recordWaiting_run p hs hb hw
      refine ⟨hleads, fun u hu => ⟨hrest u hu, ?_⟩⟩
      rw [hrun]
      exact ⟨hnow, hreaction⟩
    · rintro s - ⟨rfl, h⟩
      exact ⟨⟨a, ha, rfl⟩, h⟩
    · exact fun _ _ h => h.2
  · exact .pure fun s _ h => h.2

/-- The moment in which the end of a session adds a step that waits for an idle network, if it does. -/
def endOf (r r' : Recorder) : List Moment :=
  if (idleWaits r.sessionSteps).length < (idleWaits r'.sessionSteps).length then
    [.closed r.clock.now (r.onAdded == .fail)] else []

lemma endOf_eq_nil (h : idleWaits r'.sessionSteps = idleWaits r.sessionSteps) : endOf r r' = [] :=
  if_neg (by rw [h]; exact lt_irrefl _)

lemma endOf_eq_singleton {stamp : ℤ} (h : idleStamps r'.sessionSteps = idleStamps r.sessionSteps ++ [stamp]) :
    endOf r r' = [.closed r.clock.now (r.onAdded == .fail)] := if_pos (length_lt_of_idleStamps h)

/-- **A session is stopped**, with the wait that is added before; where that fails it goes on. -/
theorem Accords.stop {moments : List Moment} (h : Accords may moments r) (p : Page) :
    Chronicle may (endOf r ((Recorder.stop p).run r).2 ++ moments) ((Recorder.stop p).run r).2.config
        ((Recorder.stop p).run r).2.clock.now ((Recorder.stop p).run r).2.sessionSteps ∧
      (((Recorder.stop p).run r).2.active.isSome = true →
        Accords may (endOf r ((Recorder.stop p).run r).2 ++ moments) ((Recorder.stop p).run r).2) := by
  obtain ⟨a, ha⟩ := h.exists_active
  have hsteps := sessionSteps_of_active ha
  have hflushed : Beside {} r ((recordAllWaiting p).run r).2 := (recordAllWaiting_runs (C := aside {}) p).leads
    h.linked trivial
  have hatOnce := (recordAllWaiting_atOnce p r h.linked ⟨rfl, rfl⟩).2
  have hwaits := hflushed.waits.resolve_left nofun
  have haccords := h.beside ⟨hflushed.linked, hflushed.config, hflushed.traffic, hflushed.timers, .inr hwaits,
    hflushed.now⟩
  have going : ∀ {t : Recorder}, Accords may moments t → idleWaits t.steps = idleWaits r.steps →
      Chronicle may (endOf r t ++ moments) t.config t.clock.now t.sessionSteps ∧
        (t.active.isSome = true → Accords may (endOf r t ++ moments) t) := fun ht hw => by
    obtain ⟨b, hb⟩ := ht.exists_active
    have hnone : endOf r _ = [] := endOf_eq_nil (by rw [sessionSteps_of_active hb, hsteps, hw])
    rw [hnone, sessionSteps_of_active hb]
    exact ⟨ht.chronicle, fun _ => ht⟩
  rw [stop_run ha, Course.run_bind]
  rcases hr : (recordAllWaiting p).run r with ⟨fault | u, s⟩ <;> rw [hr] at hatOnce hwaits haccords
  · exact going haccords hwaits
  obtain ⟨hnow, hadded⟩ := hatOnce u rfl
  have hnoted := haccords.noteUnsettled
  dsimp only at hnow hadded hnoted hwaits ⊢
  rw [hnow, hadded, Recorder.now, hnow] at hnoted
  have hstamps : idleStamps s.steps = idleStamps r.sessionSteps := by rw [hsteps, idleStamps, hwaits, idleStamps]
  rcases ht : Recorder.noteUnsettled.run s with ⟨fault | u, t⟩ <;> rw [ht] at hnoted <;> dsimp only at hnoted ⊢
  · obtain ⟨hw, hs⟩ | ⟨hgrown, -, hclosed, hs⟩ := hnoted
    · exact going hs (hw.trans hwaits)
    · obtain ⟨b, hb⟩ := (hs fault rfl).exists_active
      have hone : endOf r t = _ := endOf_eq_singleton (by rw [sessionSteps_of_active hb, hgrown, hstamps])
      rw [hone, sessionSteps_of_active hb]
      exact ⟨hclosed, fun _ => hs fault rfl⟩
  · refine ⟨?_, fun hc => absurd hc (by simp)⟩
    rw [conclude_config, conclude_now]
    obtain ⟨hw, hs⟩ | ⟨hgrown, hactive, hclosed, -⟩ := hnoted
    · obtain ⟨b, hb⟩ := hs.exists_active
      have hnone : endOf r t.conclude = [] := endOf_eq_nil (by rw [sessionSteps_conclude hb, hsteps, hw, hwaits])
      rw [hnone, sessionSteps_conclude hb]
      exact hs.chronicle
    · obtain ⟨b, hb⟩ := Option.isSome_iff_exists.1 hactive
      have hone : endOf r t.conclude = _ := endOf_eq_singleton (by rw [sessionSteps_conclude hb, hgrown, hstamps])
      rw [hone, sessionSteps_conclude hb]
      exact hclosed

end PageTape.Recorder
