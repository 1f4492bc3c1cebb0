import PageTape.Proofs.Recorder.Gesture

/-!
# What page and network do is recorded by moves

The steps that a recorder adds by itself are of the time it is (`note_runs`), and no clock is touched by adding them.
Requests are counted only where `may.counts` holds; `requestEnded` and its kin also set the timer for an idle network,
`heed` that for the changes of the page.
-/

namespace PageTape.Recorder

variable {C : Course Recorder} {may : Leave} {p : Page} {r : Recorder} {c : Clock Alarm}
  {b : Bool} {w : List (Waiting String Typed)}

/-- A step of the recorder itself is added, if it is recording. -/
lemma note_runs [hC : Admits C may] (step : Step) (hk : step.kind.isSynthetic = true)
    (hn : (step.kind == .waitForNetworkIdle) = false) :
    C.Runs (fun s => (s.clock = c ∧ s.texts = w) ∧ step.timestamp = s.now) (add step) fun _ s =>
      s.clock = c ∧ s.texts = w := by
  rintro s hs ⟨⟨rfl, rfl⟩, ht⟩
  obtain ⟨-, hrun⟩ | ⟨a, notices, h, hr, hrun⟩ := add_cases step s <;> rw [hrun]
  · exact ⟨C.refl s, fun _ _ => ⟨rfl, rfl⟩⟩
  · refine ⟨hC.deed hs ⟨.noted notices h hr hk ht, by rw [h]; rfl, .inr ?_, le_rfl⟩, fun _ _ =>
      ⟨rfl, (texts_eq h).symm⟩⟩
    rw [steps_of_active h]
    exact idleWaits_concat hn _

/-- A wait for an idle network is added, if the recorder is recording. -/
lemma noteWait_runs (step : Step) (hk : step.kind.isSynthetic = true) :
    (course may).Runs (fun s => (s.clock = c ∧ s.texts = w) ∧ step.timestamp = s.now) (add step) fun _ s =>
      s.clock = c ∧ s.texts = w := by
  rintro s - ⟨⟨rfl, rfl⟩, ht⟩
  obtain ⟨-, hrun⟩ | ⟨a, notices, h, hr, hrun⟩ := add_cases step s <;> rw [hrun]
  · exact ⟨.refl, fun _ _ => ⟨rfl, rfl⟩⟩
  · exact ⟨.single (.noted notices h hr hk ht), fun _ _ => ⟨rfl, (texts_eq h).symm⟩⟩

/-! ### Requests -/

lemma changeTraffic_of_none (h : r.active = none) (f : Traffic → Traffic) : r.changeTraffic f = r := by
  rw [changeTraffic, changeActive, h, Option.map_none, ← h]

lemma changeTraffic_of_some {a : Active} (h : r.active = some a) (f : Traffic → Traffic) :
    r.changeTraffic f = { r with active := some { a with traffic := f a.traffic } } := by
  rw [changeTraffic, changeActive, h, Option.map_some]

lemma texts_changeTraffic (r : Recorder) (f : Traffic → Traffic) : (r.changeTraffic f).texts = r.texts := by
  cases h : r.active with
  | none => rw [changeTraffic_of_none h]
  | some a => rw [changeTraffic_of_some h, texts_eq h, texts_eq rfl]

/-- What is known of the network changes, but not the timer for an idle network. -/
lemma changeTraffic_path (r : Recorder) (f : Traffic → Traffic) (hi : ∀ t, (f t).idleTimer = t.idleTimer)
    (hc : may.counts = true ∨ ∀ t, (f t).ledger = t.ledger) : Path may r (r.changeTraffic f) := by
  cases h : r.active with
  | none =>
    rw [changeTraffic_of_none h]
  | some a =>
    rw [changeTraffic_of_some h]
    exact .single (.counted h (hi _) (hc.imp_right fun hc => hc _))

/-- After this no timer is set for an idle network. -/
lemma cancelIdle_runs : (course may).Runs (fun s => s.active.isSome = b ∧ s.texts = w) cancelIdle fun _ s =>
    (s.active.isSome = b ∧ s.texts = w) ∧ ∀ a, s.active = some a → a.traffic.idleTimer = none := by
  refine .modify fun s hs hb => ?_
  cases ht : s.active.bind (·.traffic.idleTimer) with
  | none =>
    refine ⟨.refl, hb, fun a h => ?_⟩
    simpa [h] using ht
  | some n =>
    obtain ⟨a, h, hn⟩ := Option.bind_eq_some_iff.1 ht
    simp only [changeTraffic_of_some h]
    refine ⟨.single (.idleCancelled h hn), by simpa [h, texts] using hb, fun b hb => ?_⟩
    obtain rfl := Option.some.inj hb
    rfl

/-- There must be a session to set the timer for. -/
lemma awaitIdle_runs : (course may).Runs (fun s => s.active.isSome = true) awaitIdle fun _ _ => True := by
  unfold awaitIdle
  have hcancel : (course may).Runs (fun s => s.active.isSome = true) cancelIdle fun _ s =>
      s.active.isSome = true ∧ ∀ a, s.active = some a → a.traffic.idleTimer = none := by
    intro s hs h
    obtain ⟨h₁, h₂⟩ := cancelIdle_runs s hs ⟨h, rfl⟩
    exact ⟨h₁, fun u hu => ⟨(h₂ u hu).1.1, (h₂ u hu).2⟩⟩
  refine .bind hcancel fun _ => .modify fun s _ ⟨hs, hn⟩ => ⟨?_, trivial⟩
  obtain ⟨a, h⟩ := Option.isSome_iff_exists.1 hs
  simp only [changeTraffic_of_some h]
  exact .single (.idleSet _ h (hn a h))

lemma requestBegun_runs (hm : may.counts = true) : Moves may requestBegun := by
  unfold requestBegun
  refine .bind (Q := fun _ _ => True) (.modify fun s _ _ => ?_) fun _ => fun s hs _ => ?_
  · exact ⟨changeTraffic_path s _ (fun _ => rfl) (.inl hm), trivial⟩
  · exact ⟨(cancelIdle_runs.leads hs ⟨rfl, rfl⟩), fun _ _ => trivial⟩

/-- What follows a response that is kept: a step that expects it, if these are noted, and the timer for an idle
network. -/
lemma afterResponse_runs (notes : Bool) (response : Response) :
    (course may).Runs (fun s => response.timestamp = s.now)
      (if notes = true then discard (add (responseStep response)) >>= fun _ =>
          get >>= fun s : Recorder => if (s.active.any (·.traffic.inFlight == 0)) = true then awaitIdle else pure ()
        else get >>= fun s : Recorder => if (s.active.any (·.traffic.inFlight == 0)) = true then awaitIdle else pure ())
      fun _ _ => True := by
  have hlast : (course may).Runs (fun _ => True)
      (get >>= fun s : Recorder => if (s.active.any (·.traffic.inFlight == 0)) = true then awaitIdle else pure ())
      fun _ _ => True := by
    refine .bind_get fun s => .ite (fun h => awaitIdle_runs.strengthen ?_) fun _ => .pure fun _ _ _ => trivial
    rintro t - ⟨rfl, -⟩
    exact Option.isSome_of_any h
  refine .ite (fun _ => ?_) fun _ => hlast.strengthen fun _ _ _ => trivial
  refine .bind (Course.Runs.discard (T := fun _ _ => True) fun s hs h => ?_) fun _ => hlast
  exact ⟨(note_runs _ rfl rfl).leads hs ⟨⟨rfl, rfl⟩, h⟩, fun _ _ => trivial⟩

lemma requestEnded_runs (hm : may.counts = true) (url method : String) (status : Int) :
    Moves may (requestEnded url method status) := by
  unfold requestEnded
  refine .bind (Q := fun _ _ => True) (.modify fun s _ _ => ?_) fun _ => .bind_get fun r => ?_
  · exact ⟨changeTraffic_path s _ (fun _ => rfl) (.inl hm), trivial⟩
  refine .ite (fun _ => .pure fun _ _ _ => trivial) fun _ => ?_
  dsimp only
  refine .bind (Q := fun _ s => s.clock = r.clock) (.set fun s _ ⟨hs, _⟩ => ?_) fun _ => ?_
  · subst hs
    exact ⟨changeTraffic_path s _ (fun _ => rfl) (.inl hm), rfl⟩
  exact (afterResponse_runs _ ⟨url, method, status, r.now⟩).strengthen fun s _ h =>
    congrArg (fun c : Clock Alarm => stampOf c.now) h.symm

lemma requestEndedIn_runs (hm : may.counts = true) (serial : Nat) (url method : String) (status : Int) :
    Moves may (requestEndedIn serial url method status) := by
  unfold requestEndedIn
  exact .bind_get fun r => .ite (fun _ => (requestEnded_runs hm _ _ _).strengthen fun _ _ _ => trivial)
    fun _ => .pure fun _ _ _ => trivial

lemma requestOpened_runs (hm : may.counts = true) (number : Nat) (url method : String) :
    Moves may (requestOpened number url method) :=
  .modify fun s _ _ => ⟨changeTraffic_path s _ (fun _ => rfl) (.inl hm), trivial⟩

lemma requestSent?_runs (hm : may.counts = true) (number : Nat) : Moves may (requestSent? number) := by
  unfold requestSent?
  refine .bind_get fun r => ?_
  split
  · exact .pure fun _ _ _ => trivial
  · split
    · refine .ite (fun _ => ?_) fun _ => .pure fun _ _ _ => trivial
      exact .bind ((requestBegun_runs hm).strengthen fun _ _ _ => trivial) fun _ => .pure fun _ _ _ => trivial
    · exact .pure fun _ _ _ => trivial

lemma requestDone_runs (hm : may.counts = true) (number serial : Nat) (url method : String) (status : Int) :
    Moves may (requestDone number serial url method status) := by
  unfold requestDone
  refine .bind_get fun r => .ite (fun _ => ?_) fun _ => .pure fun _ _ _ => trivial
  refine .bind (Q := fun _ _ => True) (.modify fun s _ _ => ?_) fun _ => requestEnded_runs hm _ _ _
  exact ⟨changeTraffic_path s _ (fun _ => rfl) (.inl hm), trivial⟩

/-! ### An idle network -/

lemma noteIdle_runs : (course may).Runs (fun s => s.clock = c ∧ s.texts = w) noteIdle fun _ s =>
    s.clock = c ∧ s.texts = w := by
  unfold noteIdle
  refine .bind_get fun r => .ite (fun _ => .pure fun _ _ h => h.2) fun _ => ?_
  refine .bind ((noteWait_runs (c := c) (w := w) _ rfl).strengthen ?_) fun added => ?_
  · rintro s - ⟨rfl, h⟩
    exact ⟨h, rfl⟩
  · refine .ite (fun _ => .modify fun s _ h => ?_) fun _ => .pure fun _ _ h => h
    exact ⟨changeTraffic_path s _ (fun _ => rfl) (.inr fun _ => rfl), h.1, (texts_changeTraffic _ _).trans h.2⟩

/-- What is noted before the end of a session lets no text wait that did not. -/
lemma noteUnsettled_runs : (course may).Runs Calm noteUnsettled fun _ => Calm := by
  unfold noteUnsettled
  refine .bind_get fun r => ?_
  split
  · exact .pure fun _ _ h => h.2
  · refine .ite (fun _ => ?_) fun _ => .pure fun _ _ h => h.2
    refine .bind (Q := fun _ => Calm) (fun s hs hc => ?_) fun _ s hs hc => ?_
    · have h := cancelIdle_runs s hs ⟨rfl, calm_iff.1 hc.2⟩
      exact ⟨h.1, fun a ha => calm_iff.2 (h.2 a ha).1.2⟩
    · have h := noteIdle_runs s hs ⟨rfl, calm_iff.1 hc⟩
      exact ⟨h.1, fun a ha => calm_iff.2 (h.2 a ha).2⟩

end PageTape.Recorder
