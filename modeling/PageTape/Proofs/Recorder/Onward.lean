import PageTape.Proofs.Recorder.Order

/-!
# A recorder goes on

* `GoesOn r r'` — time has not gone back from `r` to `r'`, and nothing that is new carries an earlier time than that of
  `r`.  A text may have waited all the while, and a step that fills its field carries the time of its last event;
* `Move.passes`, `Linked.goesOn_obey` — so it is with every move and every signal of a session whose clock does not go
  back and whose steps are not edited by hand; `GoesOn.conclude`, `GoesOn.begun` — and when a session ends or begins.
-/

namespace PageTape.Recorder

variable {may : Leave} {r r' r'' : Recorder} {a : Active}

/-- The steps of the session, be it active or stopped. -/
def recorded (r : Recorder) : List Step := (r.session?.map (·.steps)).getD []

lemma recorded_of_active (h : r.active = some a) : r.recorded = a.session.steps := by simp [recorded, session?, h]

lemma responses_of_active (h : r.active = some a) : r.responses = a.traffic.responses := by simp [responses, h]

/-- The step fills the field of a text, and carries its time. -/
def FillsLate (step : Step) (w : Waiting String Typed) : Prop :=
  step.kind = .fill ∧ step.selector = some w.key ∧ step.timestamp = stampOf w.payload.since

lemma Fills.late {step : Step} {w : Waiting String Typed} (h : Fills step w) : FillsLate step w :=
  ⟨h.1, h.2.1, h.2.2.2⟩

/-! ### Time and steps -/

/-- **Time passes.**  A text that waits now has waited before, or is not earlier than it was then.  A step is one from
before, perhaps with another value; or it fills the field of a text that waited before; or it is not earlier. -/
structure Passes (r r' : Recorder) : Prop where
  now : r.clock.now ≤ r'.clock.now
  texts : ∀ w ∈ r'.texts, w ∈ r.texts ∨ r.clock.now ≤ w.payload.since
  steps : ∀ step ∈ r'.recorded, (∃ old ∈ r.recorded, step = { old with value := step.value }) ∨
    (∃ w ∈ r.texts, FillsLate step w) ∨ r.now ≤ step.timestamp

namespace Passes

/-- Where no text and no step is new. -/
lemma of_subset (hn : r.clock.now ≤ r'.clock.now) (ht : ∀ w ∈ r'.texts, w ∈ r.texts)
    (hs : ∀ step ∈ r'.recorded, step ∈ r.recorded) : Passes r r' where
  now := hn
  texts w hw := .inl (ht w hw)
  steps step hstep := .inl ⟨step, hs step hstep, rfl⟩

lemma refl (r : Recorder) : Passes r r := .of_subset le_rfl (fun _ h => h) fun _ h => h

lemma trans (h : Passes r r') (h' : Passes r' r'') : Passes r r'' where
  now := h.now.trans h'.now
  texts w hw := by
    rcases h'.texts w hw with hw | hw
    · exact h.texts w hw
    · exact .inr (h.now.trans hw)
  steps step hstep := by
    rcases h'.steps step hstep with ⟨old, hold, heq⟩ | ⟨w, hw, hlate⟩ | hnew
    · have hk : step.kind = old.kind := by rw [heq]
      have hsel : step.selector = old.selector := by rw [heq]
      have ht : step.timestamp = old.timestamp := by rw [heq]
      rcases h.steps old hold with ⟨older, holder, heq'⟩ | ⟨w, hw, hlate⟩ | hnew
      · exact .inl ⟨older, holder, by rw [heq, heq']⟩
      · exact .inr (.inl ⟨w, hw, hk.trans hlate.1, hsel.trans hlate.2.1, ht.trans hlate.2.2⟩)
      · exact .inr (.inr (ht ▸ hnew))
    · rcases h.texts w hw with hw | hw
      · exact .inr (.inl ⟨w, hw, hlate⟩)
      · exact .inr (.inr (hlate.2.2 ▸ stampOf_mono hw))
    · exact .inr (.inr ((stampOf_mono h.now).trans hnew))

end Passes

/-- Once a text is recorded, each step is one from before or fills its field. -/
lemma Takes.mem {w : Waiting String Typed} {steps steps' : List Step} (h : Takes w steps steps') {step : Step}
    (hstep : step ∈ steps') : step ∈ steps ∨ Fills step w := by
  obtain ⟨init, last, rfl, hinit, hfills⟩ := h.eq_append
  rcases List.mem_append.1 hstep with hstep | hstep
  · exact .inl (hinit.subset hstep)
  · obtain rfl := List.mem_singleton.1 hstep
    exact .inr hfills

/-- A text that waits is recorded. -/
lemma passes_take {steps : List Step} {w : Waiting String Typed} (h : r.active = some a)
    (hn : r.clock.now ≤ r'.clock.now) (hw : w ∈ a.inputs.waiting) (hs : Takes w a.session.steps steps)
    (h' : r'.active = some { a.withSteps steps with inputs := a.inputs.drop w.key }) : Passes r r' where
  now := hn
  texts v hv := by
    rw [texts_eq h'] at hv
    rw [texts_eq h]
    exact .inl (Debouncer.mem_drop.1 hv).1
  steps step hstep := by
    rw [recorded_of_active h'] at hstep
    rw [recorded_of_active h, texts_eq h]
    rcases hs.mem hstep with hstep | hfills
    · exact .inl ⟨step, hstep, rfl⟩
    · exact .inr (.inl ⟨w, hw, hfills.late⟩)

/-- A step of the time it is stands behind the others. -/
lemma passes_concat {step : Step} (h : r.active = some a) (hn : r.clock.now ≤ r'.clock.now)
    (ht : step.timestamp = r.now) (h' : r'.active = some (a.withSteps (a.session.steps ++ [step]))) : Passes r r' where
  now := hn
  texts v hv := by
    rw [texts_eq h'] at hv
    rw [texts_eq h]
    exact .inl hv
  steps s hs := by
    rw [recorded_of_active h'] at hs
    rw [recorded_of_active h]
    rcases List.mem_append.1 hs with hs | hs
    · exact .inl ⟨s, hs, rfl⟩
    · obtain rfl := List.mem_singleton.1 hs
      exact .inr (.inr ht.ge)

/-- The texts and the steps stay. -/
lemma passes_same {b : Active} (h : r.active = some a) (hn : r.clock.now ≤ r'.clock.now) (h' : r'.active = some b)
    (hi : b.inputs = a.inputs) (hs : b.session.steps = a.session.steps) : Passes r r' :=
  .of_subset hn (by rw [texts_eq h, texts_eq h', hi]; exact fun _ h => h)
    (by rw [recorded_of_active h, recorded_of_active h', hs]; exact fun _ h => h)

/-- **No move dates anything back**, if the clock does not go back and no steps are edited by hand. -/
theorem Move.passes (hm : Move may r r') (hb : may.back = false) (he : may.edits = false) (hl : r.Linked) :
    Passes r r' := by
  cases hm with
  | told notices | attended onAdded onUpdated => exact .of_subset le_rfl (fun _ h => h) fun _ h => h
  | flushed notices h hr hw hs => exact passes_take h le_rfl (by rw [hw]; exact List.mem_cons_self) hs rfl
  | rung notices h hr hw hfirst hs =>
    exact passes_take h (hl.sound.ahead _ ((hl.active _ h).inputs.isSet _ hw)) hw hs rfl
  | acted notices h hr hw hk ht hf => exact passes_concat h le_rfl ht rfl
  | noted notices h hr hk ht => exact passes_concat h le_rfl ht rfl
  | @rechosen a steps last notices value h hw hs hk =>
    refine ⟨le_rfl, fun w hw => ?_, fun step hstep => ?_⟩
    · rw [texts_eq rfl] at hw
      rw [texts_eq h]
      exact .inl hw
    · rw [recorded_of_active rfl] at hstep
      rw [recorded_of_active h, hs]
      rcases List.mem_append.1 hstep with hstep | hstep
      · exact .inl ⟨step, List.mem_append_left _ hstep, rfl⟩
      · obtain rfl := List.mem_singleton.1 hstep
        exact .inl ⟨last, List.mem_append_right _ (List.mem_singleton_self _), rfl⟩
  | edited steps last notices h hedits =>
    rw [he] at hedits
    cases hedits
  | heeded payload h => exact passes_same h (by rw [Debouncer.schedule_now]) rfl rfl rfl
  | settled h hw hfirst =>
    exact passes_same h (hl.sound.ahead _ ((hl.active _ h).mutations.isSet _ hw)) rfl rfl rfl
  | idleRung h ht hta hfirst => exact passes_same h (hl.sound.ahead _ ht) rfl rfl rfl
  | counted h hi hc | idleSet delay h hn | idleCancelled h hn | paused h hw | resumed h hst =>
    exact passes_same h le_rfl rfl rfl rfl
  | passed time hdue hforward =>
    have hnow : r.clock.now ≤ time := hforward.resolve_left fun h => by
      rw [hb] at h
      cases h
    exact .of_subset hnow (fun _ h => h) fun _ h => h

lemma Path.passes (hp : Path may r r') (hb : may.back = false) (he : may.edits = false) (hl : r.Linked) :
    Passes r r' := by
  induction hp with
  | refl => exact .refl r
  | tail hp hm ih => exact ih.trans (hm.passes hb he (Path.linked hp hl))

/-! ### Responses -/

/-- **A recorder goes on**: time passes, and a response is one from before or not earlier than it was then. -/
structure GoesOn (r r' : Recorder) : Prop extends Passes r r' where
  responses : ∀ x ∈ r'.responses, x ∈ r.responses ∨ r.now ≤ x.timestamp

namespace GoesOn

lemma refl (r : Recorder) : GoesOn r r := ⟨.refl r, fun _ h => .inl h⟩

lemma trans (h : GoesOn r r') (h' : GoesOn r' r'') : GoesOn r r'' where
  toPasses := h.toPasses.trans h'.toPasses
  responses x hx := by
    rcases h'.responses x hx with hx | hx
    · exact h.responses x hx
    · exact .inr ((stampOf_mono h.now).trans hx)

/-- Nobody minds what there is to be told. -/
lemma forget (h : GoesOn r r') : GoesOn r { r' with notices := [] } := ⟨⟨h.now, h.texts, h.steps⟩, h.responses⟩

end GoesOn

/-- Moves by which no requests are counted leave the responses. -/
lemma Path.responses (hp : Path may r r') (hc : may.counts = false) : r'.responses = r.responses := by
  have hledger := hp.ledger hc
  have hstopped := hp.sameSession.stoppedResponses
  unfold Recorder.responses
  cases h : r.active with
  | none =>
    rw [h, Option.map_none, Option.map_eq_none_iff] at hledger
    rw [hledger]
    exact hstopped
  | some a =>
    rw [h] at hledger
    obtain ⟨b, hb, hsame⟩ := Option.map_eq_some_iff.1 hledger
    rw [hb]
    exact congrArg (·.2.1) hsame

lemma Path.goesOn (hp : Path {} r r') (hl : r.Linked) : GoesOn r r' :=
  ⟨hp.passes rfl rfl hl, fun x hx => .inl (by rwa [hp.responses rfl] at hx)⟩

/-- The course of a recorder in no time: a response that is new is of the time it is. -/
def answering : Course Recorder where
  holds _ := True
  leads r r' := r'.clock.now = r.clock.now ∧ ∀ x ∈ r'.responses, x ∈ r.responses ∨ x.timestamp = r.now
  refl _ := ⟨rfl, fun _ h => .inl h⟩
  trans := by
    rintro r s t ⟨hn, hr⟩ ⟨hn', hr'⟩
    refine ⟨hn'.trans hn, fun x hx => ?_⟩
    rcases hr' x hx with hx | hx
    · exact hr x hx
    · exact .inr (hx.trans (congrArg stampOf hn))
  keeps _ h := h

/-- A program answers no earlier than now. -/
abbrev Answers {α : Type} (act : Act α) : Prop := answering.Runs (fun _ => True) act fun _ _ => True

lemma answering_changeTraffic (r : Recorder) {f : Traffic → Traffic}
    (hf : ∀ t, ∀ x ∈ (f t).responses, x ∈ t.responses ∨ x.timestamp = r.now) :
    answering.leads r (r.changeTraffic f) := by
  cases h : r.active with
  | none =>
    rw [changeTraffic_of_none h]
    exact answering.refl r
  | some a =>
    rw [changeTraffic_of_some h]
    refine ⟨rfl, fun x hx => ?_⟩
    rw [responses_of_active h]
    exact hf a.traffic x hx

lemma changeTraffic_answers {f : Recorder → Traffic → Traffic} (hf : ∀ r t, (f r t).responses = t.responses) :
    Answers (modify fun r => r.changeTraffic (f r)) :=
  .modify fun r _ _ => ⟨answering_changeTraffic r fun t _ hx => .inl (hf r t ▸ hx), trivial⟩

lemma cancelIdle_answers : Answers cancelIdle := .modify fun r _ _ => by
  refine ⟨?_, trivial⟩
  split
  · exact answering_changeTraffic r (f := ({ · with idleTimer := none })) fun _ _ hx => .inl hx
  · exact answering.refl r

lemma awaitIdle_answers : Answers awaitIdle :=
  .bind cancelIdle_answers fun _ => .modify fun r _ _ =>
    ⟨answering_changeTraffic r (f := ({ · with idleTimer := some (r.clock.setTimer r.config.idleDelay .idle).1 }))
      fun _ _ hx => .inl hx, trivial⟩

lemma requestBegun_answers : Answers requestBegun :=
  .bind (changeTraffic_answers fun _ _ => rfl) fun _ => cancelIdle_answers

lemma add_answers (step : Step) : Answers (discard (add step)) := .discard fun r _ _ => by
  refine ⟨?_, fun _ _ => trivial⟩
  obtain ⟨-, hadd⟩ | ⟨a, notices, h, -, hadd⟩ := add_cases step r <;> rw [hadd]
  · exact answering.refl r
  · refine ⟨rfl, fun x hx => ?_⟩
    rw [responses_of_active h]
    exact .inl hx

/-- **A request that ends answers now.** -/
lemma requestEnded_answers (url method : String) (status : Int) : Answers (requestEnded url method status) := by
  unfold requestEnded
  refine .bind (changeTraffic_answers fun _ _ => rfl) fun _ => .bind_get fun r =>
    .ite (fun _ => .pure fun _ _ _ => trivial) fun _ => ?_
  refine .bind (Q := fun _ _ => True) (.set fun s _ hs => ⟨?_, trivial⟩) fun _ => ?_
  · obtain ⟨rfl, -⟩ := hs
    refine answering_changeTraffic s fun t x hx => ?_
    exact (List.mem_append.1 hx).imp_right fun hx => by rw [List.mem_singleton.1 hx]
  · have hidle : Answers (get >>= fun r : Recorder =>
        if r.active.any (·.traffic.inFlight == 0) = true then awaitIdle else pure ()) :=
      .bind_get fun _ => .ite (fun _ => awaitIdle_answers.strengthen fun _ _ _ => trivial) fun _ =>
        .pure fun _ _ _ => trivial
    exact .ite (fun _ => .bind (add_answers _) fun _ => hidle) fun _ => hidle

lemma requestSent?_answers (number : Nat) : Answers (requestSent? number) := by
  unfold requestSent?
  refine .bind_get fun r => ?_
  split
  · exact .pure fun _ _ _ => trivial
  · split
    · exact .ite (fun _ => .bind (requestBegun_answers.strengthen fun _ _ _ => trivial) fun _ =>
        .pure fun _ _ _ => trivial) fun _ => .pure fun _ _ _ => trivial
    · exact .pure fun _ _ _ => trivial

/-- A signal that tells of a request answers no earlier than now. -/
lemma Signal.answers {x : Signal} (h : x.counts = true) : Answers x.act := by
  cases x with
  | requestBegun => exact requestBegun_answers
  | requestEnded url method status => exact requestEnded_answers url method status
  | requestEndedIn serial url method status =>
    exact .bind_get fun _ => .ite (fun _ => (requestEnded_answers url method status).strengthen fun _ _ _ => trivial)
      fun _ => .pure fun _ _ _ => trivial
  | requestOpened number url method => exact changeTraffic_answers fun _ _ => rfl
  | requestSent number => exact .discard (requestSent?_answers number)
  | requestDone number serial url method status =>
    refine .bind_get fun _ => .ite (fun _ => ?_) fun _ => .pure fun _ _ _ => trivial
    have hclosed : Answers (modify fun r : Recorder => r.changeTraffic fun t =>
        { t with opened := t.opened.filter (·.1 != number) }) := changeTraffic_answers fun _ _ => rfl
    exact .bind (hclosed.strengthen fun _ _ _ => trivial) fun _ => requestEnded_answers url method status
  | _ => cases h

/-! ### Signals -/

lemma GoesOn.keepText (h : r.active = some a) {selector : String} {typed : Typed} (ht : typed.since = r.clock.now) :
    GoesOn r (keepText r selector typed) := by
  rw [keepText_eq h]
  refine ⟨⟨by rw [Debouncer.schedule_now], fun w hw => ?_, fun step hstep => ?_⟩, fun x hx => ?_⟩
  · rw [texts_eq rfl, Debouncer.waiting_schedule] at hw
    rw [texts_eq h]
    rcases List.mem_append.1 hw with hw | hw
    · exact .inl (Debouncer.mem_drop.1 hw).1
    · obtain rfl := List.mem_singleton.1 hw
      exact .inr ht.ge
  · rw [recorded_of_active h]
    exact .inl ⟨step, hstep, rfl⟩
  · rw [responses_of_active h]
    exact .inl hx

/-- **A recorder goes on with every signal of its session**, if the clock does not go back and no steps are edited by
hand. -/
theorem Linked.goesOn_obey (hl : r.Linked) {x : Signal} (hin : x.isInner = true) (he : x.edits = false)
    (hb : x.goesBack = false) : GoesOn r (r.obey x) := by
  have hw : x.Within anyForward := Signal.within_anyForward he hb hin
  obtain ⟨selector, typed, ht, hkept⟩ | ⟨-, hp⟩ := hl.obey hw
  · obtain ⟨a, ha, -, hsince⟩ := Signal.text?_eq_some ht
    rw [hkept]
    exact .keepText ha hsince
  · refine ⟨hp.passes rfl rfl hl, fun y hy => ?_⟩
    cases hc : x.counts with
    | true => exact ((Signal.answers hc).leads trivial trivial).2 y hy |>.imp_right Eq.ge
    | false =>
      have hw' : x.Within {} := ⟨hin, by simp [he], by simp [hb], by simp [hc]⟩
      obtain ⟨selector, typed, ht, hkept⟩ | ⟨-, hp'⟩ := hl.obey hw'
      · obtain ⟨a, ha, -, hsince⟩ := Signal.text?_eq_some ht
        rw [hkept] at hy
        exact (GoesOn.keepText ha hsince).responses y hy
      · rw [hp'.responses rfl] at hy
        exact .inl hy

lemma Linked.goesOn_obeyAll (hl : r.Linked) {signals : List Signal}
    (h : ∀ x ∈ signals, x.isInner = true ∧ x.edits = false ∧ x.goesBack = false) : GoesOn r (r.obeyAll signals) := by
  induction signals generalizing r with
  | nil => exact .refl r
  | cons x rest ih =>
    obtain ⟨⟨hin, he, hb⟩, hrest⟩ := List.forall_mem_cons.1 h
    exact (hl.goesOn_obey hin he hb).trans (ih (hl.obey_any x) hrest)

/-! ### Ends and beginnings -/

/-- A session that ends keeps its steps and its responses. -/
lemma GoesOn.conclude (r : Recorder) : GoesOn r r.conclude := by
  have htexts : r.conclude.texts = [] := by simp [texts]
  refine ⟨.of_subset ?_ (by simp [htexts]) fun step hstep => ?_, fun x hx => ?_⟩
  · rw [conclude_clock, drop_now]
  · unfold Recorder.conclude at hstep
    cases h : r.active with
    | none =>
      rw [h] at hstep
      exact hstep
    | some a =>
      rw [h] at hstep
      rw [recorded_of_active h]
      simpa [recorded, session?] using hstep
  · unfold Recorder.conclude at hx
    cases h : r.active with
    | none =>
      rw [h] at hx
      exact .inl hx
    | some a =>
      rw [h] at hx
      rw [responses_of_active h]
      exact .inl (by simpa [Recorder.responses] using hx)

/-- A session begins now. -/
lemma GoesOn.begun (r : Recorder) (p : Page) : GoesOn r (r.begun p) where
  now := le_rfl
  texts := nofun
  steps step hstep := by
    obtain rfl := List.mem_singleton.1 hstep
    exact .inr (.inr le_rfl)
  responses := nofun

end PageTape.Recorder
