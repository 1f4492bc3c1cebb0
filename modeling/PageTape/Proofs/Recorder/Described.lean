import PageTape.Proofs.Recorder.LastAction
import PageTape.Proofs.Recorder.Written

/-!
# What a step says of the field that it fills

A text waits with the selector of its field, with its value and with its time.  When it is recorded and needs a step of
its own, that step takes these from the text, but its other selectors, its label and whether the field is required from
the field as the page then has it (`fill_described_late`).  So the step describes the field as it was typed into exactly
where the page has left these three as they were, and may tell of two different elements where it has not
(`renamed_midway`).
-/

namespace PageTape.Recorder

open Dom (Id Location)

variable {p : Page} {r r' : Recorder} {n i : Nat} {step : Step} {s : Signal}

/-! ### One signal -/

namespace Signal

/-- The page that a signal brings. -/
def page? : Signal → Option Page
  | start p | pause p | stop p | hear p _ | addByHand p _ | advance p _ | runAll p => some p
  | _ => none

end Signal

/-- The texts that wait are for different fields. -/
lemma Linked.held_unique (hl : r.Linked) (selector : String) (typed typed' : Typed) (h : (selector, typed) ∈ r.held)
    (h' : (selector, typed') ∈ r.held) : typed = typed' := by
  cases ha : r.active with
  | none => simp [held, texts, ha] at h
  | some a =>
    rw [held_eq ha] at h h'
    obtain ⟨v, hv, hveq⟩ := List.mem_map.1 h
    obtain ⟨w, hw, hweq⟩ := List.mem_map.1 h'
    obtain rfl := (hl.active a ha).inputs.eq_of_key hv hw ((congrArg Prod.fst hveq).trans (congrArg Prod.fst hweq).symm)
    exact congrArg Prod.snd (hveq.symm.trans hweq)

/-- The steps of any session are those of the active one, or the same as before. -/
lemma SameSession.stepsOf_cases (h : SameSession r r') (n : Nat) :
    (r'.stepsOf n = r'.steps ∧ r.stepsOf n = r.steps) ∨ r'.stepsOf n = r.stepsOf n := by
  cases ha' : r'.active with
  | none => exact .inr (by rw [stepsOf, stepsOf, h.recordOf?_of_none ha'])
  | some b =>
    obtain ⟨a, ha, hserial⟩ := h.before ha'
    by_cases hn : b.serial = n
    · subst hn
      exact .inl ⟨by rw [stepsOf_active ha', steps_of_active ha'], by rw [← hserial, stepsOf_active ha, steps_of_active ha]⟩
    · exact .inr (by rw [stepsOf, stepsOf, recordOf?_of_ne ha' hn, recordOf?_of_ne ha (hserial ▸ hn)])

/-- What has been added to a session by moves on a page is accounted for. -/
lemma accounted_of_leads (hl : r.Linked) (hsame : SameSession r r') (h : (writing p r.held).leads r r')
    (hi : (r.stepsOf n).length ≤ i) (hstep : (r'.stepsOf n)[i]? = some step) (hfill : step.kind = .fill) :
    Accounted p r.held step := by
  rcases hsame.stepsOf_cases n with ⟨hafter, hbefore⟩ | heq
  · rw [hafter] at hstep
    rw [hbefore] at hi
    exact (h.2.added hl.held_unique).2 i step hi hstep hfill
  · rw [heq, List.getElem?_eq_none hi] at hstep
    cases hstep

/-- A session that has ended keeps its steps. -/
lemma stepsOf_conclude (h : r.Latest) (n : Nat) : r.conclude.stepsOf n = r.stepsOf n := by
  cases ha : r.active with
  | none => rw [show r.conclude = r by simp [conclude, ha]]
  | some a =>
    rw [stepsOf, stepsOf, recordOf?_conclude h ha]
    cases r.recordOf? n <;> rfl

/-- The steps of a session that ends on a page, or does not. -/
lemma stop_accounted (hl : r.Linked) (hlatest : r.Latest) (p : Page) (hi : (r.stepsOf n).length ≤ i)
    (hstep : (((stop p).run r).2.stepsOf n)[i]? = some step) (hfill : step.kind = .fill) : Accounted p r.held step := by
  cases ha : r.active with
  | none =>
    rw [stop_of_none ha, List.getElem?_eq_none hi] at hstep
    cases hstep
  | some a =>
    have hsettled := (settle_writes (W := r.held) p).leads (s := r) (List.Subset.refl _) trivial
    have hsame : SameSession r ((recordAllWaiting p >>= fun _ => noteUnsettled : Act Unit).run r).2 :=
      Path.sameSession (Course.Runs.leads (C := course {}) (.bind (recordAllWaiting_runs p) fun _ => noteUnsettled_runs)
        hl trivial)
    rw [stop_run ha] at hstep
    rcases hrun : (recordAllWaiting p >>= fun _ => noteUnsettled : Act Unit).run r with ⟨fault | u, t⟩ <;>
      rw [hrun] at hstep hsettled hsame
    · exact accounted_of_leads hl hsame hsettled hi hstep hfill
    · rw [stepsOf_conclude (hlatest.of_sameSession hsame)] at hstep
      exact accounted_of_leads hl hsame hsettled hi hstep hfill

/-- The steps of a session that begins on a page, or of the one that is stopped before. -/
lemma start_accounted (hl : r.Linked) (hlatest : r.Latest) (p : Page) (hi : (r.stepsOf n).length ≤ i)
    (hstep : ((r.obey (.start p)).stepsOf n)[i]? = some step) (hfill : step.kind = .fill) : Accounted p r.held step := by
  have hrun : ((Signal.restart p).run r).2 = r.obey (.start p) := rfl
  unfold Signal.restart at hrun
  rw [Course.run_bind, Course.run_get] at hrun
  cases hb : r.isBound with
  | false =>
    have hsame : r.obey (.start p) = r := by rw [← hrun]; simp [hb]
    rw [hsame, List.getElem?_eq_none hi] at hstep
    cases hstep
  | true =>
    have hstopped (h : (((stop p).run r).2.stepsOf n)[i]? = some step) := stop_accounted hl hlatest p hi h
    rcases hstop : (stop p).run r with ⟨fault | session, t⟩ <;> rw [hstop] at hstopped
    · have hsame : r.obey (.start p) = t := by
        rw [← hrun]
        simp [hb, Course.run_bind, Course.run_discard, hstop, Except.map]
      exact hstopped (hsame ▸ hstep) hfill
    · -- the new session has a single step
      have hbegun : r.obey (.start p) = t.begun p := by
        rw [← hrun]
        simp [hb, Course.run_bind, Course.run_discard, hstop, Except.map, begin_run]
      rw [hbegun] at hstep
      cases hrecord : (t.begun p).recordOf? n with
      | none =>
        rw [stepsOf, hrecord] at hstep
        cases hstep
      | some record =>
        obtain ⟨-, rfl⟩ := (recordOf?_begun t p record).1 hrecord
        rw [stepsOf, hrecord] at hstep
        obtain rfl := List.mem_singleton.1 (List.mem_of_getElem? hstep)
        cases hfill

/-! ### Steps that are taken out or changed by hand -/

/-- Before a step is added by hand, what waits is recorded. -/
lemma addByHand_writes (p : Page) (d : Datum) (r : Recorder) : ∃ t, (writing p r.held).leads r t ∧
    (((addByHand p d).run r).2.steps = t.steps ∨
      ∃ given, Step.check d = .good given ∧ ((addByHand p d).run r).2.steps = t.steps ++ [given]) := by
  unfold addByHand
  rw [Course.run_bind, Course.run_get]
  dsimp only
  split
  · exact ⟨r, (writing p r.held).refl r, .inl rfl⟩
  · split
    · exact ⟨r, (writing p r.held).refl r, .inl rfl⟩
    · rename_i given hgiven
      have hleads := (recordAllWaiting_stays (W := r.held) p).leads (s := r) (List.Subset.refl _) trivial
      rw [Course.run_bind]
      rcases hrun : (recordAllWaiting p).run r with ⟨fault | u, t⟩ <;> rw [hrun] at hleads
      · exact ⟨t, hleads, .inl rfl⟩
      · refine ⟨t, hleads, ?_⟩
        dsimp only
        cases hrec : t.isRecording with
        | false =>
          rw [addUserStep_idle hrec]
          exact .inl rfl
        | true =>
          obtain ⟨a, ha, hr⟩ := isRecording_iff.1 hrec
          obtain ⟨notices, hadd, -⟩ := addUserStep_run ha hr given
          rw [hadd, steps_of_active ha, steps_of_active rfl]
          exact .inr ⟨given, hgiven, rfl⟩

lemma addByHand_accounted (hl : r.Linked) (p : Page) (d : Datum) (hi : (r.stepsOf n).length ≤ i)
    (hstep : ((r.obey (.addByHand p d)).stepsOf n)[i]? = some step) (hfill : step.kind = .fill) :
    Accounted p r.held step ∨ Step.check d = .good step := by
  have hsame : SameSession r (r.obey (.addByHand p d)) := hl.sameSession rfl
  rcases hsame.stepsOf_cases n with ⟨hafter, hbefore⟩ | heq
  · have hobey : r.obey (.addByHand p d) = ((addByHand p d).run r).2 :=
      congrArg Prod.snd (Course.run_discard r (addByHand p d))
    rw [hafter, hobey] at hstep
    rw [hbefore] at hi
    obtain ⟨t, hleads, hsteps | ⟨given, hgiven, hsteps⟩⟩ := addByHand_writes p d r <;> rw [hsteps] at hstep
    · exact .inl ((hleads.2.added hl.held_unique).2 i step hi hstep hfill)
    · rcases getElem?_concat hstep with hstep | ⟨-, rfl⟩
      · exact .inl ((hleads.2.added hl.held_unique).2 i step hi hstep hfill)
      · exact .inr hgiven
  · rw [heq, List.getElem?_eq_none hi] at hstep
    cases hstep

/-- The course of a recorder that gets no more steps. -/
def thinning : Course Recorder where
  holds _ := True
  leads r r' := r'.steps.length ≤ r.steps.length
  refl _ := le_rfl
  trans h h' := h'.trans h
  keeps _ h := h

lemma changeSteps_thins {f : List Step → List Step} (hf : ∀ steps, (f steps).length ≤ steps.length) :
    Stays thinning (modify fun r => r.changeSteps f) := .of_leads fun r => by
  show (r.changeSteps f).steps.length ≤ r.steps.length
  cases ha : r.active with
  | none => simp [changeSteps, changeActive, Recorder.steps, ha]
  | some a => simpa [changeSteps, changeActive, Recorder.steps, ha] using hf a.session.steps

lemma tell_thins (callback : Callback) (position : Nat) (step : Step) : Stays thinning (tell callback position step) :=
  .of_leads fun r => by
    obtain ⟨notices, hrun⟩ := tell_run callback position step r
    rw [hrun]
    exact le_rfl

/-- Taking a step out adds none. -/
lemma removeStep_thins (index : Int) : Stays thinning (removeStep index) := by
  refine .get fun r => ?_
  split
  · exact .pure _
  · exact .bind (changeSteps_thins fun _ => List.length_eraseIdx_le _ _) fun _ => .bind (tell_thins _ _ _) fun _ => .pure _

/-- Nor does changing one. -/
lemma updateStep_thins (index : Int) (value : Option String) (waitTimeout : Option Int) :
    Stays thinning (updateStep index value waitTimeout) := by
  have hchange : ∀ position f, Stays thinning (change position f) := fun position f => by
    refine .get fun r => ?_
    split
    · exact .pure _
    · exact .bind (changeSteps_thins fun _ => List.length_set.le) fun _ => tell_thins _ _ _
  refine .get fun r => ?_
  split
  · exact .pure _
  · exact .bind (hchange _ _) fun _ => .pure _

/-! ### Any signal -/

lemma Signal.isInner_of_silent (h : s.isSilent = true) : s.isInner = true := by
  cases s <;> first | rfl | cases h

/-- **A step that a signal adds and that fills a field** is the one of a text that waited, or describes a field of a
form, on the page that the signal brings; or it is added by hand. -/
theorem Linked.obey_accounted (hl : r.Linked) (hlatest : r.Latest) (hi : (r.stepsOf n).length ≤ i)
    (hstep : ((r.obey s).stepsOf n)[i]? = some step) (hfill : step.kind = .fill) :
    ∃ p, s.page? = some p ∧ (Accounted p r.held step ∨ ∃ d, s = .addByHand p d ∧ Step.check d = .good step) := by
  -- nothing is added
  have hnone : ∀ {r' : Recorder}, SameSession r r' → r'.steps.length ≤ r.steps.length →
      (r'.stepsOf n)[i]? ≠ some step := by
    intro r' hsame hlength hstep
    have hlt := (List.getElem?_eq_some_iff.1 hstep).1
    rcases hsame.stepsOf_cases n with ⟨hafter, hbefore⟩ | heq
    · rw [hafter] at hlt
      rw [hbefore] at hi
      omega
    · rw [heq] at hlt
      omega
  have hpage : ∀ {p : Page}, (writing p r.held).leads r (r.obey s) → s.isInner = true → Accounted p r.held step :=
    fun hleads hin => accounted_of_leads hl (hl.sameSession hin) hleads hi hstep hfill
  have hstays : ∀ {p : Page}, Stays (writing p r.held) s.act → (writing p r.held).leads r (r.obey s) :=
    fun h => h.leads (s := r) (List.Subset.refl _) trivial
  have hsilent : s.isSilent = true → False := fun h => by
    obtain ⟨added, hadded, hsynthetic⟩ := (Signal.stays_silent (C := noting) h).leads (s := r) trivial trivial
    rcases (hl.sameSession (Signal.isInner_of_silent h)).stepsOf_cases n with ⟨hafter, hbefore⟩ | heq
    · rw [hafter, show (r.obey s).steps = r.steps ++ added from hadded, List.getElem?_append_right (hbefore ▸ hi)]
        at hstep
      have hk := hsynthetic step (List.mem_of_getElem? hstep)
      rw [hfill] at hk
      cases hk
    · rw [heq, List.getElem?_eq_none hi] at hstep
      cases hstep
  cases s with
  | hear p event =>
    cases htext : Signal.text? (.hear p event) r with
    | some text =>
      obtain ⟨a, ha, -⟩ := Signal.text?_eq_some htext
      have hobey : r.obey (.hear p event) = Recorder.keepText r text.1 text.2 := congrArg Prod.snd (Signal.act_text htext)
      refine absurd hstep (hnone (hl.sameSession rfl) ?_)
      rw [hobey, keepText_eq ha, steps_of_active ha, steps_of_active rfl]
    | none => exact ⟨p, rfl, .inl (hpage ((hear_writes p event).leads (List.Subset.refl _) ⟨htext, hl, rfl⟩) rfl)⟩
  | pause p => exact ⟨p, rfl, .inl (hpage (hstays (.discard (pause_writes p))) rfl)⟩
  | advance p ms => exact ⟨p, rfl, .inl (hpage (hstays (advance_writes p ms)) rfl)⟩
  | runAll p => exact ⟨p, rfl, .inl (hpage (hstays (runAll_writes p)) rfl)⟩
  | stop p =>
    rw [show r.obey (.stop p) = ((stop p).run r).2 from congrArg Prod.snd (Course.run_discard r (stop p))] at hstep
    exact ⟨p, rfl, .inl (stop_accounted hl hlatest p hi hstep hfill)⟩
  | start p => exact ⟨p, rfl, .inl (start_accounted hl hlatest p hi hstep hfill)⟩
  | clear =>
    have hempty : (r.obey .clear).stepsOf n = [] := by
      have hactive : (r.obey .clear).active = none := drop_active r
      have hstopped : (r.obey .clear).stopped = none := rfl
      simp [stepsOf, recordOf?, hactive, hstopped]
    rw [hempty] at hstep
    cases hstep
  | addByHand p d => exact ⟨p, rfl, (addByHand_accounted hl p d hi hstep hfill).imp_right fun h => ⟨d, rfl, h⟩⟩
  | removeStep index =>
    have hthins := (Course.Runs.discard (T := fun _ _ => True) (removeStep_thins index)).leads (s := r) trivial trivial
    exact absurd hstep (hnone (hl.sameSession rfl) hthins)
  | updateStep index value waitTimeout =>
    have hthins := (Course.Runs.discard (T := fun _ _ => True) (updateStep_thins index value waitTimeout)).leads (s := r)
      trivial trivial
    exact absurd hstep (hnone (hl.sameSession rfl) hthins)
  | resume | heed | requestBegun | requestEnded | requestEndedIn | requestOpened | requestSent | requestDone
  | callbacks | noticed => exact (hsilent rfl).elim

/-! ### Whole runs -/

namespace Run

variable {run : Run} {j k : Nat} {selector : String} {typed : Typed}

lemma before_succ {s : Signal} (h : run.signals[k]? = some s) : run.before (k + 1) = (run.before k).obey s := by
  obtain ⟨hk, rfl⟩ := List.getElem?_eq_some_iff.1 h
  rw [before, before, List.take_succ_eq_append_getElem hk, obeyAll_append]
  rfl

/-- **A text that waits is the last one that a signal has given its field.** -/
lemma held_given (h₀ : run.first.Fresh) (hk : k ≤ run.signals.length) (h : (selector, typed) ∈ (run.before k).held) :
    ∃ j < k, run.Gives j selector typed ∧ ∀ j' typed', j < j' → j' < k → ¬ run.Gives j' selector typed' := by
  induction k with
  | zero =>
    have hempty : (run.before 0).held = [] := by simp [before, obeyAll, held, texts, h₀.active]
    rw [hempty] at h
    cases h
  | succ k ih =>
    have hs : run.signals[k]? = some run.signals[k] := List.getElem?_eq_getElem hk
    obtain ⟨w, hw, hweq⟩ := List.mem_map.1 h
    cases hweq
    rw [before_succ hs] at hw
    have hlinked : (run.before k).Linked := ((Reachable.fresh h₀).obeyAll _).linked
    rcases hlinked.texts_obey _ hw with ⟨hold, hother⟩ | ⟨htext, -⟩
    · obtain ⟨j, hj, hgives, hlast⟩ := ih (Nat.le_of_succ_le hk) (List.mem_map.2 ⟨w, hold, rfl⟩)
      refine ⟨j, Nat.lt_succ_of_lt hj, hgives, fun j' typed' hlt hlt' hgives' => ?_⟩
      rcases Nat.lt_succ_iff_lt_or_eq.1 hlt' with hlt' | rfl
      · exact hlast j' typed' hlt hlt' hgives'
      · obtain ⟨s', hs', htext'⟩ := hgives'
        obtain rfl := Option.some.inj (hs.symm.trans hs')
        exact hother typed' htext'
    · exact ⟨k, Nat.lt_succ_self k, ⟨_, hs, htext⟩, fun j' _ hlt hlt' => by omega⟩

/-- A text is given by an event on a field that is not left alone: its selector, its value and the time it is. -/
lemma gives_iff : run.Gives j selector typed ↔ ∃ q event l, run.signals[j]? = some (.hear q event) ∧
    (run.before j).isRecording = true ∧ event.type = "input" ∧
    event.target.element?.bind q.forest.locate? = some l ∧ takesText (run.before j).config l = true ∧
    selector = Locator.quick l ∧ typed = ⟨l.tag.id, l.value, (run.before j).clock.now⟩ := by
  constructor
  · rintro ⟨s, hs, htext⟩
    cases s with
    | hear q event =>
      obtain ⟨hrec, htype, l, hl, htakes, hselector, htyped⟩ := heardText?_eq_some.1 htext
      exact ⟨q, event, l, hs, hrec, htype, hl, htakes, hselector, htyped⟩
    | _ => cases htext
  · rintro ⟨q, event, l, hs, hrec, htype, hl, htakes, hselector, htyped⟩
    exact ⟨_, hs, heardText?_eq_some.2 ⟨hrec, htype, l, hl, htakes, hselector, htyped⟩⟩

end Run

/-! ### What a page tells of a field -/

/-- What a page tells of an element besides its selector and its value: its other selectors, its label, and whether it
is required. -/
def aspect? (p : Page) (id : Id) : Option (List SmartSelector × Option String × Bool) :=
  (p.forest.locate? id).map fun l => (Locator.smart l, Locator.label? l, l.tag.isRequired)

/-- The step of a text describes a field exactly where the page tells of it what the field has. -/
lemma describes_fillStep_iff {l : Location} {since : Rat} :
    Describes l (fillStep p (Locator.quick l) ⟨l.tag.id, l.value, since⟩) ↔
      aspect? p l.tag.id = some (Locator.smart l, Locator.label? l, l.tag.isRequired) := by
  unfold fillStep aspect?
  cases hm : p.forest.locate? l.tag.id with
  | none => exact ⟨fun h => absurd h.smartSelectors nofun, nofun⟩
  | some m =>
    simp only [Option.map_some, Option.some.injEq, Prod.mk.injEq]
    constructor
    · intro h
      exact ⟨Option.some.inj h.smartSelectors, h.label, Option.some.inj h.required⟩
    · rintro ⟨hsmart, hlabel, hrequired⟩
      exact ⟨rfl, rfl, congrArg some hsmart, hlabel, congrArg some hrequired⟩

/-- **Where a step comes from that is added on the signal of a number and fills a field**, with the page of the signal.
Either a text was given to a field on an earlier signal, as the last one since then; or the step describes a field of a
form; or it is given by hand. -/
inductive Run.FilledOn (run : Run) (k : Nat) (p : Page) (step : Step) : Prop
  | typed {j : Nat} {q : Page} {event : Page.Event} {l : Location} (hj : j < k)
      (hheard : run.signals[j]? = some (.hear q event)) (hrec : (run.before j).isRecording = true)
      (hl : event.target.element?.bind q.forest.locate? = some l)
      (htakes : takesText (run.before j).config l = true)
      (hlast : ∀ j' typed, j < j' → j' < k → ¬ run.Gives j' (Locator.quick l) typed)
      (hselector : step.selector = some (Locator.quick l)) (hvalue : step.value = some l.value)
      (htime : step.timestamp = stampOf (run.before j).clock.now)
      (hnow : ∀ m, p.forest.locate? l.tag.id = some m → step.smartSelectors = some (Locator.smart m) ∧
        step.label = Locator.label? m ∧ step.required = some m.tag.isRequired)
      (hdescribes : Describes l step ↔
        aspect? p l.tag.id = some (Locator.smart l, Locator.label? l, l.tag.isRequired))
  | captured {l : Location} (hl : InForm p l) (hfree : ∀ w ∈ (run.before k).texts, w.key ≠ Locator.quick l)
      (hdescribes : Describes l step)
  | given {d : Datum} (hhand : run.signals[k]? = some (.addByHand p d)) (hstep : Step.check d = .good step)

/-- **A step tells of a text as it was typed, and of its field as it is when the text is recorded.** -/
theorem fill_described_late (run : Run) (h₀ : run.first.Fresh) (n k i : Nat) (hadds : run.Adds n k i) (step : Step)
    (hstep : ((run.before (k + 1)).stepsOf n)[i]? = some step) (hfill : step.kind = .fill) :
    ∃ s p, run.signals[k]? = some s ∧ s.page? = some p ∧ run.FilledOn k p step := by
  have hk := hadds.lt
  have hs : run.signals[k]? = some run.signals[k] := List.getElem?_eq_getElem hk
  have hreachable : Reachable (run.before k) := (Reachable.fresh h₀).obeyAll _
  rw [Run.before_succ hs] at hstep
  obtain ⟨p, hp, haccounted⟩ := hreachable.linked.obey_accounted hreachable.latest hadds.1 hstep hfill
  refine ⟨_, p, hs, hp, ?_⟩
  obtain (⟨selector, typed, hheld, rfl⟩ | ⟨l, hl, hfree, hdescribes⟩) | ⟨d, hhand, hgiven⟩ := haccounted
  · obtain ⟨j, hj, hgives, hlast⟩ := Run.held_given h₀ hk.le hheld
    obtain ⟨q, event, l, hheard, hrec, -, hl, htakes, rfl, rfl⟩ := Run.gives_iff.1 hgives
    obtain ⟨-, hselector, hvalue, htime⟩ := fills_fillStep p
      ⟨Locator.quick l, (run.before j).clock.now, 0, ⟨l.tag.id, l.value, (run.before j).clock.now⟩⟩
    refine .typed hj hheard hrec hl htakes hlast hselector hvalue htime (fun m hm => ?_) describes_fillStep_iff
    simp [fillStep, hm, describe]
  · exact .captured hl (fun w hw hkey => hfree w.payload (hkey ▸ List.mem_map.2 ⟨w, hw, rfl⟩)) hdescribes
  · exact .given (hs.trans (congrArg some hhand)) hgiven

/-- A text is typed, and a second later it is recorded. -/
def typedOnce : Run where
  first := {}
  signals := [.start fieldPage, fieldTyped, .advance fieldPage 1000]

/-- Its step comes from the text. -/
theorem typedOnce_filled : typedOnce.first.Fresh ∧ typedOnce.Adds 0 2 1 ∧ ∃ step,
    ((typedOnce.before 3).stepsOf 0)[1]? = some step ∧ step.kind = .fill ∧
      ∃ s p, typedOnce.signals[2]? = some s ∧ s.page? = some p ∧ typedOnce.FilledOn 2 p step := by
  have h₀ : typedOnce.first.Fresh := ⟨rfl, rfl, rfl, rfl⟩
  have hadds : typedOnce.Adds 0 2 1 := ⟨by decide +kernel, by decide +kernel⟩
  obtain ⟨step, hstep, hfill⟩ : ∃ step, ((typedOnce.before 3).stepsOf 0)[1]? = some step ∧ step.kind = .fill := by
    have hkind : ((typedOnce.before 3).stepsOf 0)[1]?.map (·.kind) = some .fill := by decide +kernel
    obtain ⟨step, hstep, hfill⟩ := Option.map_eq_some_iff.1 hkind
    exact ⟨step, hstep, hfill⟩
  exact ⟨h₀, hadds, step, hstep, hfill, fill_described_late typedOnce h₀ 0 2 1 hadds step hstep hfill⟩

/-- The page with the name of its field changed. -/
def renamedPage : Page := { fieldPage with forest := {
  trees := [.element Dom.documentTag
    [.element ⟨1, "input", [("id", .text "r"), ("value", .text "lamp")]⟩ []]]
  nextId := 2 } }

/-- Between the typing and the recording, the field gets another name. -/
def renamedBetween : Run where
  first := {}
  signals := [.start fieldPage, fieldTyped, .advance renamedPage 1000]

/-- **The step then has a selector of the field as it was typed into, and another one of the field as it is now.** -/
theorem renamed_midway : ∃ l step, fieldPage.forest.locate? 1 = some l ∧
    ((renamedBetween.before 3).stepsOf 0)[1]? = some step ∧ step.kind = .fill ∧ step.selector = some "#q" ∧
      step.smartSelectors.map (·.map (·.value)) = some ["#r"] ∧ ¬ Describes l step := by
  have hsmart : (fieldPage.forest.locate? 1).map (fun l => (Locator.smart l).map (·.value)) = some ["#q"] := by
    decide +kernel
  have hwritten : ((renamedBetween.before 3).stepsOf 0)[1]?.map (fun step =>
      (step.kind, step.selector, step.smartSelectors.map (·.map (·.value)))) =
        some (.fill, some "#q", some ["#r"]) := by
    decide +kernel
  obtain ⟨l, hl, hsmart⟩ := Option.map_eq_some_iff.1 hsmart
  obtain ⟨step, hstep, hsays⟩ := Option.map_eq_some_iff.1 hwritten
  simp only [Prod.mk.injEq] at hsays
  obtain ⟨hfill, hselector, hothers⟩ := hsays
  refine ⟨l, step, hl, hstep, hfill, hselector, hothers, fun hdescribes => ?_⟩
  rw [hdescribes.smartSelectors, Option.map_some, hsmart] at hothers
  exact absurd hothers (by decide)

end PageTape.Recorder
