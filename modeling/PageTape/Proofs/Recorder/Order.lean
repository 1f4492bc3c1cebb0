import PageTape.Proofs.Recorder.Signal
import Mathlib.Data.Rat.Floor

/-!
# The steps in the order of time

A text is recorded late, but with the time of its last event, and the steps that a recorder adds by itself do not wait
for it.  So there is one way in which the steps of a session may leave the order of time, and no other: a step that
fills a field may stand behind a later one that the recorder has added by itself (`Follows`).  The invariant behind
this is `Active.Ordered`, which every move of a clock that never goes back keeps (`Move.ordered`).

* `steps_in_order_iff` — the steps of every recording follow each other in that sense, so that they are in the order of
  time exactly if no step that fills a field stands behind such a one;
* `fill_behind_wait` — a run in which one does.
-/

namespace PageTape.Recorder

variable {may : Leave} {r r' : Recorder} {a : Active}

/-! ### Times in whole milliseconds -/

lemma stampOf_of_nonneg {x : Rat} (h : 0 ≤ x) : stampOf x = ⌊x⌋ := by
  unfold stampOf
  rw [Rat.floor_def', Int.tdiv_eq_ediv_of_nonneg (Rat.num_nonneg.2 h)]

lemma stampOf_neg (x : Rat) : stampOf (-x) = -stampOf x := by
  unfold stampOf
  rw [Rat.num_neg_eq_neg_num, Rat.den_neg_eq_den, Int.neg_tdiv]

/-- A later time is not before, in whole milliseconds. -/
lemma stampOf_mono {x y : Rat} (h : x ≤ y) : stampOf x ≤ stampOf y := by
  rcases le_total 0 x with hx | hx
  · rw [stampOf_of_nonneg hx, stampOf_of_nonneg (hx.trans h)]
    exact Int.floor_le_floor h
  · -- below zero, where a time is cut off upwards
    have hx' : stampOf x = -⌊-x⌋ := by
      rw [← stampOf_of_nonneg (neg_nonneg.2 hx), stampOf_neg, neg_neg]
    have hx0 : stampOf x ≤ 0 := by
      have := Int.floor_nonneg.2 (neg_nonneg.2 hx)
      omega
    rcases le_total 0 y with hy | hy
    · rw [stampOf_of_nonneg hy]
      exact hx0.trans (Int.floor_nonneg.2 hy)
    · rw [hx', ← neg_neg y, stampOf_neg, stampOf_of_nonneg (neg_nonneg.2 hy)]
      exact neg_le_neg (Int.floor_le_floor (neg_le_neg h))

/-! ### Steps that follow each other -/

/-- A step behind another one is not earlier, unless it fills a field and the recorder has added the other one by
itself. -/
def Follows (s t : Step) : Prop :=
  s.timestamp ≤ t.timestamp ∨ (s.kind.isSynthetic = true ∧ t.kind = .fill)

/-- **How the steps and the texts that wait are ordered.**  The texts wait in the order of time, and none of them is
earlier than a step that the recorder has not added by itself. -/
structure Active.Ordered (a : Active) (now : Rat) : Prop where
  sorted : a.inputs.waiting.Pairwise fun v w => v.since ≤ w.since
  past : ∀ w ∈ a.inputs.waiting, w.since ≤ now
  done : ∀ step ∈ a.session.steps, step.timestamp ≤ stampOf now
  ahead : ∀ w ∈ a.inputs.waiting, ∀ step ∈ a.session.steps, step.kind.isSynthetic = false →
    step.timestamp ≤ stampOf w.since
  follow : a.session.steps.Pairwise Follows

/-- A list with its last item changed, where the new one is no worse behind the others. -/
lemma pairwise_concat {steps : List Step} {step : Step} :
    (steps ++ [step]).Pairwise Follows ↔ steps.Pairwise Follows ∧ ∀ s ∈ steps, Follows s step := by
  simp [List.pairwise_append]

/-- Once a text is recorded, the steps are those before, perhaps without the last one, and one that fills its field. -/
lemma Takes.eq_append {w : Waiting String Typed} {steps steps' : List Step} (h : Takes w steps steps') :
    ∃ init last, steps' = init ++ [last] ∧ init <+: steps ∧ Fills last w := by
  cases h with
  | update init last habout =>
    simp only [isAbout, Bool.and_eq_true, beq_iff_eq] at habout
    exact ⟨init, _, rfl, List.prefix_append _ _, habout.1, habout.2, rfl, rfl⟩
  | append _ last hfills hnew => exact ⟨_, last, rfl, List.prefix_rfl, hfills⟩

namespace Active.Ordered

variable {now now' : Rat}

/-- Time passes. -/
lemma later (h : a.Ordered now) (hn : now ≤ now') : a.Ordered now' where
  sorted := h.sorted
  past w hw := (h.past w hw).trans hn
  done step hstep := (h.done step hstep).trans (stampOf_mono hn)
  ahead := h.ahead
  follow := h.follow

/-- The earliest text that waits is recorded. -/
lemma take {c : Clock Alarm} (h : a.Ordered now) (hl : a.Linked c) {w : Waiting String Typed}
    (hw : w ∈ a.inputs.waiting) (hfirst : ∀ v ∈ a.inputs.waiting, w.since ≤ v.since) {steps : List Step}
    (hs : Takes w a.session.steps steps) :
    Active.Ordered { a.withSteps steps with inputs := a.inputs.drop w.key } now := by
  have hsince : stampOf w.payload.since = stampOf w.since := by rw [hl.since w hw]
  have hnow : stampOf w.since ≤ stampOf now := stampOf_mono (h.past w hw)
  have hfill : ∀ (step : Step), step.kind = .fill → step.timestamp = stampOf w.since →
      ∀ s ∈ a.session.steps, Follows s step := by
    intro step hk ht s hmem
    cases hsyn : s.kind.isSynthetic with
    | true => exact .inr ⟨hsyn, hk⟩
    | false => exact .inl (ht ▸ h.ahead w hw s hmem hsyn)
  obtain ⟨init, last, rfl, hinit, hk, -, -, ht⟩ := hs.eq_append
  rw [hsince] at ht
  have hmem : ∀ s ∈ init, s ∈ a.session.steps := fun s hs => hinit.subset hs
  exact {
    sorted := h.sorted.sublist List.filter_sublist
    past := fun v hv => h.past v (Debouncer.mem_drop.1 hv).1
    done := fun step hstep => by
      rcases List.mem_append.1 hstep with hstep | hstep
      · exact h.done step (hmem step hstep)
      · obtain rfl := List.mem_singleton.1 hstep
        rwa [ht]
    ahead := fun v hv step hstep hsyn => by
      have hv' := (Debouncer.mem_drop.1 hv).1
      rcases List.mem_append.1 hstep with hstep | hstep
      · exact h.ahead v hv' step (hmem step hstep) hsyn
      · obtain rfl := List.mem_singleton.1 hstep
        rw [ht]
        exact stampOf_mono (hfirst v hv')
    follow := pairwise_concat.2
      ⟨h.follow.sublist hinit.sublist, fun s hs => hfill last hk ht s (hmem s hs)⟩ }

/-- A step of now is added: by the recorder itself, or where no text waits. -/
lemma push (h : a.Ordered now) {step : Step} (ht : step.timestamp = stampOf now)
    (hk : step.kind.isSynthetic = true ∨ a.inputs.waiting = []) :
    (a.withSteps (a.session.steps ++ [step])).Ordered now where
  sorted := h.sorted
  past := h.past
  done s hs := by
    rcases List.mem_append.1 hs with hs | hs
    · exact h.done s hs
    · obtain rfl := List.mem_singleton.1 hs
      exact ht.le
  ahead w hw s hs hsyn := by
    rcases List.mem_append.1 hs with hs | hs
    · exact h.ahead w hw s hs hsyn
    · obtain rfl := List.mem_singleton.1 hs
      rcases hk with hk | hk
      · rw [hk] at hsyn
        cases hsyn
      · have hw' : w ∈ a.inputs.waiting := hw
        rw [hk] at hw'
        cases hw'
  follow := pairwise_concat.2 ⟨h.follow, fun s hs => .inl (ht ▸ h.done s hs)⟩

/-- The value of the newest step changes. -/
lemma revalue (h : a.Ordered now) {steps : List Step} {last : Step} (hs : a.session.steps = steps ++ [last])
    (value : Option String) : (a.withSteps (steps ++ [{ last with value }])).Ordered now := by
  have hdone := h.done
  have hahead := h.ahead
  have hfollow := h.follow
  rw [hs] at hdone hahead hfollow
  simp only [List.mem_append, List.mem_singleton, or_imp, forall_and, forall_eq] at hdone hahead
  rw [pairwise_concat] at hfollow
  refine ⟨h.sorted, h.past, ?_, ?_, pairwise_concat.2 hfollow⟩
  · intro s hs
    rcases List.mem_append.1 hs with hs | hs
    · exact hdone.1 s hs
    · obtain rfl := List.mem_singleton.1 hs
      exact hdone.2
  · intro w hw s hs hsyn
    rcases List.mem_append.1 hs with hs | hs
    · exact hahead.1 w hw s hs hsyn
    · obtain rfl := List.mem_singleton.1 hs
      exact hahead.2 w hw hsyn

/-- A text is kept. -/
lemma keepText (h : a.Ordered now) (c : Clock Alarm) (hc : c.now = now) (key : String) (typed : Typed) :
    Active.Ordered { a with inputs := (a.inputs.schedule c c.now (.input key) key typed).1 } now := by
  have hmem : ∀ w ∈ (a.inputs.schedule c c.now (.input key) key typed).1.waiting,
      w ∈ a.inputs.waiting ∨ w.since = now := by
    intro w hw
    rw [Debouncer.waiting_schedule] at hw
    rcases List.mem_append.1 hw with hw | hw
    · exact .inl (Debouncer.mem_drop.1 hw).1
    · obtain rfl := List.mem_singleton.1 hw
      exact .inr hc
  refine ⟨?_, fun w hw => ?_, h.done, fun w hw step hstep hsyn => ?_, h.follow⟩
  · rw [Debouncer.waiting_schedule, List.pairwise_append]
    refine ⟨h.sorted.sublist List.filter_sublist, List.pairwise_singleton _ _, fun v hv w hw => ?_⟩
    obtain rfl := List.mem_singleton.1 hw
    exact (h.past v (Debouncer.mem_drop.1 hv).1).trans hc.ge
  · rcases hmem w hw with hw | hw
    · exact h.past w hw
    · exact hw.le
  · rcases hmem w hw with hw | hw
    · exact h.ahead w hw step hstep hsyn
    · rw [hw]
      exact h.done step hstep

end Active.Ordered

/-! ### Every move keeps the order -/

/-- The steps of an active session are ordered with the texts that wait, and those of one that was stopped follow each
other. -/
structure Ordered (r : Recorder) : Prop where
  active : ∀ a, r.active = some a → a.Ordered r.clock.now
  stopped : ∀ session, r.stopped = some session → session.steps.Pairwise Follows

/-- **Every move keeps the order**, unless the clock goes back or the steps are edited by hand. -/
theorem Move.ordered (hm : Move may r r') (hb : may.back = false) (he : may.edits = false) (hl : r.Linked)
    (ho : r.Ordered) : r'.Ordered := by
  have hactive := ho.active
  cases hm with
  | told notices | attended onAdded onUpdated => exact ⟨hactive, ho.stopped⟩
  | flushed notices h hr hw hs =>
    refine ⟨fun b hb => ?_, ho.stopped⟩
    cases hb
    have hsorted := (hactive _ h).sorted
    rw [hw, List.pairwise_cons] at hsorted
    refine (hactive _ h).take (hl.active _ h) (by simp [hw]) (fun v hv => ?_) hs
    rw [hw] at hv
    rcases List.mem_cons.1 hv with rfl | hv
    · exact le_rfl
    · exact hsorted.1 v hv
  | rung notices h hr hw hfirst hs =>
    have hla := hl.active _ h
    refine ⟨fun b hb => ?_, ho.stopped⟩
    cases hb
    -- all texts wait equally long, so the one whose timer is due first is the earliest
    refine ((hactive _ h).take hla hw (fun v hv => ?_) hs).later (hl.sound.ahead _ (hla.inputs.isSet _ hw))
    have := (hfirst _ (hla.inputs.isSet v hv)).due
    simp only [Debouncer.timerOf] at this
    linarith
  | acted notices h hr hw hk ht hf =>
    refine ⟨fun b hb => ?_, ho.stopped⟩
    cases hb
    exact (hactive _ h).push ht (.inr hw)
  | rechosen notices value h hw hs hk =>
    refine ⟨fun b hb => ?_, ho.stopped⟩
    cases hb
    exact (hactive _ h).revalue hs value
  | noted notices h hr hk ht =>
    refine ⟨fun b hb => ?_, ho.stopped⟩
    cases hb
    exact (hactive _ h).push ht (.inl hk)
  | edited steps last notices h hedit =>
    rw [he] at hedit
    cases hedit
  | heeded payload h =>
    refine ⟨fun b hb => ?_, ho.stopped⟩
    cases hb
    have ha := hactive _ h
    rw [Debouncer.schedule_now]
    exact { ha with }
  | settled h hw hfirst =>
    refine ⟨fun b hb => ?_, ho.stopped⟩
    cases hb
    have ha := (hactive _ h).later (hl.sound.ahead _ ((hl.active _ h).mutations.isSet _ hw))
    exact { ha with }
  | idleRung h ht hta hfirst =>
    refine ⟨fun b hb => ?_, ho.stopped⟩
    cases hb
    have ha := (hactive _ h).later (hl.sound.ahead _ ht)
    exact { ha with }
  | counted h hi hc | idleSet delay h hn | idleCancelled h hn | paused h hw | resumed h hst =>
    refine ⟨fun b hb => ?_, ho.stopped⟩
    cases hb
    have ha := hactive _ h
    exact { ha with }
  | passed time hdue hforward =>
    have hnow : r.clock.now ≤ time := hforward.resolve_left fun h => by
      rw [hb] at h
      cases h
    exact ⟨fun b hb => (hactive b hb).later hnow, ho.stopped⟩

lemma Path.ordered (hp : Path may r r') (hb : may.back = false) (he : may.edits = false) (hl : r.Linked)
    (ho : r.Ordered) : r'.Ordered := by
  induction hp with
  | refl => exact ho
  | tail hp hm ih => exact hm.ordered hb he (Path.linked hp hl) ih

lemma Ordered.conclude (ho : r.Ordered) : r.conclude.Ordered where
  active a ha := by rw [conclude_active] at ha; cases ha
  stopped session hs := by
    unfold Recorder.conclude at hs
    split at hs
    · exact ho.stopped session hs
    · rename_i a ha
      cases hs
      exact (ho.active a ha).follow

lemma Ordered.begun (p : Page) : (r.begun p).Ordered where
  active a ha := by
    cases ha
    exact ⟨.nil, nofun, by simp [freshSession, Recorder.begun, now], nofun, List.pairwise_singleton _ _⟩
  stopped session hs := by cases hs

/-! ### All recordings -/

/-- A recorder that was fresh once, after any signals but those that edit steps by hand or let the clock go back. -/
inductive Forward : Recorder → Prop
  | fresh {r : Recorder} (h : r.Fresh) : Forward r
  | obey {r : Recorder} (h : Forward r) (s : Signal) (he : s.edits = false) (hb : s.goesBack = false) :
    Forward (r.obey s)

lemma Forward.obeyAll {r : Recorder} (h : Forward r) {signals : List Signal}
    (hs : ∀ s ∈ signals, s.edits = false ∧ s.goesBack = false) : Forward (r.obeyAll signals) := by
  induction signals generalizing r with
  | nil => exact h
  | cons s rest ih =>
    obtain ⟨⟨he, hb⟩, hrest⟩ := List.forall_mem_cons.1 hs
    exact ih (h.obey s he hb) hrest

/-- What a session may do whose steps are not edited by hand, and whose clock does not go back. -/
def anyForward : Leave := { counts := true }

lemma Forward.linked (h : Forward r) : r.Linked := by
  induction h with
  | fresh h => exact .of_free h.active h.timers
  | obey _ s _ _ ih => exact ih.obey_any s

lemma Signal.within_anyForward {s : Signal} (he : s.edits = false) (hb : s.goesBack = false) (hin : s.isInner = true) :
    s.Within anyForward :=
  ⟨hin, fun h => by simp [he] at h, fun h => by simp [hb] at h, fun _ => rfl⟩

/-- **Every signal keeps the order.** -/
theorem Ordered.obey (ho : r.Ordered) (hl : r.Linked) (s : Signal) (he : s.edits = false) (hb : s.goesBack = false) :
    (r.obey s).Ordered := by
  have houtcome := hl.outcome (Signal.within_anyForward he hb)
  generalize r.obey s = r' at houtcome ⊢
  cases houtcome with
  | @kept selector typed ht =>
    obtain ⟨a, ha, hr, hsince⟩ := Signal.text?_eq_some ht
    rw [keepText_eq ha]
    refine ⟨fun b hb => ?_, ho.stopped⟩
    cases hb
    rw [Debouncer.schedule_now]
    exact (ho.active a ha).keepText r.clock rfl selector typed
  | moved _ hp => exact hp.ordered rfl rfl hl ho
  | ended _ hp _ => exact (hp.ordered rfl rfl hl ho).conclude
  | begun p _ hp _ => exact .begun p
  | forgotten _ =>
    refine ⟨fun a ha => ?_, fun session hs => by cases hs⟩
    rw [show _ = none from drop_active r] at ha
    cases ha

theorem Forward.ordered (h : Forward r) : r.Ordered := by
  induction h with
  | fresh h => exact ⟨fun a ha => by simp [h.active] at ha, fun session hs => by simp [h.stopped] at hs⟩
  | obey h s he hb ih => exact ih.obey h.linked s he hb

/-- **The steps of every recording follow each other**, and they are in the order of time exactly if no step that fills
a field stands behind a later one that the recorder has added by itself. -/
theorem steps_in_order_iff {r : Recorder} {session : Session} (h : Forward r) (hs : r.session? = some session) :
    session.steps.Pairwise Follows ∧
      (session.steps.Pairwise (fun s t => s.timestamp ≤ t.timestamp) ↔
        session.steps.Pairwise fun s t =>
          ¬ (s.kind.isSynthetic = true ∧ t.kind = .fill ∧ t.timestamp < s.timestamp)) := by
  have hfollow : session.steps.Pairwise Follows := by
    unfold session? at hs
    split at hs
    · rename_i a ha
      cases hs
      exact (h.ordered.active a ha).follow
    · exact h.ordered.stopped session hs
  refine ⟨hfollow, fun hsorted => hsorted.imp fun hle ⟨_, _, hlt⟩ => absurd hle (not_le.2 hlt), fun hnone => ?_⟩
  refine (hfollow.and hnone).imp fun ⟨hfol, hno⟩ => ?_
  rcases hfol with hle | ⟨hsyn, hfill⟩
  · exact hle
  · exact not_lt.1 fun hlt => hno ⟨hsyn, hfill, hlt⟩

/-! ### A field that appears while a text waits -/

/-- A page with two fields. -/
def growingPage : Page where
  url := "https://shop.test/"
  forest := {
    trees := [.element Dom.documentTag [
      .element ⟨1, "input", [("id", .text "q"), ("value", .text "lamp")]⟩ [],
      .element ⟨2, "input", [("id", .text "size")]⟩ []]]
    nextId := 3 }

/-- The first field gets a text, and at the same time the second one appears. -/
def growing : List Signal := [
  .start growingPage, .hear growingPage { type := "input", target := .element 1 },
  .heed [⟨Dom.documentId, .children [2] []⟩], .advance growingPage 1000]

lemma growing_forward : Forward (({} : Recorder).obeyAll growing) := by
  have h₀ : Forward {} := .fresh ⟨rfl, rfl, rfl, rfl⟩
  have hs : ∀ s ∈ growing, s.edits = false ∧ s.goesBack = false := by
    simp [growing, Signal.edits, Signal.goesBack]
  exact h₀.obeyAll hs

lemma growing_steps : ∃ session, (({} : Recorder).obeyAll growing).session? = some session ∧
    session.steps.map (fun step => (step.kind, step.timestamp)) =
      [(.navigate, 0), (.waitForElement, 400), (.fill, 0)] := by
  have hsteps : (({} : Recorder).obeyAll growing).session?.map (fun session =>
      session.steps.map fun step => (step.kind, step.timestamp)) =
        some [(.navigate, 0), (.waitForElement, 400), (.fill, 0)] := by
    decide +kernel
  exact Option.map_eq_some_iff.1 hsteps

theorem growing_follows : ∃ session, (({} : Recorder).obeyAll growing).session? = some session ∧
    session.steps.Pairwise Follows := by
  obtain ⟨session, hs, -⟩ := growing_steps
  exact ⟨session, hs, (steps_in_order_iff growing_forward hs).1⟩

/-- The text is recorded after the wait for the field, though it is earlier. -/
theorem fill_behind_wait : Forward (({} : Recorder).obeyAll growing) ∧
    ∃ session, (({} : Recorder).obeyAll growing).session? = some session ∧
      session.steps.map (fun step => (step.kind, step.timestamp)) =
        [(.navigate, 0), (.waitForElement, 400), (.fill, 0)] ∧
      ¬ session.steps.Pairwise fun s t => s.timestamp ≤ t.timestamp := by
  obtain ⟨session, hs, hmap⟩ := growing_steps
  refine ⟨growing_forward, session, hs, hmap, fun hsorted => ?_⟩
  have hpairs : (session.steps.map fun step => (step.kind, step.timestamp)).Pairwise fun s t => s.2 ≤ t.2 :=
    List.pairwise_map.2 hsorted
  rw [hmap] at hpairs
  revert hpairs
  decide

end PageTape.Recorder
