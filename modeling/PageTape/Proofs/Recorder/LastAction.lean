import PageTape.Proofs.Recorder.Kept
import PageTape.Proofs.Recorder.Order
import PageTape.Proofs.Recorder.Silent

/-!
# The time of the last action of the user

A recorder keeps the time of the last action of the user, by which it tells whether a wait for an idle network is worth
a step.  That time is always the one of the newest step of the user (`Move.current`), which is another one than that of
the last action in a single case: where the newest step is about a select and another option is chosen there, the step
takes the option but keeps its time (`rechosen_late`).

* `Unedited r` — a recorder after any signals but those that edit steps by hand, also in the middle of a time that
  passes;
* `Heard r result` — what an event that is heard may do to the steps and to the time that is kept;
* `last_action_time` — all of this, for every such recorder.
-/

namespace PageTape.Recorder

open Dom (Location)

variable {may : Leave} {p : Page} {r r' s : Recorder} {α : Type}

/-! ### The newest step of the user -/

/-- The newest step of the user. -/
def lastActed? (steps : List Step) : Option Step := (steps.filter (!·.kind.isSynthetic)).getLast?

lemma lastActed?_concat {step : Step} (h : step.kind.isSynthetic = false) (steps : List Step) :
    lastActed? (steps ++ [step]) = some step := by
  simp [lastActed?, h]

lemma lastActed?_concat_synthetic {step : Step} (h : step.kind.isSynthetic = true) (steps : List Step) :
    lastActed? (steps ++ [step]) = lastActed? steps := by
  simp [lastActed?, h]

/-- Once a text is recorded, the newest step is one that fills its field. -/
lemma Takes.getLast? {w : Waiting String Typed} {steps steps' : List Step} (h : Takes w steps steps') :
    ∃ step, steps'.getLast? = some step ∧ Fills step w := by
  obtain ⟨init, last, rfl, -, hfills⟩ := h.eq_append
  exact ⟨last, by simp, hfills⟩

lemma Takes.lastActed? {w : Waiting String Typed} {steps steps' : List Step} (h : Takes w steps steps') :
    ∃ step, lastActed? steps' = some step ∧ Fills step w := by
  obtain ⟨init, last, rfl, -, hfills⟩ := h.eq_append
  exact ⟨last, lastActed?_concat (by rw [hfills.1]; rfl) init, hfills⟩

/-- **The time that is kept is that of the newest step of the user.** -/
def Current (r : Recorder) : Prop :=
  ∀ a, r.active = some a → ∃ step, lastActed? a.session.steps = some step ∧ step.timestamp = r.lastUserActionAt

/-- **Every move keeps the time of the newest step of the user**, unless steps are edited by hand. -/
theorem Move.current (hm : Move may r r') (he : may.edits = false) (hc : Current r) : Current r' := by
  cases hm with
  | told notices | attended onAdded onUpdated | passed time hdue hb => exact hc
  | flushed notices h hr hw hs | rung notices h hr hw hfirst hs =>
    rintro b ⟨⟩
    obtain ⟨step, hstep, hfills⟩ := hs.lastActed?
    exact ⟨step, hstep, hfills.2.2.2⟩
  | acted notices h hr hw hk ht hf =>
    rintro b ⟨⟩
    exact ⟨_, lastActed?_concat hk _, rfl⟩
  | @rechosen a steps last notices value h hw hs hk =>
    rintro b ⟨⟩
    obtain ⟨step, hstep, htime⟩ := hc a h
    rw [hs, lastActed?_concat (by rw [hk]; rfl)] at hstep
    obtain rfl := Option.some.inj hstep
    have hnew : StepKind.isSynthetic { last with value }.kind = false := by
      show last.kind.isSynthetic = false
      rw [hk]
      rfl
    exact ⟨_, lastActed?_concat hnew steps, htime⟩
  | noted notices h hr hk ht =>
    rintro b ⟨⟩
    obtain ⟨step, hstep, htime⟩ := hc _ h
    exact ⟨step, (lastActed?_concat_synthetic hk _).trans hstep, htime⟩
  | edited steps last notices h hedit =>
    rw [he] at hedit
    cases hedit
  | heeded payload h | settled h hw hfirst | counted h hi hcount | idleSet delay h hn | idleCancelled h hn
  | idleRung h ht hta hfirst | paused h hw | resumed h hst =>
    rintro b ⟨⟩
    obtain ⟨step, hstep, htime⟩ := hc _ h
    exact ⟨step, hstep, htime⟩

lemma Path.current (hp : Path may r r') (he : may.edits = false) (hc : Current r) : Current r' := by
  induction hp with
  | refl => exact hc
  | tail _ hm ih => exact hm.current he ih

lemma Current.of_none (h : r.active = none) : Current r := fun a ha => by
  rw [h] at ha
  cases ha

/-! ### Recorders whose steps are not edited -/

/-- A recorder that was fresh once, after any signals but those that edit steps by hand, or in the middle of a time that
passes, when the next timer has gone off. -/
inductive Unedited : Recorder → Prop
  | fresh {r : Recorder} (h : r.Fresh) : Unedited r
  | obey {r : Recorder} (h : Unedited r) {s : Signal} (he : s.edits = false) : Unedited (r.obey s)
  | ring {r : Recorder} (h : Unedited r) (p : Page) {target : Rat} {t : Timer Alarm} {clock : Clock Alarm}
      (hp : r.clock.popDue? target = some (t, clock)) : Unedited ((goOff p t.alarm).run { r with clock }).2

namespace Unedited

lemma obeyAll (h : Unedited r) {signals : List Signal} (hs : ∀ s ∈ signals, s.edits = false) :
    Unedited (r.obeyAll signals) := by
  induction signals generalizing r with
  | nil => exact h
  | cons s rest ih =>
    obtain ⟨he, hrest⟩ := List.forall_mem_cons.1 hs
    exact ih (h.obey he) hrest

lemma within {s : Signal} (he : s.edits = false) (hin : s.isInner = true) : s.Within anyTraffic :=
  Signal.within_anyTraffic (by simp [Signal.isRecorded, he, hin])

lemma linked (h : Unedited r) : r.Linked := by
  induction h with
  | fresh h => exact .of_free h.active h.timers
  | obey _ he ih => exact ih.obey_any _
  | ring _ p hp ih =>
    obtain ⟨ht, hfirst, -, rfl⟩ := Clock.popDue?_eq_some hp
    exact (goOff_leads anyTraffic p ih ht hfirst).1.linked ih

/-- **The time that is kept is always that of the newest step of the user.** -/
theorem current (h : Unedited r) : Current r := by
  induction h with
  | fresh h => exact .of_none h.active
  | @ring r h p target t clock hp ih =>
    obtain ⟨ht, hfirst, -, rfl⟩ := Clock.popDue?_eq_some hp
    exact (goOff_leads anyTraffic p h.linked ht hfirst).1.current rfl ih
  | @obey r h s he ih =>
    have houtcome := h.linked.outcome (s := s) (within he)
    generalize r.obey s = r' at houtcome ⊢
    cases houtcome with
    | kept htext =>
      obtain ⟨a, ha, -⟩ := Signal.text?_eq_some htext
      rw [keepText_eq ha]
      rintro b ⟨⟩
      exact ih a ha
    | moved _ hp => exact hp.current rfl ih
    | ended _ hp hc => exact .of_none (conclude_active _)
    | begun p _ hp hc =>
      rintro b ⟨⟩
      exact ⟨_, rfl, rfl⟩
    | forgotten _ => exact .of_none (drop_active r)

end Unedited

/-! ### Texts that are recorded before something else -/

/-- The newest step fills the field of a text that waited, with its time, and that is the time that is kept. -/
structure Flushed (r r' : Recorder) : Prop where
  now : r'.clock.now = r.clock.now
  isRecording : r'.isRecording = true
  filled : ∃ w ∈ r.texts, ∃ step, r'.steps.getLast? = some step ∧ Fills step w ∧
    r'.lastUserActionAt = stampOf w.payload.since

lemma flushed_of_forM (p : Page) (ws : List (Waiting String Typed)) (hne : ws ≠ []) (hl : r.Linked)
    (h : r.texts = ws) : Flushed r ((ws.forM fun w => recordWaiting p w.key).run r).2 := by
  induction ws generalizing r with
  | nil => exact absurd rfl hne
  | cons w rest ih =>
    obtain ⟨a, ha⟩ : ∃ a, r.active = some a := by
      cases ha : r.active with
      | none => simp [texts, ha] at h
      | some a => exact ⟨a, rfl⟩
    have hw : a.inputs.waiting = w :: rest := (texts_eq ha).symm.trans h
    obtain ⟨hrec, steps, notices, hsteps, hrun⟩ := recordWaiting_run p hl ha hw
    obtain ⟨step, hlast, hfills⟩ := hsteps.getLast?
    -- the first text is recorded, and the others follow if there are any
    have hfirst : Flushed r ((recordWaiting p w.key).run r).2 := by
      rw [hrun]
      refine ⟨rfl, isRecording_iff.2 ⟨_, rfl, hrec⟩, w, by simp [h], step, ?_, hfills, rfl⟩
      simpa [Recorder.steps, Active.withSteps] using hlast
    have hl' : ((recordWaiting p w.key).run r).2.Linked :=
      Path.linked ((recordWaiting_runs (C := course {}) p w rest).leads hl ⟨a, ha, hw⟩) hl
    have hrest : ((recordWaiting p w.key).run r).2.texts = rest := by
      rw [hrun, texts_eq rfl]
      exact (hl.active a ha).inputs.drop_eq hw
    show Flushed r ((recordWaiting p w.key >>= fun _ => rest.forM fun w => recordWaiting p w.key).run r).2
    rw [Course.run_bind]
    rcases hr : (recordWaiting p w.key).run r with ⟨fault | u, t⟩ <;> rw [hr] at hfirst hl' hrest
    · exact hfirst
    · dsimp only at hfirst hl' hrest ⊢
      by_cases hnil : rest = []
      · subst hnil
        exact hfirst
      · obtain ⟨hnow, hrec', v, hv, hfilled⟩ := ih hnil hl' hrest
        refine ⟨hnow.trans hfirst.now, hrec', v, ?_, hfilled⟩
        rw [hrest] at hv
        rw [h]
        exact List.mem_cons_of_mem w hv

/-- **Every text that waits is recorded**, with its own time; where none waits nothing happens. -/
lemma recordAllWaiting_cases (p : Page) (hl : r.Linked) :
    (recordAllWaiting p).run r = (.ok ⟨⟩, r) ∨ Flushed r ((recordAllWaiting p).run r).2 := by
  unfold recordAllWaiting
  rw [Course.run_bind, Course.run_get]
  dsimp only
  cases ha : r.active with
  | none => exact .inl rfl
  | some a =>
    dsimp only
    by_cases hw : a.inputs.waiting = []
    · rw [hw]
      exact .inl rfl
    · exact .inr (flushed_of_forM p _ hw hl (texts_eq ha))

/-! ### Steps of the time it is -/

/-- The newest step is one of the user, and it has the time that is kept, which is now. -/
def Timely (now : Int) (r : Recorder) : Prop :=
  ∃ step, r.steps.getLast? = some step ∧ step.kind.isSynthetic = false ∧ step.timestamp = now ∧ r.lastUserActionAt = now

/-- The course of a recorder that records what the user does now. -/
def acting : Course Recorder where
  holds r := r.isRecording = true
  leads r r' := r'.clock.now = r.clock.now ∧ r'.isRecording = r.isRecording ∧
    ((r'.steps = r.steps ∧ r'.lastUserActionAt = r.lastUserActionAt) ∨ Timely r.now r')
  refl r := ⟨rfl, rfl, .inl ⟨rfl, rfl⟩⟩
  trans := by
    rintro r s t ⟨hnow, hrec, h⟩ ⟨hnow', hrec', h'⟩
    refine ⟨hnow'.trans hnow, hrec'.trans hrec, ?_⟩
    have hs : s.now = r.now := congrArg stampOf hnow
    rcases h' with ⟨hsteps, hlast⟩ | h'
    · refine h.imp (fun h => ⟨hsteps.trans h.1, hlast.trans h.2⟩) fun ⟨step, hstep, hk, ht, hl⟩ => ?_
      exact ⟨step, hsteps ▸ hstep, hk, ht, hlast.trans hl⟩
    · exact .inr (hs ▸ h')
  keeps h hr := h.2.1.trans hr

lemma addUserStep_acts (step : Step) (hk : step.kind.isSynthetic = false) :
    acting.Runs (fun s => step.timestamp = s.now) (addUserStep step) fun _ s => Timely step.timestamp s := by
  intro s hs ht
  obtain ⟨a, ha, hrec⟩ := isRecording_iff.1 hs
  obtain ⟨notices, hrun, -⟩ := addUserStep_run ha hrec step
  have htimely : Timely step.timestamp ((addUserStep step).run s).2 := by
    rw [hrun]
    exact ⟨step, by simp [Recorder.steps, Active.withSteps], hk, rfl, rfl⟩
  have hafter : ((addUserStep step).run s).2.clock.now = s.clock.now ∧
      ((addUserStep step).run s).2.isRecording = s.isRecording := by
    rw [hrun]
    exact ⟨rfl, (isRecording_iff.2 ⟨a.withSteps (a.session.steps ++ [step]), rfl, hrec⟩).trans hs.symm⟩
  exact ⟨⟨hafter.1, hafter.2, .inr (ht ▸ htimely)⟩, fun _ _ => htimely⟩

/-- A step of the time it is is recorded. -/
lemma recordNow_acts {P : Recorder → Prop} (l : Option Location) (kind : StepKind) (f : Step → Step)
    (hk : kind.isSynthetic = false) (hf : ∀ s, (f s).kind = s.kind ∧ (f s).timestamp = s.timestamp) :
    acting.Runs P (stepNow kind >>= fun step => record l (f step)) fun _ s => Timely s.now s := by
  -- what is said of the element changes neither the kind of the step nor its time
  have hrecord : ∀ (r : Recorder) (step : Step), step.kind = kind → step.timestamp = r.now →
      acting.Runs (fun s => s = r) (discard (addUserStep step)) fun _ s => Timely s.now s := by
    rintro r step rfl htime s hs rfl
    obtain ⟨h₁, h₂⟩ :=
      Course.Runs.discard (T := fun _ s => Timely step.timestamp s) (addUserStep_acts step hk) s hs htime
    refine ⟨h₁, fun u hu => ?_⟩
    have hnow : ((discard (addUserStep step)).run s).2.now = s.now := congrArg stampOf h₁.1
    show Timely ((discard (addUserStep step)).run s).2.now _
    rw [hnow, ← htime]
    exact h₂ u hu
  refine .bind_still (fun _ => rfl) fun r step hstep => ?_
  rw [stepNow_run] at hstep
  obtain rfl := Except.ok.inj hstep
  obtain ⟨hkind, htime⟩ := hf { kind, timestamp := r.now }
  cases l with
  | none => exact (hrecord r _ hkind htime).strengthen fun _ _ h => h.1
  | some l => exact (hrecord r (describe l _) hkind htime).strengthen fun _ _ h => h.1

lemma recordFields_acts (known : List String) (fields : List Location) :
    acting.Runs (fun _ => True) (recordFields known fields) fun _ _ => True := by
  induction fields generalizing known with
  | nil => exact .pure fun _ _ _ => trivial
  | cons l rest ih =>
    unfold recordFields
    dsimp only
    refine .bind_still (fun s => by rw [leavesAlone_run]) fun r own _ => ?_
    refine .ite (fun _ => (ih known).strengthen fun _ _ _ => trivial) fun _ => .bind_get fun r' => ?_
    split
    · rename_i step hstep
      obtain ⟨hk, ht, -⟩ := snapshot?_eq_some hstep
      refine .bind (Q := fun _ _ => True) ?_ fun added => ih _
      refine (addUserStep_acts step hk).mono ?_ fun _ _ _ => trivial
      rintro s - ⟨rfl, -⟩
      exact ht
    · exact (ih known).strengthen fun _ _ _ => trivial

lemma recordForm_acts (form : Location) :
    acting.Runs (fun _ => True) (recordForm form) fun _ _ => True :=
  .bind_get fun _ => (recordFields_acts _ _).strengthen fun _ _ _ => trivial

/-! ### Events -/

/-- **What an event that is heard does to the steps and to the time that is kept.** -/
inductive Heard (r : Recorder) (result : Except Fault Unit × Recorder) : Prop
  /-- nothing is recorded yet -/
  | still (hsteps : result.2.steps = r.steps) (hlast : result.2.lastUserActionAt = r.lastUserActionAt)
  /-- the newest step is one of the user, and of the time it is -/
  | timely (h : Timely r.now result.2)
  /-- the newest step is about a select and takes another option, but not the time at which that is chosen -/
  | rechosen {init : List Step} {step : Step} {l : Location} (hsteps : r.steps = init ++ [step])
      (habout : isAbout .select (Locator.quick l) step = true) (hvalue : step.value ≠ some l.value)
      (hsteps' : result.2.steps = init ++ [{ step with value := some l.value }])
      (hlast : result.2.lastUserActionAt = r.lastUserActionAt)
  /-- a callback fails after a text is recorded that waited, and the event is not recorded -/
  | interrupted {fault : Fault} (hfault : result.1 = .error fault) {w : Waiting String Typed} (hw : w ∈ r.texts)
      {step : Step} (hstep : result.2.steps.getLast? = some step) (hfills : Fills step w)
      (hlast : result.2.lastUserActionAt = stampOf w.payload.since)

/-- What is recorded of an event once no text waits is of the time it is. -/
abbrev Acts (act : Act α) : Prop := acting.Runs (fun _ => True) act fun _ s => Timely s.now s

lemma heard_of_acts {act : Act Unit} (h : Acts act) (hr : r.isRecording = true) : Heard r (act.run r) := by
  obtain ⟨-, -, ⟨hsteps, hlast⟩ | htimely⟩ := h.leads hr trivial
  · exact .still hsteps hlast
  · exact .timely htimely

/-- **First the texts that wait are recorded**, then the event.  Where a text waited, the newest step fills a field when
it comes to the event. -/
lemma heard_of_flush {rest : Act Unit} (hl : r.Linked) (hcalm : Heard r (rest.run r))
    (hrest : ∀ s : Recorder, s.isRecording = true → (∃ step, s.steps.getLast? = some step ∧ step.kind = .fill) →
      ∃ act : Act Unit, Acts act ∧ rest.run s = act.run s) :
    Heard r ((recordAllWaiting p >>= fun _ => rest).run r) := by
  rw [Course.run_bind]
  rcases recordAllWaiting_cases p hl with hrun | hflushed
  · rw [hrun]
    exact hcalm
  · obtain ⟨hnow, hrec, w, hw, step, hstep, hfills, hlast⟩ := hflushed
    rcases hrun : (recordAllWaiting p).run r with ⟨fault | u, s⟩ <;> rw [hrun] at hnow hrec hstep hlast
    · exact .interrupted rfl hw hstep hfills hlast
    · dsimp only at hnow hrec hstep hlast ⊢
      obtain ⟨act, hact, hsame⟩ := hrest s hrec ⟨step, hstep, hfills.1⟩
      rw [hsame]
      have hnow' : s.now = r.now := congrArg stampOf hnow
      obtain ⟨⟨hnow'', -, hleads⟩, hok⟩ := hact s hrec trivial
      rcases hleads with ⟨hsteps, hlast'⟩ | htimely
      · rcases hres : (act.run s).1 with fault | v
        · exact .interrupted hres hw (hsteps ▸ hstep) hfills (hlast'.trans hlast)
        · have htimely : Timely (act.run s).2.now (act.run s).2 := hok v hres
          rw [show (act.run s).2.now = r.now from congrArg stampOf (hnow''.trans hnow)] at htimely
          exact .timely htimely
      · exact .timely (hnow' ▸ htimely)

/-- What is recorded of an event does not depend on the steps so far. -/
lemma heard_of_flush_acts {rest : Act Unit} (hl : r.Linked) (hr : r.isRecording = true) (hrest : Acts rest) :
    Heard r ((recordAllWaiting p >>= fun _ => rest).run r) :=
  heard_of_flush hl (heard_of_acts hrest hr) fun _ _ _ => ⟨rest, hrest, rfl⟩

lemma Heard.refl (r : Recorder) (result : Except Fault Unit) : Heard r (result, r) := .still rfl rfl

/-- An event that is not accepted does nothing, and no more does one on which this cannot be told. -/
lemma heard_of_accepted (event : Page.Event) {f : Option Location → Act Unit} (hnone : f none = pure ⟨⟩)
    (hf : ∀ l, r.isRecording = true → Heard r ((f (some l)).run r)) :
    Heard r ((accepted? p event >>= f).run r) := by
  have hstill : (accepted? p event).run r = (((accepted? p event).run r).1, r) := by rw [accepted?_run]
  rw [Course.run_bind, hstill]
  rcases hr : ((accepted? p event).run r).1 with fault | _ | l
  · exact .refl r _
  · dsimp only
    rw [hnone]
    exact .refl r _
  · exact hf l (accepted?_eq_some.1 hr).1

lemma newest?_of_getLast? {step : Step} (h : s.steps.getLast? = some step) :
    s.newest? = some (s.steps.length - 1, step) := by
  simp [newest?, h]

/-- **An option is chosen**: where the newest step is about the same select, it takes the option. -/
lemma recordChoice_heard (hl : r.Linked) (hr : r.isRecording = true) (p : Page) (l : Location) :
    Heard r ((recordChoice p l).run r) := by
  have hnew : Acts (stepNow .select >>= fun step => record l { step with
      selector := some (Locator.quick l), value := some l.value, required := some l.tag.isRequired }) :=
    recordNow_acts _ _ _ rfl fun _ => ⟨rfl, rfl⟩
  unfold recordChoice
  refine heard_of_flush hl ?_ ?_
  · rw [Course.run_bind, Course.run_get]
    dsimp only
    split
    · rename_i position last hn
      obtain ⟨hn, habout⟩ := Option.filter_eq_some_iff.1 hn
      split
      · rename_i hvalue
        obtain ⟨a, ha, -⟩ := isRecording_iff.1 hr
        obtain ⟨init, hsteps, rfl⟩ := newest?_eq_some ha hn
        have hlast : a.session.steps[init.length]? = some last := by simp [hsteps]
        obtain ⟨notices, hrun⟩ := change_run ha hlast fun step => { step with value := some l.value }
        have hset : a.session.steps.set init.length { last with value := some l.value } =
            init ++ [{ last with value := some l.value }] := by
          rw [hsteps, List.set_append_right _ _ le_rfl]
          simp
        have hsteps' : r.steps = init ++ [last] := by simp [Recorder.steps, ha, hsteps]
        refine .rechosen hsteps' habout (by simpa using hvalue) ?_ ?_
        · rw [hrun, hset]
          simp [Recorder.steps, Active.withSteps]
        · rw [hrun]
      · exact .refl r _
    · exact heard_of_acts hnew hr
  · rintro s hs ⟨step, hstep, hfill⟩
    refine ⟨_, hnew, ?_⟩
    rw [Course.run_bind, Course.run_get]
    have hnone : (s.newest?.filter fun newest => isAbout .select (Locator.quick l) newest.2) = none := by
      simp [newest?_of_getLast? hstep, isAbout, hfill]
    simp only [hnone]

lemma recordBox_heard (hl : r.Linked) (hr : r.isRecording = true) (p : Page) (l : Location) :
    Heard r ((recordBox p l).run r) := by
  unfold recordBox
  refine heard_of_flush_acts hl hr ?_
  split
  · exact recordNow_acts _ _ _ rfl fun _ => ⟨rfl, rfl⟩
  · exact recordNow_acts _ _ _ rfl fun _ => ⟨rfl, rfl⟩

lemma onInput_heard (hl : r.Linked) (event : Page.Event) : Heard r ((onInput p event).run r) := by
  unfold onInput
  refine heard_of_accepted event rfl fun l hr => ?_
  dsimp only
  split
  · exact recordChoice_heard hl hr p l
  · exact recordBox_heard hl hr p l
  · exact heard_of_flush_acts hl hr (recordNow_acts _ _ _ rfl fun _ => ⟨rfl, rfl⟩)
  · -- the text waits
    obtain ⟨a, ha, -⟩ := isRecording_iff.1 hr
    rw [awaitText_run, keepText_eq ha]
    exact .still (by simp [Recorder.steps, ha]) rfl
  · exact .refl r _

lemma onChange_heard (hl : r.Linked) (event : Page.Event) : Heard r ((onChange p event).run r) := by
  unfold onChange
  refine heard_of_accepted event rfl fun l hr => ?_
  dsimp only
  split
  · exact recordChoice_heard hl hr p l
  · exact .refl r _

lemma onClick_heard (hl : r.Linked) (event : Page.Event) : Heard r ((onClick p event).run r) := by
  unfold onClick
  refine heard_of_accepted event rfl fun l hr => ?_
  dsimp only
  split
  · exact .refl r _
  · refine heard_of_flush_acts hl hr (.ite (fun _ => ?_) fun _ => ?_)
    · have hlast : ∀ {P : Recorder → Prop}, acting.Runs P (stepNow .submit >>= fun step =>
          record (some l) { step with label := nonempty? (some (Text.strip l.textContent)) }) fun _ s =>
            Timely s.now s := recordNow_acts _ _ _ rfl fun _ => ⟨rfl, rfl⟩
      split
      · exact .bind (recordForm_acts _) fun _ => hlast
      · exact hlast
    · exact recordNow_acts _ _ _ rfl fun _ => ⟨rfl, rfl⟩

/-- A submit that repeats the one before is not recorded, and then no text has waited. -/
lemma onSubmit_heard (hl : r.Linked) (event : Page.Event) : Heard r ((onSubmit p event).run r) := by
  unfold onSubmit
  refine heard_of_accepted event rfl fun form hr => ?_
  have hnew : Acts (recordForm form >>= fun _ => stepNow .submit >>= fun step => record form { step with
      url := form.tag.attr? "action", label := some "Form submit" }) :=
    .bind (recordForm_acts form) fun _ => recordNow_acts _ _ _ rfl fun _ => ⟨rfl, rfl⟩
  dsimp only
  refine heard_of_flush hl ?_ ?_
  · rw [Course.run_bind, Course.run_get]
    dsimp only
    split
    · exact .refl r _
    · exact heard_of_acts hnew hr
  · rintro s hs ⟨step, hstep, hfill⟩
    refine ⟨_, hnew, ?_⟩
    have hnot : hasJustSubmitted s = false := by
      simp [hasJustSubmitted, newest?_of_getLast? hstep, hfill]
    rw [Course.run_bind, Course.run_get]
    simp only [hnot, Bool.false_eq_true, if_false]

lemma onKeyDown_heard (hl : r.Linked) (event : Page.Event) : Heard r ((onKeyDown p event).run r) := by
  have hlast : ∀ l : Option Location, r.isRecording = true → Heard r ((recordAllWaiting p >>= fun _ =>
      stepNow .pressKey >>= fun step => record l { step with key := event.key }).run r) := fun l hr =>
    heard_of_flush_acts hl hr (recordNow_acts _ _ _ rfl fun _ => ⟨rfl, rfl⟩)
  unfold onKeyDown
  rw [Course.run_bind, Course.run_get]
  dsimp only
  split
  · exact .refl r _
  · rename_i hskip
    have hr : r.isRecording = true := by
      by_contra hr
      exact hskip (by simp [hr])
    cases event.target.element?.bind p.forest.locate? with
    | none => exact hlast none hr
    | some l =>
      dsimp only
      rw [Course.run_bind, leavesAlone_run]
      rcases isOwn r.config l with fault | own
      · exact .refl r _
      · dsimp only
        split
        · exact .refl r _
        · exact hlast (some l) hr

lemma recordPage_heard (hl : r.Linked) (p : Page) (kind : StepKind) (f : Step → Step) (hk : kind.isSynthetic = false)
    (hf : ∀ s, (f s).kind = s.kind ∧ (f s).timestamp = s.timestamp) : Heard r ((recordPage p kind f).run r) := by
  unfold recordPage
  rw [Course.run_bind, Course.run_get]
  dsimp only
  split
  · exact .refl r _
  · rename_i hskip
    exact heard_of_flush_acts hl (by simpa using hskip) (recordNow_acts _ _ _ hk fun s => hf _)

/-- **What an event does to the time that is kept.** -/
theorem hear_heard (hl : r.Linked) (p : Page) (event : Page.Event) : Heard r ((hear p event).run r) := by
  unfold hear
  split
  · exact onInput_heard hl event
  · exact onChange_heard hl event
  · exact onClick_heard hl event
  · exact onSubmit_heard hl event
  · exact onKeyDown_heard hl event
  · exact recordPage_heard hl p .navigate _ rfl fun _ => ⟨rfl, rfl⟩
  · exact recordPage_heard hl p .waitForUrl _ rfl fun _ => ⟨rfl, rfl⟩
  · exact recordPage_heard hl p .waitForUrl _ rfl fun _ => ⟨rfl, rfl⟩
  · exact .refl r _

/-! ### What the recorder does by itself -/

/-- The program leaves the time that is kept. -/
abbrev Leaves (act : Act α) : Prop :=
  (Course.still fun r : Recorder => r.lastUserActionAt).Runs (fun _ => True) act fun _ _ => True

/-- A step that is not added as the user's leaves it. -/
instance : AllowsNotes (Course.still fun r : Recorder => r.lastUserActionAt) where
  same h := h.lastUserActionAt
  add r step _ := by
    show ((add step).run r).2.lastUserActionAt = r.lastUserActionAt
    obtain ⟨-, hrun⟩ | ⟨a, notices, -, -, hrun⟩ := add_cases step r <;> rw [hrun]

/-! ### Texts -/

/-- Texts only wait that signals give. -/
lemma Move.texts (hm : Move may r r') {w : Waiting String Typed} (hw : w ∈ r'.texts) : w ∈ r.texts := by
  cases hm with
  | told notices | attended onAdded onUpdated | passed time hdue hb => exact hw
  | flushed notices h hr hfirst hs | rung notices h hr hmem hfirst hs =>
    rw [texts_eq rfl] at hw
    rw [texts_eq h]
    exact (Debouncer.mem_drop.1 hw).1
  | acted notices h hr hempty hk ht hf | rechosen notices value h hempty hs hk | noted notices h hr hk ht
  | edited steps last notices h he | heeded payload h | settled h hmem hfirst | counted h hi hc | idleSet delay h hn
  | idleCancelled h hn | idleRung h ht hta hfirst | paused h hempty | resumed h hst =>
    rw [texts_eq rfl] at hw
    rw [texts_eq h]
    exact hw

lemma Path.texts (hp : Path may r r') {w : Waiting String Typed} (hw : w ∈ r'.texts) : w ∈ r.texts := by
  induction hp with
  | refl => exact hw
  | tail _ hm ih => exact ih (hm.texts hw)

/-- **A text that waits is the last one of its field, with the time of the signal that gave it.** -/
lemma Linked.texts_obey (hl : r.Linked) (s : Signal) {w : Waiting String Typed} (hw : w ∈ (r.obey s).texts) :
    (w ∈ r.texts ∧ ∀ typed, s.text? r ≠ some (w.key, typed)) ∨
      (s.text? r = some (w.key, w.payload) ∧ w.payload.since = r.clock.now) := by
  have hnone : ∀ r' : Recorder, r'.active = none → w ∉ r'.texts := fun r' h hw => by simp [Recorder.texts, h] at hw
  have houtcome := hl.outcome (s := s) Signal.within_anything
  generalize r.obey s = r' at houtcome hw
  cases houtcome with
  | @kept selector typed htext =>
    obtain ⟨a, ha, -, hsince⟩ := Signal.text?_eq_some htext
    rw [keepText_eq ha, texts_eq rfl, Debouncer.waiting_schedule] at hw
    rcases List.mem_append.1 hw with hw | hw
    · obtain ⟨hw, hne⟩ := Debouncer.mem_drop.1 hw
      refine .inl ⟨by rwa [texts_eq ha], fun typed' htext' => hne ?_⟩
      exact (congrArg Prod.fst (Option.some.inj (htext.symm.trans htext'))).symm
    · obtain rfl := List.mem_singleton.1 hw
      exact .inr ⟨htext, hsince⟩
  | moved htext hp => exact .inl ⟨hp.texts hw, fun typed => by rw [htext]; exact (Option.some_ne_none _).symm⟩
  | ended _ _ _ => exact absurd hw (hnone _ (conclude_active _))
  | begun p _ _ _ => simp [Recorder.texts, Recorder.begun] at hw
  | forgotten _ => exact absurd hw (hnone _ (drop_active r))

/-! ### All recorders -/

/-- **How the time of the last action of the user is kept.** -/
structure Timed (r : Recorder) : Prop where
  /-- It is the time of the newest step of the user. -/
  current : Current r
  /-- Of an event that is recorded it is the time, but for an option that the newest step takes. -/
  heard : ∀ p event, Heard r ((hear p event).run r)
  /-- A text waits with the time of the last event of its field. -/
  text : ∀ s : Signal, ∀ w ∈ (r.obey s).texts, (w ∈ r.texts ∧ ∀ typed, s.text? r ≠ some (w.key, typed)) ∨
    (s.text? r = some (w.key, w.payload) ∧ w.payload.since = r.clock.now)
  /-- A text that is recorded before something else is so with its time. -/
  flushed : ∀ p, (recordAllWaiting p).run r = (.ok ⟨⟩, r) ∨ Flushed r ((recordAllWaiting p).run r).2
  /-- A text whose timer goes off is recorded with its time. -/
  rung : ∀ p target t clock selector, r.clock.popDue? target = some (t, clock) → t.alarm = .input selector →
    ∃ w ∈ r.texts, w.key = selector ∧ ∃ step,
      ((goOff p t.alarm).run { r with clock }).2.steps.getLast? = some step ∧ Fills step w ∧
        ((goOff p t.alarm).run { r with clock }).2.lastUserActionAt = stampOf w.payload.since
  /-- No other timer changes the time that is kept. -/
  woken : ∀ p target t clock, r.clock.popDue? target = some (t, clock) → (∀ selector, t.alarm ≠ .input selector) →
    ((goOff p t.alarm).run { r with clock }).2.lastUserActionAt = r.lastUserActionAt
  /-- Nothing else does that the recorder notes by itself. -/
  silent : ∀ s : Signal, s.isSilent = true → (r.obey s).lastUserActionAt = r.lastUserActionAt

/-- **The time of the last action of the user**, of every recorder whose steps are not edited by hand. -/
theorem last_action_time (h : Unedited r) : Timed r where
  current := h.current
  heard := hear_heard h.linked
  text s _ hw := h.linked.texts_obey s hw
  flushed p := recordAllWaiting_cases p h.linked
  rung p target t clock selector hp ha := by
    obtain ⟨ht, -, -, rfl⟩ := Clock.popDue?_eq_some hp
    obtain ⟨a, w, steps, notices, hactive, hw, hkey, -, -, hsteps, hrun⟩ := wakeText_run p h.linked ht ha
    obtain ⟨step, hlast, hfills⟩ := hsteps.getLast?
    refine ⟨w, by rwa [texts_eq hactive], hkey, step, ?_⟩
    rw [ha]
    show ((wakeText p selector).run { r with clock := r.clock.ring t }).2.steps.getLast? = _ ∧ _ ∧
      ((wakeText p selector).run { r with clock := r.clock.ring t }).2.lastUserActionAt = _
    rw [hrun]
    exact ⟨by simpa [Recorder.steps, Active.withSteps] using hlast, hfills, rfl⟩
  woken p target t clock _ ha := by
    have hleaves : Leaves (goOff p t.alarm) := by
      cases halarm : t.alarm with
      | input selector => exact absurd halarm (ha selector)
      | mutations => exact wakeMutations_stays p
      | idle => exact wakeIdle_stays
    exact hleaves.leads (s := { r with clock }) trivial trivial
  silent s hs := (Signal.stays_silent hs : Leaves s.act).leads trivial trivial

/-! ### Two options, one after the other -/

/-- A page with a select of two options, the first of which is selected. -/
def choicePage : Page where
  url := "https://shop.test/"
  forest := {
    trees := [.element Dom.documentTag [
      .element ⟨1, "select", [("id", .text "size")]⟩ [
        .element ⟨2, "option", [("value", .text "s"), ("selected", .text "")]⟩ [],
        .element ⟨3, "option", [("value", .text "l")]⟩ []]]]
    nextId := 4 }

/-- The page with its other option selected. -/
def otherChoicePage : Page := { choicePage with forest := choicePage.forest.setValue 1 "l" }

/-- An option is chosen, and a second later the other one. -/
def choosing : List Signal := [
  .start choicePage, .advance choicePage 200, .hear choicePage { type := "input", target := .element 1 },
  .advance choicePage 1000, .hear otherChoicePage { type := "input", target := .element 1 }]

theorem choosing_timed : Timed (({} : Recorder).obeyAll choosing) := by
  have h₀ : Unedited {} := .fresh ⟨rfl, rfl, rfl, rfl⟩
  have hs : ∀ s ∈ choosing, s.edits = false := by
    simp [choosing, Signal.edits]
  exact last_action_time (h₀.obeyAll hs)

/-- The step takes the other option at 1200, and still the time that is kept is 200. -/
theorem rechosen_late : (({} : Recorder).obeyAll (choosing.take 4)).steps.map (fun step => (step.kind, step.value)) =
      [(.navigate, none), (.select, some "s")] ∧
    (({} : Recorder).obeyAll choosing).steps.map (fun step => (step.kind, step.value)) =
      [(.navigate, none), (.select, some "l")] ∧
    (({} : Recorder).obeyAll choosing).now = 1200 ∧ (({} : Recorder).obeyAll choosing).lastUserActionAt = 200 := by
  decide +kernel

end PageTape.Recorder
