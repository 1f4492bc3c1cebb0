import PageTape.Proofs.Course
import PageTape.Proofs.Recorder.Signal

/-!
# When a recorder does not fail

A recorder is reliable if its clock can run, its callbacks do not fail, and the selectors of its configuration can be
read.  It stays so, whatever happens to it, and nothing of what the page, the network or the passing of time make it do
fails (`hear_faultless`, `stop_faultless`, `advance_faultless` and their kin).
-/

namespace PageTape.Recorder

open Dom (Location)

variable {r r' : Recorder} {α : Type}

/-- **What a recorder needs in order not to fail.** -/
structure Reliable (r : Recorder) : Prop where
  bound : r.isBound = true
  added : r.onAdded ≠ .fail
  updated : r.onUpdated ≠ .fail
  readable : ∀ selector ∈ r.config.ownSelectors, (readSelectors selector).isOk = true

/-- What of a recorder nothing changes that happens to it. -/
def setup (r : Recorder) : Bool × Reaction × Reaction × Config := (r.isBound, r.onAdded, r.onUpdated, r.config)

lemma Reliable.of_setup (h : r.Reliable) (hs : r'.setup = r.setup) : r'.Reliable := by
  have hbound : r'.isBound = r.isBound := congrArg (·.1) hs
  have hadded : r'.onAdded = r.onAdded := congrArg (·.2.1) hs
  have hupdated : r'.onUpdated = r.onUpdated := congrArg (·.2.2.1) hs
  have hconfig : r'.config = r.config := congrArg (·.2.2.2) hs
  exact ⟨hbound ▸ h.bound, hadded ▸ h.added, hupdated ▸ h.updated, hconfig ▸ h.readable⟩

/-- A reliable recorder stays reliable, and does not fail. -/
abbrev Faultless (act : Act α) : Prop := FailsOnly Reliable (fun _ => False) act

lemma modify_faultless {f : Recorder → Recorder} (h : ∀ r, (f r).setup = r.setup) : Faultless (modify f) :=
  .modify fun r hr => hr.of_setup (h r)

/-! ### Steps and texts -/

lemma tell_faultless (callback : Callback) (position : Nat) (step : Step) : Faultless (tell callback position step) := by
  unfold tell
  refine .bind_get fun r hr => ?_
  split
  · exact .pure _
  · exact modify_faultless fun _ => rfl
  · rename_i hfail
    cases callback with
    | added => exact absurd hfail hr.added
    | updated => exact absurd hfail hr.updated

lemma add_faultless (step : Step) : Faultless (add step) := by
  unfold add
  refine .bind_get fun r hr => .ite ?_ (.pure _)
  exact .bind (.set (hr.of_setup rfl)) fun _ => .bind (tell_faultless _ _ _) fun _ => .pure _

lemma addUserStep_faultless (step : Step) : Faultless (addUserStep step) := by
  unfold addUserStep
  exact .bind_get fun r _ => .ite (.bind (modify_faultless fun _ => rfl) fun _ => add_faultless _) (add_faultless _)

lemma record_faultless (l : Option Location) (step : Step) : Faultless (record l step) :=
  .discard (addUserStep_faultless _)

lemma stepNow_faultless (kind : StepKind) : Faultless (stepNow kind) := .bind_get fun _ _ => .pure _

lemma change_faultless (position : Nat) (f : Step → Step) : Faultless (change position f) := by
  unfold change
  refine .bind_get fun r _ => ?_
  split
  · exact .pure _
  · exact .bind (modify_faultless fun _ => rfl) fun _ => tell_faultless _ _ _

lemma recordText_faultless (p : Page) (selector : String) (typed : Typed) :
    Faultless (recordText p selector typed) := by
  unfold recordText
  refine .bind_get fun r _ => .ite (.pure _) ?_
  split
  · exact .bind (modify_faultless fun _ => rfl) fun _ => change_faultless _ _
  · exact .discard (addUserStep_faultless _)

lemma recordWaiting_faultless (p : Page) (selector : String) : Faultless (recordWaiting p selector) := by
  unfold recordWaiting
  refine .bind (.modifyGet fun r hr => ?_) fun typed => ?_
  · split
    · exact hr
    · split
      · exact hr
      · exact hr.of_setup rfl
  · split
    · exact recordText_faultless _ _ _
    · exact .pure _

lemma recordAllWaiting_faultless (p : Page) : Faultless (recordAllWaiting p) := by
  unfold recordAllWaiting
  refine .bind_get fun r _ => ?_
  split
  · exact .forM _ fun w _ => recordWaiting_faultless p w.key
  · exact .pure _

/-! ### Elements -/

/-- Whether an element belongs to a tool can be told, if the selectors can be read. -/
lemma Reliable.exists_isOwn (h : r.Reliable) (l : Location) : ∃ own, isOwn r.config l = .ok own := by
  unfold isOwn
  have hreadable := h.readable
  generalize r.config.ownSelectors = selectors at hreadable ⊢
  induction selectors with
  | nil => exact ⟨false, rfl⟩
  | cons selector rest ih =>
    obtain ⟨hfirst, hrest⟩ := List.forall_mem_cons.1 hreadable
    obtain ⟨own, hown⟩ := ih hrest
    have hclosest : ∃ found, (·.isSome) <$> l.closest? selector = .ok found := by
      unfold Location.closest?
      cases hread : readSelectors selector with
      | error fault => rw [hread] at hfirst; cases hfirst
      | ok ss => exact ⟨_, rfl⟩
    obtain ⟨found, hfound⟩ := hclosest
    rw [List.anyM_cons, hfound]
    cases found with
    | true => exact ⟨true, rfl⟩
    | false => exact ⟨own, hown⟩

lemma leavesAlone_faultless (l : Location) : Faultless (leavesAlone l) := by
  unfold leavesAlone
  refine .bind_get fun r hr => ?_
  obtain ⟨own, hown⟩ := hr.exists_isOwn l
  rw [hown]
  exact .pure _

lemma accepted?_faultless (p : Page) (event : Page.Event) : Faultless (accepted? p event) := by
  unfold accepted?
  refine .bind_get fun r _ => .ite (.pure _) ?_
  split
  · exact .pure _
  · exact .bind (leavesAlone_faultless _) fun _ => .pure _

/-! ### Gestures -/

lemma recordChoice_faultless (p : Page) (l : Location) : Faultless (recordChoice p l) := by
  unfold recordChoice
  refine .bind (recordAllWaiting_faultless p) fun _ => .bind_get fun r _ => ?_
  split
  · exact .ite (change_faultless _ _) (.pure _)
  · exact .bind (stepNow_faultless _) fun _ => record_faultless _ _

lemma onInput_faultless (p : Page) (event : Page.Event) : Faultless (onInput p event) := by
  unfold onInput
  refine .bind (accepted?_faultless p event) fun accepted => ?_
  split
  · exact .pure _
  · split
    · exact recordChoice_faultless p _
    · exact .bind (recordAllWaiting_faultless p) fun _ => .bind (stepNow_faultless _) fun _ => record_faultless _ _
    · exact .bind (recordAllWaiting_faultless p) fun _ => .bind (stepNow_faultless _) fun _ => record_faultless _ _
    · refine modify_faultless fun r => ?_
      split <;> rfl
    · exact .pure _

lemma onChange_faultless (p : Page) (event : Page.Event) : Faultless (onChange p event) := by
  unfold onChange
  refine .bind (accepted?_faultless p event) fun accepted => ?_
  split
  · exact .pure _
  · exact .ite (recordChoice_faultless p _) (.pure _)

lemma recordFields_faultless (known : List String) (fields : List Location) :
    Faultless (recordFields known fields) := by
  induction fields generalizing known with
  | nil => exact .pure _
  | cons l rest ih =>
    unfold recordFields
    refine .bind (leavesAlone_faultless l) fun own => .ite (ih _) (.bind_get fun r _ => ?_)
    split
    · exact .bind (addUserStep_faultless _) fun _ => ih _
    · exact ih _

lemma recordForm_faultless (form : Location) : Faultless (recordForm form) :=
  .bind_get fun _ _ => recordFields_faultless _ _

lemma onClick_faultless (p : Page) (event : Page.Event) : Faultless (onClick p event) := by
  unfold onClick
  refine .bind (accepted?_faultless p event) fun accepted => ?_
  split
  · exact .pure _
  · have hrecord : ∀ (l : Location) (kind : StepKind) (f : Step → Step),
        Faultless (stepNow kind >>= fun step => record (some l) (f step)) := fun _ _ _ =>
      .bind (stepNow_faultless _) fun _ => record_faultless _ _
    refine .ite (.pure _) (.bind (recordAllWaiting_faultless p) fun _ => .ite ?_ (hrecord _ _ _))
    split
    · exact .bind (recordForm_faultless _) fun _ => hrecord _ _ _
    · exact hrecord _ _ _

lemma onSubmit_faultless (p : Page) (event : Page.Event) : Faultless (onSubmit p event) := by
  unfold onSubmit
  refine .bind (accepted?_faultless p event) fun accepted => ?_
  split
  · exact .pure _
  · refine .bind (recordAllWaiting_faultless p) fun _ => .bind_get fun r _ => .ite (.pure _) ?_
    exact .bind (recordForm_faultless _) fun _ => .bind (stepNow_faultless _) fun _ => record_faultless _ _

lemma onKeyDown_faultless (p : Page) (event : Page.Event) : Faultless (onKeyDown p event) := by
  have hrecord : ∀ l : Option Location, Faultless (recordAllWaiting p >>= fun _ => stepNow .pressKey >>= fun step =>
      record l { step with key := event.key }) := fun _ =>
    .bind (recordAllWaiting_faultless p) fun _ => .bind (stepNow_faultless _) fun _ => record_faultless _ _
  unfold onKeyDown
  refine .bind_get fun r _ => .ite (.pure _) ?_
  dsimp only
  split
  · exact .bind (leavesAlone_faultless _) fun own => .ite (.pure _) (hrecord _)
  · exact hrecord _

lemma recordPage_faultless (p : Page) (kind : StepKind) (f : Step → Step) : Faultless (recordPage p kind f) := by
  unfold recordPage
  refine .bind_get fun r _ => .ite (.pure _) (.bind (recordAllWaiting_faultless p) fun _ => ?_)
  exact .bind (stepNow_faultless _) fun _ => record_faultless _ _

/-- **No event makes a reliable recorder fail.** -/
theorem hear_faultless (p : Page) (event : Page.Event) : Faultless (hear p event) := by
  unfold hear
  split
  · exact onInput_faultless p event
  · exact onChange_faultless p event
  · exact onClick_faultless p event
  · exact onSubmit_faultless p event
  · exact onKeyDown_faultless p event
  · exact recordPage_faultless p _ _
  · exact recordPage_faultless p _ _
  · exact recordPage_faultless p _ _
  · exact .pure _

/-! ### The page and the network -/

lemma heed_faultless (mutations : List Page.Mutation) : Faultless (heed mutations) := modify_faultless fun r => by
  split
  · rfl
  · split <;> rfl

lemma newFields_faultless (fields : List Location) : Faultless (newFields fields) := by
  induction fields with
  | nil => exact .pure _
  | cons l rest ih =>
    unfold newFields
    exact .ite (.bind (leavesAlone_faultless l) fun _ => .bind ih fun _ => .pure _) ih

lemma noteFields_faultless (p : Page) (mutations : List Page.Mutation) : Faultless (noteFields p mutations) := by
  unfold noteFields
  refine .bind (newFields_faultless _) fun fields => ?_
  split
  · exact .pure _
  · exact .bind_get fun r _ => .discard (add_faultless _)

lemma noteLoaded_faultless (p : Page) (mutations : List Page.Mutation) : Faultless (noteLoaded p mutations) := by
  unfold noteLoaded
  split
  · exact .pure _
  · exact .bind_get fun r _ => .discard (add_faultless _)

lemma changeTraffic_faultless (f : Recorder → Traffic → Traffic) :
    Faultless (modify fun r => r.changeTraffic (f r)) := modify_faultless fun _ => rfl

lemma cancelIdle_faultless : Faultless cancelIdle := modify_faultless fun r => by split <;> rfl

lemma awaitIdle_faultless : Faultless awaitIdle :=
  .bind cancelIdle_faultless fun _ => modify_faultless fun _ => rfl

lemma requestBegun_faultless : Faultless requestBegun :=
  .bind (changeTraffic_faultless _) fun _ => cancelIdle_faultless

lemma requestEnded_faultless (url method : String) (status : Int) : Faultless (requestEnded url method status) := by
  unfold requestEnded
  refine .bind (changeTraffic_faultless _) fun _ => .bind_get fun r hr => .ite (.pure _) ?_
  refine .bind (.set (hr.of_setup rfl)) fun _ => ?_
  have hidle : Faultless (get >>= fun r : Recorder =>
      if r.active.any (·.traffic.inFlight == 0) = true then awaitIdle else pure ()) :=
    .bind_get fun _ _ => .ite awaitIdle_faultless (.pure _)
  exact .ite (.bind (.discard (add_faultless _)) fun _ => hidle) hidle

lemma requestEndedIn_faultless (serial : Nat) (url method : String) (status : Int) :
    Faultless (requestEndedIn serial url method status) :=
  .bind_get fun _ _ => .ite (requestEnded_faultless _ _ _) (.pure _)

lemma requestSent?_faultless (number : Nat) : Faultless (requestSent? number) := by
  unfold requestSent?
  refine .bind_get fun r _ => ?_
  split
  · exact .pure _
  · split
    · exact .ite (.bind requestBegun_faultless fun _ => .pure _) (.pure _)
    · exact .pure _

lemma requestDone_faultless (number serial : Nat) (url method : String) (status : Int) :
    Faultless (requestDone number serial url method status) :=
  .bind_get fun _ _ => .ite
    (.bind (changeTraffic_faultless fun _ t => { t with opened := t.opened.filter (·.1 != number) }) fun _ =>
      requestEnded_faultless _ _ _) (.pure _)

lemma noteIdle_faultless : Faultless noteIdle := by
  unfold noteIdle
  refine .bind_get fun r _ => .ite (.pure _) (.bind (add_faultless _) fun added => ?_)
  exact .ite (changeTraffic_faultless _) (.pure _)

/-! ### Sessions and time -/

lemma begin_faultless (p : Page) : Faultless (begin p) := modify_faultless fun _ => rfl

lemma pause_faultless (p : Page) : Faultless (pause p) := by
  unfold pause
  refine .bind_get fun r _ => .ite (.bind (recordAllWaiting_faultless p) fun _ => ?_) (.pure _)
  exact .bind (modify_faultless fun _ => rfl) fun _ => .bind_get fun _ _ => .pure _

lemma resume_faultless : Faultless resume :=
  .bind_get fun _ _ => .ite (.bind (modify_faultless fun _ => rfl) fun _ => .bind_get fun _ _ => .pure _) (.pure _)

lemma conclude_setup (r : Recorder) : r.conclude.setup = r.setup := by
  unfold conclude drop
  cases r.active <;> rfl

lemma noteUnsettled_faultless : Faultless noteUnsettled := by
  unfold noteUnsettled
  refine .bind_get fun r _ => ?_
  split
  · exact .pure _
  · exact .ite (.bind cancelIdle_faultless fun _ => noteIdle_faultless) (.pure _)

/-- **A reliable recorder can be stopped.** -/
theorem stop_faultless (p : Page) : Faultless (stop p) := by
  unfold stop
  refine .bind_get fun r _ => .ite (.bind (recordAllWaiting_faultless p) fun _ => ?_) (.pure _)
  exact .bind noteUnsettled_faultless fun _ => .bind (modify_faultless conclude_setup) fun _ =>
    .bind_get fun _ _ => .pure _

lemma goOff_faultless (p : Page) (alarm : Alarm) : Faultless (goOff p alarm) := by
  cases alarm with
  | input selector =>
    refine .bind (.modifyGet fun r hr => ?_) fun typed => ?_
    · split
      · exact hr
      · exact hr.of_setup rfl
    · split
      · exact recordText_faultless _ _ _
      · exact .pure _
  | mutations =>
    refine .bind (.modifyGet fun r hr => ?_) fun mutations => ?_
    · split
      · exact hr
      · exact hr.of_setup rfl
    · split
      · exact .bind_get fun _ _ => .ite
          (.bind (noteFields_faultless p _) fun _ => noteLoaded_faultless p _) (.pure _)
      · exact .pure _
  | idle => exact .bind (changeTraffic_faultless _) fun _ => .bind_get fun _ _ => .ite noteIdle_faultless (.pure _)

lemma runDue_faultless (p : Page) (target : Rat) (n : ℕ) : Faultless (runDue p target n) := by
  induction n with
  | zero => exact .pure _
  | succ n ih =>
    unfold runDue
    refine .bind_get fun r _ => ?_
    split
    · exact .pure _
    · exact .bind (modify_faultless fun _ => rfl) fun _ => .bind (goOff_faultless p _) fun _ => ih

lemma advanceTo_faultless (p : Page) (target : Rat) : Faultless (advanceTo p target) :=
  .bind_get fun _ _ => .bind (runDue_faultless p target _) fun _ => modify_faultless fun _ => rfl

/-- **No timer makes a reliable recorder fail.** -/
theorem advance_faultless (p : Page) (ms : Rat) : Faultless (advance p ms) :=
  .bind_get fun _ _ => advanceTo_faultless p _

lemma runAll_faultless (p : Page) : Faultless (runAll p) := by
  have htimers : ∀ n, Faultless (runTimers p n) := fun n => by
    induction n with
    | zero => exact .pure _
    | succ n ih =>
      unfold runTimers
      refine .bind_get fun r _ => ?_
      dsimp only
      split
      · exact .pure _
      · exact .bind (advanceTo_faultless p _) fun _ => ih
  exact .bind_get fun _ _ => htimers _

/-! ### Clocks -/

/-- A recorder that has a session has a clock that can run. -/
theorem Reachable.isBound (h : Reachable r) (hactive : r.active.isSome = true) : r.isBound = true := by
  induction h with
  | fresh h => rw [h.active] at hactive; cases hactive
  | @obey r h s ih =>
    have hinner : s.isInner = true → (r.obey s).isBound = true := fun hin => by
      have hsame := h.linked.sameSession hin
      obtain ⟨a, ha⟩ := Option.isSome_iff_exists.1 hactive
      obtain ⟨b, hb, -⟩ := hsame.before ha
      rw [hsame.isBound]
      exact ih (by rw [hb]; rfl)
    cases s with
    | start p =>
      -- a session begins only if the clock can run
      cases hb : r.isBound with
      | false =>
        have hsame : r.obey (.start p) = r := by
          unfold Recorder.obey Signal.act Signal.restart
          rw [Course.run_bind, Course.run_get]
          simp [hb]
        rw [hsame] at hactive
        exact absurd (ih hactive) (by simp [hb])
      | true =>
        obtain ⟨t, hp, ⟨fault, hrun⟩ | ⟨hrun, -⟩⟩ := restart_leads {} p h.linked
        · rw [show r.obey (.start p) = t from congrArg Prod.snd hrun]
          exact hp.sameSession.isBound.trans hb
        · rw [show r.obey (.start p) = t.conclude.begun p from congrArg Prod.snd hrun]
          exact (conclude_isBound t).trans (hp.sameSession.isBound.trans hb)
    | stop p =>
      have hrun : r.obey (.stop p) = ((stop p).run r).2 := congrArg Prod.snd (Course.run_discard r (stop p))
      rw [hrun] at hactive ⊢
      obtain ⟨t, hp, ⟨fault, hrun⟩ | ⟨session, hrun, -⟩⟩ := stop_leads {} p h.linked <;> rw [hrun] at hactive ⊢
      · obtain ⟨a, ha⟩ := Option.isSome_iff_exists.1 hactive
        obtain ⟨b, hb, -⟩ := hp.sameSession.before ha
        exact hp.sameSession.isBound.trans (ih (by rw [hb]; rfl))
      · rw [conclude_active] at hactive
        cases hactive
    | clear =>
      have hnone : (r.obey .clear).active = none := drop_active r
      rw [hnone] at hactive
      cases hactive
    | _ => exact hinner rfl

end PageTape.Recorder
