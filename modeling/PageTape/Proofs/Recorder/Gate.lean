import PageTape.Proofs.Recorder.Serial

/-!
# Nothing is recorded while a recorder is not recording

Every way into a recording asks first whether the recorder is recording.  Here it is shown of all of them, one after
another, that what is recorded stays as it is while it is not (`Still`): of the events of a page, of its changes, of
requests that begin and end, of steps that are added by hand, and of all timers (`Signal.shut`).  Only steps that are
removed or changed by hand get past the gate.
-/

namespace PageTape.Recorder

variable {p : Page} {r r' : Recorder} {α β : Type}

/-- **What is recorded stays as it is**: the session, its responses and the time of the last action of the user, and
nobody is told of a step. -/
structure Still (r r' : Recorder) : Prop where
  session : r'.session? = r.session?
  responses : r'.responses = r.responses
  lastUserActionAt : r'.lastUserActionAt = r.lastUserActionAt
  notices : r'.notices = r.notices
  isRecording : r'.isRecording = r.isRecording

namespace Still

lemma refl (r : Recorder) : Still r r := ⟨rfl, rfl, rfl, rfl, rfl⟩

lemma trans {r'' : Recorder} (h : Still r r') (h' : Still r' r'') : Still r r'' :=
  ⟨h'.session.trans h.session, h'.responses.trans h.responses, h'.lastUserActionAt.trans h.lastUserActionAt,
    h'.notices.trans h.notices, h'.isRecording.trans h.isRecording⟩

/-- Something else of the active session changes, and the timers. -/
lemma of_map (r : Recorder) (clock : Clock Alarm) {g : Active → Active} (hs : ∀ a, (g a).session = a.session)
    (ht : ∀ a, (g a).traffic.responses = a.traffic.responses) :
    Still r { r with clock, active := r.active.map g } := by
  cases h : r.active with
  | none => constructor <;> simp [session?, Recorder.responses, Recorder.isRecording, h]
  | some a => constructor <;> simp [session?, Recorder.responses, Recorder.isRecording, h, hs, ht]

lemma changeTraffic (r : Recorder) {f : Traffic → Traffic} (hf : ∀ t, (f t).responses = t.responses) :
    Still r (r.changeTraffic f) :=
  of_map r r.clock (fun _ => rfl) fun _ => hf _

end Still

/-- The course of a recorder that is not recording. -/
def gate : Course Recorder where
  holds r := r.isRecording = false
  leads := Still
  refl := .refl
  trans := .trans
  keeps h hs := h.isRecording.trans hs

/-- A program records nothing while the recorder is not recording. -/
abbrev Shut (act : Act α) : Prop := gate.Runs (fun _ => True) act fun _ _ => True

namespace Shut

/-- A program that does nothing at all then. -/
lemma of_still {act : Act α} (h : ∀ r : Recorder, r.isRecording = false → Still r (act.run r).2) : Shut act :=
  fun r hr _ => ⟨h r hr, fun _ _ => trivial⟩

protected lemma pure (a : α) : Shut (pure a) := Course.Runs.pure fun _ _ _ => trivial

protected lemma modify {f : Recorder → Recorder} (h : ∀ r, Still r (f r)) : Shut (modify f) :=
  Course.Runs.modify fun r _ _ => ⟨h r, trivial⟩

protected lemma bind {x : Act α} {f : α → Act β} (hx : Shut x) (hf : ∀ a, Shut (f a)) : Shut (x >>= f) :=
  Course.Runs.bind hx hf

protected lemma discard {x : Act α} (hx : Shut x) : Shut (discard x) := Course.Runs.discard hx

protected lemma get {f : Recorder → Act β} (hf : ∀ r, Shut (f r)) : Shut (get >>= f) :=
  Course.Runs.bind_get fun r => (hf r).strengthen fun _ _ _ => trivial

protected lemma ite {c : Prop} [Decidable c] {x y : Act α} (hx : Shut x) (hy : Shut y) : Shut (if c then x else y) :=
  Course.Runs.ite (fun _ => hx) fun _ => hy

protected lemma forM {τ : Type} (l : List τ) {g : τ → Act Unit} (h : ∀ a, Shut (g a)) : Shut (l.forM g) :=
  Course.Runs.forM (I := fun _ _ => True) (fun a _ => h a) l

/-- A program that asks first whether the recorder is recording. -/
lemma guard {x : Recorder → Act α} {y : Recorder → Act α} (hy : ∀ r, Shut (y r)) :
    Shut (get >>= fun r : Recorder => if r.isRecording = true then x r else y r) := by
  intro r hr _
  rw [Course.run_bind, Course.run_get]
  dsimp only
  rw [if_neg (by rw [show r.isRecording = false from hr]; exact Bool.false_ne_true)]
  exact hy r r hr trivial

/-- A program that gives up first where the recorder is not recording. -/
lemma guard_not {x : Recorder → Act α} {y : Recorder → Act α} (hx : ∀ r, Shut (x r)) :
    Shut (get >>= fun r : Recorder => if (!r.isRecording) = true then x r else y r) := by
  intro r hr _
  rw [Course.run_bind, Course.run_get]
  dsimp only
  rw [if_pos (by rw [show r.isRecording = false from hr]; rfl)]
  exact hx r r hr trivial

end Shut

/-! ### Steps and texts -/

lemma recordText_shut (p : Page) (selector : String) (typed : Typed) : Shut (recordText p selector typed) :=
  .guard_not fun _ => .pure _

lemma takeText_shut (selector : String) : Shut (takeText selector) := .of_still fun r _ => by
  unfold takeText
  rw [Course.run_modifyGet]
  cases h : r.active with
  | none => exact .refl r
  | some a =>
    dsimp only
    cases a.inputs.take? r.clock selector with
    | none => exact .refl r
    | some taken =>
      have hstill := Still.of_map r taken.2.2 (g := fun a => { a with inputs := taken.2.1 }) (fun _ => rfl) fun _ => rfl
      rwa [h] at hstill

lemma recordWaiting_shut (p : Page) (selector : String) : Shut (recordWaiting p selector) := by
  refine .bind (takeText_shut selector) fun typed => ?_
  cases typed with
  | none => exact .pure _
  | some typed => exact recordText_shut p selector typed

lemma recordAllWaiting_shut (p : Page) : Shut (recordAllWaiting p) := by
  refine .get fun r => ?_
  cases r.active with
  | none => exact .pure _
  | some a => exact .forM _ fun w => recordWaiting_shut p w.key

/-! ### Events and changes of the page -/

/-- An event is of no concern. -/
lemma hear_idle (h : r.isRecording = false) (p : Page) (event : Page.Event) :
    (hear p event).run r = (.ok ⟨⟩, r) := by
  have hnone : (accepted? p event).run r = (.ok none, r) := by
    rw [accepted?_run]
    simp [h]
  unfold hear
  split
  · unfold onInput
    rw [Course.run_bind, hnone]
    rfl
  · unfold onChange
    rw [Course.run_bind, hnone]
    rfl
  · unfold onClick
    rw [Course.run_bind, hnone]
    rfl
  · unfold onSubmit
    rw [Course.run_bind, hnone]
    rfl
  · unfold onKeyDown
    rw [Course.run_bind, Course.run_get]
    simp [h]
  · unfold onLeave recordPage
    rw [Course.run_bind, Course.run_get]
    simp [h]
  · unfold onHashChange recordPage
    rw [Course.run_bind, Course.run_get]
    simp [h]
  · unfold onPopState recordPage
    rw [Course.run_bind, Course.run_get]
    simp [h]
  · rfl

lemma hear_shut (p : Page) (event : Page.Event) : Shut (hear p event) := .of_still fun r hr => by
  rw [hear_idle hr]
  exact .refl r

lemma heed_shut (mutations : List Page.Mutation) : Shut (heed mutations) := .of_still fun r hr => by
  unfold heed
  rw [Course.run_modify]
  dsimp only
  cases h : r.active with
  | none => exact .refl r
  | some a =>
    simp only [hr, Bool.false_eq_true, if_false]
    exact .refl r

/-! ### Requests -/

lemma cancelIdle_shut : Shut cancelIdle := .modify fun r => by
  split
  · rename_i timer _
    exact .of_map r (r.clock.cancel timer) (fun _ => rfl) fun _ => rfl
  · exact .refl r

lemma requestBegun_shut : Shut requestBegun :=
  .bind (.modify fun r => .changeTraffic r fun _ => rfl) fun _ => cancelIdle_shut

lemma requestEnded_shut (url method : String) (status : Int) : Shut (requestEnded url method status) :=
  .bind (.modify fun r => .changeTraffic r fun _ => rfl) fun _ => .guard_not fun _ => .pure _

lemma requestEndedIn_shut (serial : Nat) (url method : String) (status : Int) :
    Shut (requestEndedIn serial url method status) :=
  .get fun _ => .ite (requestEnded_shut url method status) (.pure _)

lemma requestOpened_shut (number : Nat) (url method : String) : Shut (requestOpened number url method) :=
  .modify fun r => .changeTraffic r fun _ => rfl

lemma requestSent?_shut (number : Nat) : Shut (requestSent? number) := .of_still fun r hr => by
  unfold requestSent?
  rw [Course.run_bind, Course.run_get]
  dsimp only
  cases r.active with
  | none => exact .refl r
  | some a =>
    dsimp only
    cases a.traffic.opened.lookup number with
    | none => exact .refl r
    | some entry =>
      simp only [hr, Bool.false_eq_true, if_false]
      exact .refl r

lemma requestDone_shut (number serial : Nat) (url method : String) (status : Int) :
    Shut (requestDone number serial url method status) :=
  .get fun _ => .ite (.bind (.modify fun r => .changeTraffic r fun _ => rfl) fun _ =>
    requestEnded_shut url method status) (.pure _)

lemma noteIdle_shut : Shut noteIdle := by
  refine .get fun r => .ite (.pure _) (.of_still fun s hs => ?_)
  rw [Course.run_bind, add_idle hs]
  exact .refl s

lemma noteUnsettled_shut : Shut noteUnsettled := by
  refine .get fun r => ?_
  cases r.active with
  | none => exact .pure _
  | some a => exact .ite (.bind cancelIdle_shut fun _ => noteIdle_shut) (.pure _)

/-! ### By hand -/

lemma pause_shut (p : Page) : Shut (pause p) := .guard fun _ => .pure _

lemma addByHand_shut (p : Page) (d : Datum) : Shut (addByHand p d) := .guard_not fun _ => .pure _

/-! ### Timers -/

lemma wakeText_shut (p : Page) (selector : String) : Shut (wakeText p selector) := by
  refine .bind (.of_still fun r _ => ?_) fun typed => ?_
  · rw [Course.run_modifyGet]
    cases h : r.active with
    | none => exact .refl r
    | some a =>
      have hstill := Still.of_map r (a.inputs.wake r.clock r.clock.now (.input selector) selector).2.2
        (g := fun b => { b with inputs := (a.inputs.wake r.clock r.clock.now (.input selector) selector).2.1 })
        (fun _ => rfl) fun _ => rfl
      rwa [h] at hstill
  · cases typed with
    | none => exact .pure _
    | some typed => exact recordText_shut p selector typed

lemma wakeMutations_shut (p : Page) : Shut (wakeMutations p) := by
  refine .bind (.of_still fun r _ => ?_) fun mutations => ?_
  · rw [Course.run_modifyGet]
    cases h : r.active with
    | none => exact .refl r
    | some a =>
      have hstill := Still.of_map r (a.mutations.wake r.clock r.clock.now .mutations ()).2.2
        (g := fun b => { b with mutations := (a.mutations.wake r.clock r.clock.now .mutations ()).2.1 })
        (fun _ => rfl) fun _ => rfl
      rwa [h] at hstill
  · cases mutations with
    | none => exact .pure _
    | some mutations => exact .guard fun _ => .pure _

lemma wakeIdle_shut : Shut wakeIdle :=
  .bind (.modify fun r => .changeTraffic r fun _ => rfl) fun _ => .guard fun _ => .pure _

lemma goOff_shut (p : Page) (alarm : Alarm) : Shut (goOff p alarm) := by
  cases alarm with
  | input selector => exact wakeText_shut p selector
  | mutations => exact wakeMutations_shut p
  | idle => exact wakeIdle_shut

lemma setClock_shut (f : Clock Alarm → Clock Alarm) : Shut (modify fun r => { r with clock := f r.clock }) :=
  .modify fun _ => ⟨rfl, rfl, rfl, rfl, rfl⟩

lemma runDue_shut (p : Page) (target : Rat) (n : Nat) : Shut (runDue p target n) := by
  induction n with
  | zero => exact .pure _
  | succ n ih =>
    refine Shut.get fun r => ?_
    split
    · exact .pure _
    · rename_i timer clock _
      exact .bind (setClock_shut fun _ => clock) fun _ => .bind (goOff_shut p timer.alarm) fun _ => ih

lemma advanceTo_shut (p : Page) (target : Rat) : Shut (advanceTo p target) :=
  .get fun _ => .bind (runDue_shut p target _) fun _ => setClock_shut fun c => { c with now := target }

lemma runTimers_shut (p : Page) (n : Nat) : Shut (runTimers p n) := by
  induction n with
  | zero => exact .pure _
  | succ n ih =>
    refine Shut.get fun r => ?_
    dsimp only
    split
    · exact .pure _
    · exact .bind (advanceTo_shut p _) fun _ => ih

/-! ### All signals -/

/-- The signal has nothing recorded while the recorder is not recording. -/
def Signal.isGated : Signal → Bool
  | start _ | stop _ | clear | resume | removeStep _ | updateStep _ _ _ | noticed => false
  | _ => true

/-- **Nothing is recorded while the recorder is not recording**, unless steps are removed or changed by hand. -/
theorem Signal.shut (s : Signal) (h : s.isGated = true) : Shut s.act := by
  cases s with
  | pause p => exact .discard (pause_shut p)
  | hear p event => exact hear_shut p event
  | heed mutations => exact heed_shut mutations
  | requestBegun => exact requestBegun_shut
  | requestEnded url method status => exact requestEnded_shut url method status
  | requestEndedIn serial url method status => exact requestEndedIn_shut serial url method status
  | requestOpened number url method => exact requestOpened_shut number url method
  | requestSent number => exact .discard (requestSent?_shut number)
  | requestDone number serial url method status => exact requestDone_shut number serial url method status
  | addByHand p d => exact .discard (addByHand_shut p d)
  | callbacks onAdded onUpdated => exact .modify fun _ => ⟨rfl, rfl, rfl, rfl, rfl⟩
  | advance p ms => exact .get fun _ => advanceTo_shut p _
  | runAll p => exact .get fun _ => runTimers_shut p _
  | start p | stop p | clear | resume | removeStep index | updateStep index value waitTimeout | noticed => cases h

lemma Signal.still {s : Signal} (h : s.isGated = true) (hr : r.isRecording = false) : Still r (r.obey s) :=
  (s.shut h).leads hr trivial

/-! ### A session that is not being recorded ends, or another one begins -/

/-- **What was recorded so far is kept or forgotten**: of every session so far, what the recorder still knows has the
steps and the responses that it had, and nobody is told of a step. -/
structure Intact (r r' : Recorder) : Prop where
  records : ∀ n < r.nextSerial, ∀ record', r'.recordOf? n = some record' →
    ∃ record, r.recordOf? n = some record ∧ record'.1.steps = record.1.steps ∧ record'.2 = record.2
  nextSerial : r.nextSerial ≤ r'.nextSerial
  notices : r'.notices = r.notices

namespace Intact

lemma refl (r : Recorder) : Intact r r := ⟨fun _ _ record h => ⟨record, h, rfl, rfl⟩, le_rfl, rfl⟩

lemma trans {r'' : Recorder} (h : Intact r r') (h' : Intact r' r'') : Intact r r'' := by
  refine ⟨fun n hn record'' hrecord'' => ?_, h.nextSerial.trans h'.nextSerial, h'.notices.trans h.notices⟩
  obtain ⟨record', hrecord', hsteps', hresponses'⟩ := h'.records n (hn.trans_le h.nextSerial) record'' hrecord''
  obtain ⟨record, hrecord, hsteps, hresponses⟩ := h.records n hn record' hrecord'
  exact ⟨record, hrecord, hsteps'.trans hsteps, hresponses'.trans hresponses⟩

lemma of_still (h : Still r r') (hs : SameSession r r') : Intact r r' where
  records n _ record hrecord := ⟨record, hs.recordOf?_eq h.session h.responses n ▸ hrecord, rfl, rfl⟩
  nextSerial := hs.nextSerial.ge
  notices := h.notices

/-- Nothing is known of the sessions so far. -/
lemma of_none (hn : ∀ n < r.nextSerial, r'.recordOf? n = none) (hnext : r.nextSerial ≤ r'.nextSerial)
    (hnotices : r'.notices = r.notices) : Intact r r' :=
  ⟨fun n hlt _ h => absurd h (by rw [hn n hlt]; exact nofun), hnext, hnotices⟩

lemma drop_notices (r : Recorder) : r.drop.notices = r.notices := by
  unfold drop
  cases r.active <;> rfl

lemma conclude (hl : r.Latest) : Intact r r.conclude := by
  cases h : r.active with
  | none =>
    rw [show r.conclude = r by simp [Recorder.conclude, h]]
    exact .refl r
  | some a =>
    refine ⟨fun n _ record' hrecord' => ?_, (conclude_nextSerial r).ge, ?_⟩
    · rw [recordOf?_conclude hl h] at hrecord'
      obtain ⟨record, hrecord, rfl⟩ := Option.map_eq_some_iff.1 hrecord'
      exact ⟨record, hrecord, rfl, rfl⟩
    · simp only [Recorder.conclude, h]
      exact drop_notices r

lemma begun (r : Recorder) (p : Page) : Intact r (r.begun p) :=
  of_none (fun _ hlt => recordOf?_of_ne rfl hlt.ne') (Nat.le_succ _) rfl

lemma clear (r : Recorder) : Intact r (r.obey .clear) := by
  have hnone : (r.obey .clear).active = none := drop_active r
  refine of_none (fun _ _ => ?_) (drop_nextSerial r).ge (drop_notices r)
  rw [recordOf?, hnone]
  exact ite_self none

/-- The session goes on. -/
lemma resume (r : Recorder) : Intact r (r.obey .resume) := by
  have hrun : r.obey .resume = if r.status == .paused then r.setStatus .recording else r := by
    rw [obey, show Signal.act .resume = discard Recorder.resume from rfl, Course.run_discard]
    unfold Recorder.resume
    rw [Course.run_bind, Course.run_get]
    dsimp only
    split <;> rfl
  rw [hrun]
  split
  · refine ⟨fun n _ record' hrecord' => ?_, le_rfl, rfl⟩
    unfold setStatus changeActive recordOf? at hrecord'
    cases h : r.active with
    | none =>
      simp only [h, Option.map_none] at hrecord'
      exact ⟨record', by simpa [recordOf?, h] using hrecord', rfl, rfl⟩
    | some a =>
      simp only [h, Option.map_some] at hrecord'
      by_cases hserial : a.serial = n
      · obtain rfl : _ = record' := by simpa [hserial] using hrecord'
        exact ⟨(a.session, a.traffic.responses), by simp [recordOf?, h, hserial], rfl, rfl⟩
      · simp [hserial] at hrecord'
  · exact .refl r

/-- A session that is not being recorded is stopped. -/
lemma stop (hl : r.Linked) (hlast : r.Latest) (hr : r.isRecording = false) (p : Page) :
    Intact r ((Recorder.stop p).run r).2 := by
  cases h : r.active with
  | none =>
    rw [stop_of_none h]
    exact .refl r
  | some a =>
    have hshut : Shut (recordAllWaiting p >>= fun _ => noteUnsettled) :=
      .bind (recordAllWaiting_shut p) fun _ => noteUnsettled_shut
    have hmoves : Moves {} (recordAllWaiting p >>= fun _ => noteUnsettled) :=
      .bind (recordAllWaiting_runs p) fun _ => noteUnsettled_runs.weaken fun _ _ _ => trivial
    have hstill := hshut.leads hr trivial
    have hsame := Path.sameSession (hmoves.leads hl trivial)
    rw [stop_run h]
    revert hstill hsame
    rcases (recordAllWaiting p >>= fun _ => noteUnsettled : Act Unit).run r with ⟨_ | _, s⟩ <;>
      intro hstill hsame
    · exact of_still hstill hsame
    · exact (of_still hstill hsame).trans (conclude (hlast.of_sameSession hsame))

end Intact

end PageTape.Recorder
