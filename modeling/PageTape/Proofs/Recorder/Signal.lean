import PageTape.Proofs.Recorder.Session

/-!
# All that reaches a recorder

* `Signal` — everything that a recorder is asked for or told of, with the page as it then is; `obey` is the recorder
  after a signal, whether it failed or not;
* `Signal.runs`, `Signal.act_text` — a signal of a session either gives a text, which is kept, or is obeyed by moves;
* `stop_leads`, `Linked.begun`, `Linked.conclude` — how sessions end and begin, and with that what becomes of a recorder
  on any signal (`Linked.outcome`);
* `Reachable.linked` — a recorder that has been asked for anything is linked.
-/

namespace PageTape.Recorder

variable {C : Course Recorder} {may : Leave} {p : Page} {r r' : Recorder}

/-- What reaches a recorder.  A new session begins once the one before has been stopped. -/
inductive Signal where
  | start (p : Page)
  | pause (p : Page)
  | resume
  | stop (p : Page)
  | clear
  | hear (p : Page) (event : Page.Event)
  | heed (mutations : List Page.Mutation)
  | requestBegun
  | requestEnded (url method : String) (status : Int)
  | requestEndedIn (serial : Nat) (url method : String) (status : Int)
  | requestOpened (number : Nat) (url method : String)
  | requestSent (number : Nat)
  | requestDone (number serial : Nat) (url method : String) (status : Int)
  | addByHand (p : Page) (d : Datum)
  | removeStep (index : Int)
  | updateStep (index : Int) (value : Option String) (waitTimeout : Option Int)
  | callbacks (onAdded onUpdated : Reaction)
  | noticed
  | advance (p : Page) (ms : Rat)
  | runAll (p : Page)

namespace Signal

/-- Begins a session; one that is active is stopped first. -/
def restart (p : Page) : Act Unit := do
  if !(← get).isBound then throw .noEventLoop
  discard <| Recorder.stop p
  begin p

/-- What a recorder does on a signal. -/
def act : Signal → Act Unit
  | start p => restart p
  | pause p => discard <| Recorder.pause p
  | resume => discard <| Recorder.resume
  | stop p => discard <| Recorder.stop p
  | clear => Recorder.clear
  | hear p event => Recorder.hear p event
  | heed mutations => Recorder.heed mutations
  | requestBegun => Recorder.requestBegun
  | requestEnded url method status => Recorder.requestEnded url method status
  | requestEndedIn serial url method status => Recorder.requestEndedIn serial url method status
  | requestOpened number url method => Recorder.requestOpened number url method
  | requestSent number => discard <| Recorder.requestSent? number
  | requestDone number serial url method status => Recorder.requestDone number serial url method status
  | addByHand p d => discard <| Recorder.addByHand p d
  | removeStep index => discard <| Recorder.removeStep index
  | updateStep index value waitTimeout => discard <| Recorder.updateStep index value waitTimeout
  | callbacks onAdded onUpdated => modify fun r => { r with onAdded, onUpdated }
  | noticed => modify fun r => { r with notices := [] }
  | advance p ms => Recorder.advance p ms
  | runAll p => Recorder.runAll p

/-- The text that a signal gives a field. -/
def text? (s : Signal) (r : Recorder) : Option (String × Typed) :=
  match s with
  | hear p event => heardText? r p event
  | _ => none

/-- The signal neither begins nor ends a session. -/
def isInner : Signal → Bool
  | start _ | stop _ | clear => false
  | _ => true

/-- Steps are edited by hand. -/
def edits : Signal → Bool
  | addByHand _ _ | removeStep _ | updateStep _ _ _ => true
  | _ => false

/-- The clock goes back. -/
def goesBack : Signal → Bool
  | advance _ ms => ms < 0
  | _ => false

/-- The signal tells of a request. -/
def counts : Signal → Bool
  | requestBegun | requestEnded _ _ _ | requestEndedIn _ _ _ _ | requestOpened _ _ _ | requestSent _
  | requestDone _ _ _ _ _ => true
  | _ => false

/-- The signal comes from outside of the page: time passes, the session is paused or goes on, or steps are edited by
hand. -/
def isOutside : Signal → Bool
  | advance _ _ | runAll _ | pause _ | resume | addByHand _ _ | removeStep _ | updateStep _ _ _ => true
  | _ => false

/-- The signal is one of a session, but tells of no request and lets no time pass. -/
def isAside : Signal → Bool
  | pause _ | resume | hear _ _ | heed _ | addByHand _ _ | removeStep _ | updateStep _ _ _ => true
  | callbacks _ _ | noticed => true
  | _ => false

lemma isAside_of {s : Signal} (hin : s.isInner = true) (hc : s.counts = false) (ho : s.isOutside = false) :
    s.isAside = true ∧ s.edits = false := by
  cases s <;> simp_all [isInner, counts, isOutside, isAside, edits]

/-- The signal is one of a session, and does nothing that the session may not. -/
structure Within (s : Signal) (may : Leave) : Prop where
  isInner : s.isInner = true
  edits : s.edits = true → may.edits = true
  back : s.goesBack = true → may.back = true
  counts : s.counts = true → may.counts = true

end Signal

/-- The recorder after a signal. -/
def obey (r : Recorder) (s : Signal) : Recorder := (s.act.run r).2

/-- The recorder after signals. -/
def obeyAll (r : Recorder) (signals : List Signal) : Recorder := signals.foldl obey r

lemma obeyAll_append (r : Recorder) (signals signals' : List Signal) :
    r.obeyAll (signals ++ signals') = (r.obeyAll signals).obeyAll signals' := List.foldl_append

/-! ### Signals of a session -/

/-- **A signal that tells of no request and lets no time pass is obeyed by deeds**, unless it gives a text. -/
theorem Signal.runs_aside [hC : Admits C may] {s : Signal} (h : s.isAside = true)
    (he : s.edits = true → may.edits = true) : C.Runs (fun r => s.text? r = none) s.act fun _ _ => True := by
  have loosen : ∀ {act : Act Unit}, Stays C act → C.Runs (fun r => s.text? r = none) act fun _ _ => True :=
    fun h => h.strengthen fun _ _ _ => trivial
  cases s with
  | pause p => exact loosen (.discard ((pause_runs p).weaken fun _ _ _ => trivial))
  | resume => exact loosen (.discard resume_runs)
  | hear p event => exact hear_runs p event
  | heed mutations => exact loosen (heed_runs mutations)
  | addByHand p d => exact loosen (.discard (addByHand_runs (he rfl) _ _))
  | removeStep index => exact loosen (.discard (removeStep_runs (he rfl) _))
  | updateStep index value waitTimeout => exact loosen (.discard (updateStep_runs (he rfl) _ _ _))
  | callbacks onAdded onUpdated =>
    exact .modify fun r hr _ => ⟨hC.deed hr ⟨.attended r onAdded onUpdated, rfl, .inr rfl, le_rfl⟩, trivial⟩
  | noticed => exact .modify fun r hr _ => ⟨hC.deed hr ⟨.told r [], rfl, .inr rfl, le_rfl⟩, trivial⟩
  | _ => cases h

/-- **A signal that gives no text is obeyed by moves.** -/
theorem Signal.runs {s : Signal} (h : s.Within may) :
    (course may).Runs (fun r => s.text? r = none) s.act fun _ _ => True := by
  have loosen : ∀ {act : Act Unit}, Moves may act → (course may).Runs (fun r => s.text? r = none) act fun _ _ => True :=
    fun h => h.strengthen fun _ _ _ => trivial
  cases s with
  | start p => cases h.isInner
  | stop p => cases h.isInner
  | clear => cases h.isInner
  | requestBegun => exact loosen (requestBegun_runs (h.counts rfl))
  | requestEnded url method status => exact loosen (requestEnded_runs (h.counts rfl) _ _ _)
  | requestEndedIn serial url method status => exact loosen (requestEndedIn_runs (h.counts rfl) _ _ _ _)
  | requestOpened number url method => exact loosen (requestOpened_runs (h.counts rfl) _ _ _)
  | requestSent number => exact loosen (.discard (requestSent?_runs (h.counts rfl) _))
  | requestDone number serial url method status => exact loosen (requestDone_runs (h.counts rfl) _ _ _ _ _)
  | advance p ms =>
    refine loosen (advance_runs p ?_)
    by_cases hms : ms < 0
    · exact .inl (h.back (by simpa [Signal.goesBack] using hms))
    · exact .inr (not_lt.1 hms)
  | runAll p => exact loosen (runAll_runs p)
  | _ => exact Signal.runs_aside rfl h.edits

/-- A signal that gives a text is obeyed by keeping it. -/
lemma Signal.act_text {s : Signal} {selector : String} {typed : Typed} (h : s.text? r = some (selector, typed)) :
    s.act.run r = (.ok ⟨⟩, keepText r selector typed) := by
  cases s with
  | hear p event => exact hear_text h
  | _ => cases h

lemma Signal.text?_eq_some {s : Signal} {selector : String} {typed : Typed}
    (h : s.text? r = some (selector, typed)) :
    ∃ a, r.active = some a ∧ a.session.status = .recording ∧ typed.since = r.clock.now := by
  cases s with
  | hear p event =>
    obtain ⟨hrec, -, l, -, -, -, rfl⟩ := heardText?_eq_some.1 h
    obtain ⟨a, ha, hr⟩ := isRecording_iff.1 hrec
    exact ⟨a, ha, hr, rfl⟩
  | _ => cases h

lemma keepText_eq {a : Active} (h : r.active = some a) (selector : String) (typed : Typed) :
    keepText r selector typed = { r with
      clock := (a.inputs.schedule r.clock r.clock.now (.input selector) selector typed).2
      active := some { a with
        inputs := (a.inputs.schedule r.clock r.clock.now (.input selector) selector typed).1 } } := by
  simp [keepText, h]

lemma Linked.keepText {a : Active} {selector : String} {typed : Typed} (hl : r.Linked) (h : r.active = some a)
    (hr : a.session.status = .recording) (ht : typed.since = r.clock.now) : (keepText r selector typed).Linked := by
  have hla := hl.active a h
  rw [keepText_eq h]
  exact .of_active rfl (hla.inputs.schedule hl.sound input_injective typed).2
    (hla.keepText hl.sound hr selector typed ht)

/-- **A signal of a session**: a text is kept, or there are moves. -/
theorem Linked.obey {s : Signal} (hl : r.Linked) (h : s.Within may) :
    (∃ selector typed, s.text? r = some (selector, typed) ∧ r.obey s = Recorder.keepText r selector typed) ∨
      (s.text? r = none ∧ Path may r (r.obey s)) := by
  cases ht : s.text? r with
  | none => exact .inr ⟨rfl, (Signal.runs h).leads hl ht⟩
  | some text => exact .inl ⟨text.1, text.2, rfl, congrArg Prod.snd (Signal.act_text ht)⟩

/-- Leave to do anything. -/
def anything : Leave := { back := true, edits := true, counts := true }

lemma Signal.within_anything {s : Signal} (h : s.isInner = true) : s.Within anything :=
  ⟨h, fun _ => rfl, fun _ => rfl, fun _ => rfl⟩

/-- **No signal of a session begins or ends one.** -/
theorem Linked.sameSession {s : Signal} (hl : r.Linked) (h : s.isInner = true) : SameSession r (r.obey s) := by
  obtain ⟨selector, typed, ht, hs⟩ | ⟨-, hp⟩ := hl.obey (Signal.within_anything h)
  · obtain ⟨a, ha, -⟩ := Signal.text?_eq_some ht
    rw [hs, keepText_eq ha]
    exact ⟨by rw [ha]; rfl, rfl, rfl, rfl, rfl⟩
  · exact hp.sameSession

/-! ### Ends and beginnings -/

lemma Linked.of_free (hn : r.active = none) (ht : r.clock.timers = []) : r.Linked where
  sound := ⟨by simp [ht], by simp [ht], by simp [ht]⟩
  free _ := ht
  active a ha := by rw [hn] at ha; cases ha

@[simp] lemma drop_active (r : Recorder) : r.drop.active = none := by
  unfold drop
  cases h : r.active with
  | none => exact h
  | some a => rfl

@[simp] lemma conclude_active (r : Recorder) : r.conclude.active = none := by
  unfold conclude
  cases h : r.active with
  | none => exact h
  | some a => exact drop_active r

lemma conclude_clock (r : Recorder) : r.conclude.clock = r.drop.clock := by
  unfold conclude
  cases h : r.active with
  | none => simp [drop, h]
  | some a => rfl

lemma drop_now (r : Recorder) : r.drop.clock.now = r.clock.now := by
  unfold drop
  cases r.active with
  | none => rfl
  | some a =>
    have hnow : (a.mutations.cancelAll (a.inputs.cancelAll r.clock).2).2.now = r.clock.now := by
      rw [Debouncer.cancelAll_now, Debouncer.cancelAll_now]
    cases hi : a.traffic.idleTimer <;> simp only [hi] <;> exact hnow

lemma drop_nextSerial (r : Recorder) : r.drop.nextSerial = r.nextSerial := by
  unfold drop
  cases r.active <;> rfl

lemma drop_isBound (r : Recorder) : r.drop.isBound = r.isBound := by
  unfold drop
  cases r.active <;> rfl

lemma conclude_isBound (r : Recorder) : r.conclude.isBound = r.isBound := by
  unfold conclude
  cases r.active with
  | none => rfl
  | some a => exact drop_isBound r

lemma conclude_nextSerial (r : Recorder) : r.conclude.nextSerial = r.nextSerial := by
  unfold conclude
  cases r.active with
  | none => rfl
  | some a => exact drop_nextSerial r

/-- **No timer outlives the session that it was set for.** -/
theorem Linked.drop_timers (hl : r.Linked) : r.drop.clock.timers = [] := by
  unfold drop
  cases h : r.active with
  | none => exact hl.free h
  | some a =>
    have hla := hl.active a h
    refine List.eq_nil_iff_forall_not_mem.2 fun t ht => ?_
    have hkept : t ∈ r.clock.timers ∧ (∀ w ∈ a.inputs.waiting, t.seq ≠ w.timer) ∧
        (∀ w ∈ a.mutations.waiting, t.seq ≠ w.timer) ∧ ∀ n, a.traffic.idleTimer = some n → t.seq ≠ n := by
      cases hi : a.traffic.idleTimer with
      | none =>
        simp only [hi] at ht
        obtain ⟨ht, hm⟩ := Debouncer.mem_cancelAll.1 ht
        obtain ⟨ht, hin⟩ := Debouncer.mem_cancelAll.1 ht
        exact ⟨ht, hin, hm, nofun⟩
      | some n =>
        simp only [hi] at ht
        obtain ⟨ht, hn⟩ := Clock.mem_cancel.1 ht
        obtain ⟨ht, hm⟩ := Debouncer.mem_cancelAll.1 ht
        obtain ⟨ht, hin⟩ := Debouncer.mem_cancelAll.1 ht
        exact ⟨ht, hin, hm, fun m e => Option.some.inj e ▸ hn⟩
    obtain ⟨ht, hin, hm, hi⟩ := hkept
    cases ha : t.alarm with
    | input s =>
      obtain ⟨w, hw, -, hs⟩ := hla.inputs.isOwn t ht s ha
      exact hin w hw hs.symm
    | mutations =>
      obtain ⟨w, hw, -, hs⟩ := hla.mutations.isOwn t ht () ha
      exact hm w hw hs.symm
    | idle => exact hi t.seq (hla.isIdle t ht ha) rfl

lemma Linked.conclude (hl : r.Linked) : r.conclude.Linked :=
  .of_free (conclude_active r) (by rw [conclude_clock]; exact hl.drop_timers)

/-- The recorder with a session that begins on a page. -/
def begun (r : Recorder) (p : Page) : Recorder :=
  { r with
    stopped := none, stoppedResponses := [], lastUserActionAt := r.now, nextSerial := r.nextSerial + 1
    active := some {
      serial := r.nextSerial, session := freshSession p r.now
      inputs := { delay := r.config.inputDelay }, mutations := { delay := r.config.mutationDelay } } }

lemma begin_run (p : Page) (r : Recorder) : (begin p).run r = (.ok ⟨⟩, r.begun p) := rfl

lemma Linked.begun (hl : r.Linked) (hn : r.active = none) (p : Page) : (r.begun p).Linked := by
  have hnone : ∀ t, t ∉ (r.begun p).clock.timers := fun t ht => by
    rw [show (r.begun p).clock.timers = [] from hl.free hn] at ht
    cases ht
  refine .of_active rfl hl.sound ?_
  exact {
    inputs := ⟨by simp, fun t h => absurd h (hnone t), by simp⟩
    mutations := ⟨by simp, fun t h => absurd h (hnone t), by simp⟩
    idle := nofun
    isIdle := fun t h => absurd h (hnone t)
    since := by simp
    status := .inl rfl
    quiet := nofun }

lemma stop_of_none (hn : r.active = none) (p : Page) : (stop p).run r = (.ok none, r) := by
  unfold stop
  rw [Course.run_bind, Course.run_get]
  simp [hn]

/-- A session begins as it is asked for where there is none. -/
lemma begin_eq_obey (hn : r.active = none) (hb : r.isBound = true) (p : Page) :
    ((begin p).run r).2 = r.obey (.start p) := by
  have hrun : (Signal.restart p).run r = (begin p).run r := by
    unfold Signal.restart
    rw [Course.run_bind, Course.run_get]
    simp [hb, Course.run_bind, Course.run_discard, stop_of_none hn, Except.map]
  exact congrArg Prod.snd hrun.symm

/-- A session is stopped once what waits is recorded; where this fails it is not. -/
lemma stop_run {a : Active} (h : r.active = some a) (p : Page) : (stop p).run r =
    match (recordAllWaiting p >>= fun _ => noteUnsettled : Act Unit).run r with
    | (.ok _, s) => (.ok s.conclude.stopped, s.conclude)
    | (.error fault, s) => (.error fault, s) := by
  have hrun : (stop p).run r = ((recordAllWaiting p >>= fun _ => noteUnsettled) >>= fun _ =>
      modify Recorder.conclude >>= fun _ => get >>= fun s : Recorder => pure s.stopped : Act _).run r := by
    unfold stop
    rw [Course.run_bind, Course.run_get, bind_assoc]
    simp [h]
  rw [hrun, Course.run_bind]
  rcases (recordAllWaiting p >>= fun _ => noteUnsettled : Act Unit).run r with ⟨_ | _, _⟩ <;> rfl

/-- **A session is stopped** once no text waits; where a callback fails it is not. -/
theorem stop_leads (may : Leave) (p : Page) (hl : r.Linked) : ∃ s, Path may r s ∧
    ((∃ fault, (stop p).run r = (.error fault, s)) ∨
      ∃ session, (stop p).run r = (.ok session, s.conclude) ∧ Calm s) := by
  have hends : (course may).Runs (fun _ => True) (recordAllWaiting p >>= fun _ => noteUnsettled) fun _ => Calm :=
    .bind (recordAllWaiting_runs p) fun _ => noteUnsettled_runs
  obtain ⟨h₁, h₂⟩ := hends r hl trivial
  cases h : r.active with
  | none =>
    refine ⟨r, .refl, .inr ⟨none, ?_, fun a ha => by rw [h] at ha; cases ha⟩⟩
    rw [stop_of_none h]
    simp [h, Recorder.conclude]
  | some a =>
    rw [stop_run h]
    rcases hr : (recordAllWaiting p >>= fun _ => noteUnsettled : Act Unit).run r with ⟨e | u, s⟩ <;> rw [hr] at h₁ h₂
    · exact ⟨s, h₁, .inl ⟨e, rfl⟩⟩
    · exact ⟨s, h₁, .inr ⟨_, rfl, h₂ u rfl⟩⟩

/-- **A session begins** once the one before is stopped, with all that this has done; or it does not, where the
stopping fails. -/
theorem restart_leads (may : Leave) (p : Page) (hl : r.Linked) : ∃ s, Path may r s ∧
    ((∃ fault, (Signal.restart p).run r = (.error fault, s)) ∨
      (Signal.restart p).run r = (.ok ⟨⟩, s.conclude.begun p) ∧ Calm s) := by
  unfold Signal.restart
  rw [Course.run_bind, Course.run_get]
  cases hb : r.isBound with
  | false => exact ⟨r, .refl, .inl ⟨.noEventLoop, by simp [hb]⟩⟩
  | true =>
    obtain ⟨s, hp, ⟨fault, hs⟩ | ⟨session, hs, hc⟩⟩ := stop_leads may p hl
    · refine ⟨s, hp, .inl ⟨fault, ?_⟩⟩
      simp [hb, Course.run_bind, Course.run_discard, hs, Except.map]
    · refine ⟨s, hp, .inr ⟨?_, hc⟩⟩
      simp [hb, Course.run_bind, Course.run_discard, hs, Except.map, begin_run]

/-! ### Any signal -/

/-- **What becomes of a recorder on a signal**: a text is kept, there are moves, its session ends, one begins, or it is
forgotten. -/
inductive Outcome (may : Leave) (r : Recorder) (s : Signal) : Recorder → Prop
  | kept {selector : String} {typed : Typed} (h : s.text? r = some (selector, typed)) :
    Outcome may r s (Recorder.keepText r selector typed)
  | moved {r' : Recorder} (h : s.text? r = none) (hp : Path may r r') : Outcome may r s r'
  | ended {t : Recorder} (h : s.text? r = none) (hp : Path may r t) (hc : Calm t) : Outcome may r s t.conclude
  | begun {t : Recorder} (p : Page) (h : s.text? r = none) (hp : Path may r t) (hc : Calm t) :
    Outcome may r s (t.conclude.begun p)
  | forgotten (h : s.text? r = none) :
    Outcome may r s { r.drop with stopped := none, stoppedResponses := [], lastUserActionAt := 0 }

/-- Every signal has such an outcome, within what the session may do. -/
theorem Linked.outcome {s : Signal} (hl : r.Linked) (hw : s.isInner = true → s.Within may) :
    Outcome may r s (r.obey s) := by
  by_cases hin : s.isInner = true
  · obtain ⟨selector, typed, ht, hs⟩ | ⟨ht, hp⟩ := hl.obey (hw hin)
    · exact hs ▸ .kept ht
    · exact .moved ht hp
  · cases s with
    | start p =>
      obtain ⟨s, hp, ⟨fault, hs⟩ | ⟨hs, hc⟩⟩ := restart_leads may p hl
      · rw [show r.obey (.start p) = s from congrArg Prod.snd hs]
        exact .moved rfl hp
      · rw [show r.obey (.start p) = s.conclude.begun p from congrArg Prod.snd hs]
        exact .begun p rfl hp hc
    | stop p =>
      rw [show r.obey (.stop p) = ((stop p).run r).2 from congrArg Prod.snd (Course.run_discard r (stop p))]
      obtain ⟨s, hp, ⟨fault, hs⟩ | ⟨session, hs, hc⟩⟩ := stop_leads may p hl <;> rw [hs]
      · exact .moved rfl hp
      · exact .ended rfl hp hc
    | clear => exact .forgotten rfl
    | _ => exact absurd rfl hin

/-! ### Recorders that have been asked for anything -/

/-- A recorder that has not been asked for anything yet. -/
structure Fresh (r : Recorder) : Prop where
  active : r.active = none
  stopped : r.stopped = none
  responses : r.stoppedResponses = []
  timers : r.clock.timers = []

/-- A recorder that was fresh once, after any signals. -/
inductive Reachable : Recorder → Prop
  | fresh {r : Recorder} (h : r.Fresh) : Reachable r
  | obey {r : Recorder} (h : Reachable r) (s : Signal) : Reachable (r.obey s)

/-- Every signal keeps a recorder linked. -/
theorem Linked.obey_any (hl : r.Linked) (s : Signal) : (r.obey s).Linked := by
  have houtcome := hl.outcome (s := s) Signal.within_anything
  generalize r.obey s = r' at houtcome ⊢
  cases houtcome with
  | kept ht =>
    obtain ⟨a, ha, hr, hsince⟩ := Signal.text?_eq_some ht
    exact hl.keepText ha hr hsince
  | moved _ hp => exact hp.linked hl
  | ended _ hp _ => exact (hp.linked hl).conclude
  | begun p _ hp _ => exact (hp.linked hl).conclude.begun (conclude_active _) p
  | forgotten _ => exact .of_free (drop_active r) hl.drop_timers

lemma Path.config (hp : Path may r r') : r'.config = r.config := by
  induction hp with
  | refl => rfl
  | tail _ hm ih => exact Eq.trans (by cases hm <;> rfl) ih

lemma conclude_config (r : Recorder) : r.conclude.config = r.config := by
  unfold conclude drop
  cases r.active <;> rfl

/-- No signal changes the configuration. -/
theorem Linked.config_obey (hl : r.Linked) (s : Signal) : (r.obey s).config = r.config := by
  have houtcome := hl.outcome (s := s) Signal.within_anything
  generalize r.obey s = r' at houtcome ⊢
  cases houtcome with
  | kept ht =>
    obtain ⟨a, ha, -⟩ := Signal.text?_eq_some ht
    rw [keepText_eq ha]
  | moved _ hp => exact hp.config
  | ended _ hp _ => exact (conclude_config _).trans hp.config
  | begun p _ hp _ => exact (conclude_config _).trans hp.config
  | forgotten _ =>
    show r.drop.config = r.config
    unfold drop
    cases r.active <;> rfl

lemma Linked.config_obeyAll (hl : r.Linked) (signals : List Signal) : (r.obeyAll signals).config = r.config := by
  induction signals generalizing r with
  | nil => rfl
  | cons s rest ih => exact (ih (hl.obey_any s)).trans (hl.config_obey s)

/-- **All recorders are linked.** -/
theorem Reachable.linked (h : Reachable r) : r.Linked := by
  induction h with
  | fresh h => exact .of_free h.active h.timers
  | obey _ s ih => exact ih.obey_any s

lemma Reachable.obeyAll (h : Reachable r) (signals : List Signal) : Reachable (r.obeyAll signals) := by
  induction signals generalizing r with
  | nil => exact h
  | cons s rest ih => exact ih (h.obey s)

end PageTape.Recorder
