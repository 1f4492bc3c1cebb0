import PageTape.Proofs.Recorder.Calls

/-!
# Callbacks are told of every change of the steps

`Reports act r` says that the calls that a program makes tell at once of all that it makes of the steps, and that it
changes nothing else of the session.  So it is with all that a recorder does while a session lasts, but for removing a
step, for pausing the session and for letting it go on.
-/

namespace PageTape.Recorder

variable {α β : Type} {p : Page} {r s : Recorder}

/-! ### Programs that tell of all changes -/

/-- **A program tells at once of all that it makes of the steps.** -/
def Reports (act : Act α) (r : Recorder) : Prop :=
  ∃ calls result s, Makes act r calls result s ∧ Recounts r.current calls s.current

namespace Reports

/-- Callbacks have no part in what is done, nor has the session. -/
lemma aside {act : Act α} {x : Except Fault α}
    (h : ∀ ears notices, act.run (r.attended ears notices) = (x, s.attended ears notices))
    (hs : s.current = r.current) : Reports act r :=
  ⟨[], x, s, .aside h, hs ▸ .nil _⟩

protected lemma pure (a : α) : Reports (pure a) r := aside (fun _ _ => rfl) rfl

protected lemma throw (fault : Fault) : Reports (throw fault : Act α) r := aside (fun _ _ => rfl) rfl

protected lemma bind {act : Act α} {f : α → Act β} (h : Reports act r) (hf : ∀ a s, Reports (f a) s) :
    Reports (act >>= f) r := by
  obtain ⟨calls, result, s, hmakes, hrecounts⟩ := h
  cases result with
  | error fault => exact ⟨calls, _, s, hmakes.failed, hrecounts⟩
  | ok a =>
    obtain ⟨calls', result, t, hmakes', hrecounts'⟩ := hf a s
    exact ⟨_, result, t, hmakes.bind hmakes', hrecounts.append hrecounts'⟩

protected lemma get {f : Recorder → Act α} (hf : ∀ ears notices, f (r.attended ears notices) = f r)
    (h : Reports (f r) r) : Reports (get >>= f) r := by
  obtain ⟨calls, result, s, hmakes, hrecounts⟩ := h
  exact ⟨calls, result, s, hmakes.get hf, hrecounts⟩

protected lemma modify {f : Recorder → Recorder}
    (hf : ∀ ears notices, f (r.attended ears notices) = (f r).attended ears notices)
    (hs : (f r).current = r.current) : Reports (modify f) r :=
  aside (fun ears notices => by rw [Course.run_modify, hf]) hs

protected lemma modifyGet {f : Recorder → α × Recorder}
    (hf : ∀ ears notices, f (r.attended ears notices) = ((f r).1, (f r).2.attended ears notices))
    (hs : (f r).2.current = r.current) : Reports (modifyGet f) r :=
  aside (x := .ok (f r).1) (fun ears notices => by rw [Course.run_modifyGet, hf]) hs

protected lemma discard {act : Act α} (h : Reports act r) : Reports (discard act) r := by
  obtain ⟨calls, result, s, hmakes, hrecounts⟩ := h
  exact ⟨calls, _, s, hmakes.discard, hrecounts⟩

/-- A part of the session that is no step stays as it is, whether a callback fails or not. -/
lemma still {act : Act α} {γ : Type} {f : Session → γ} (hf : ∀ session steps, f { session with steps } = f session)
    (h : Reports act r) : (act.run r).2.current.map f = r.current.map f := by
  obtain ⟨calls, result, s, hmakes, hrecounts⟩ := h
  have hrun := hmakes.run r.ears r.notices
  obtain ⟨hend, hcalls⟩ := hrecounts.still hf
  rw [attended_ears] at hrun
  cases hfind : calls.find? (Call.fails r.ears) with
  | none =>
    rw [hrun, hfind]
    exact hend
  | some c =>
    rw [hrun, hfind]
    exact hcalls c (List.mem_of_find?_eq_some hfind)

protected lemma ite {c : Prop} [Decidable c] {x y : Act α} (hx : Reports x r) (hy : Reports y r) :
    Reports (if c then x else y) r := by
  split
  · exact hx
  · exact hy

protected lemma forM {τ : Type} {f : τ → Act Unit} (h : ∀ a s, Reports (f a) s) (l : List τ) :
    Reports (l.forM f) r := by
  induction l generalizing r with
  | nil => exact .pure _
  | cons a rest ih =>
    show Reports (f a >>= fun _ => rest.forM f) r
    exact .bind (h a r) fun _ _ => ih

/-- Only what is known of the network changes. -/
lemma changeTraffic (f : Recorder → Traffic → Traffic)
    (hf : ∀ ears notices, f (r.attended ears notices) = f r) :
    Reports (modify fun s => s.changeTraffic (f s)) r :=
  .modify (fun ears notices => by simp only [hf]; rfl)
    (by cases h : r.active <;> simp [current, Recorder.changeTraffic, changeActive, h])

end Reports

/-! ### Steps -/

lemma current_changeSteps (h : r.isRecording = true) (f : List Step → List Step) : ∃ session,
    r.current = some session ∧ r.steps = session.steps ∧
      (r.changeSteps f).current = some { session with steps := f session.steps } := by
  obtain ⟨a, ha, -⟩ := isRecording_iff.1 h
  exact ⟨a.session, by simp [current, ha], by simp [steps, ha], by simp [current, changeSteps, changeActive, ha]⟩

/-- What is set from what was just looked at is changed. -/
lemma get_congr {f g : Recorder → Act α} (h : ∀ r, (f r).run r = (g r).run r) : get >>= f = (get >>= g : Act α) := by
  have hrun : ∀ r, ExceptT.run (get >>= f) r = ExceptT.run (get >>= g) r := fun r => by
    rw [Course.run_bind, Course.run_bind, Course.run_get]
    exact h r
  exact funext hrun

lemma add_eq (step : Step) : add step = get >>= fun r : Recorder => if r.isRecording = true then
    modify (·.changeSteps (· ++ [step])) >>= fun _ => tell .added r.steps.length step >>= fun _ => pure true
    else pure false :=
  get_congr fun r => by split <;> rfl

/-- A step is added while recording, and that is told. -/
lemma add_makes (h : r.isRecording = true) (step : Step) : Makes (add step) r
    [⟨r.changeSteps (· ++ [step]), .added, r.steps.length, step⟩] (.ok true) (r.changeSteps (· ++ [step])) := by
  rw [add_eq]
  refine .get (fun _ _ => rfl) ?_
  rw [if_pos h]
  exact (Makes.modify fun _ _ => rfl).bind_aside ((Makes.tell _ _ _ _).bind (.pure true _))

lemma add_recounts (h : r.isRecording = true) (step : Step) : Recounts r.current
    [⟨r.changeSteps (· ++ [step]), .added, r.steps.length, step⟩] (r.changeSteps (· ++ [step])).current := by
  obtain ⟨session, hsession, hsteps, hadded⟩ := current_changeSteps h (· ++ [step])
  rw [hsession, hsteps]
  exact .cons rfl hadded (.nil _)

lemma add_idle_makes (h : r.isRecording = false) (step : Step) : Makes (add step) r [] (.ok false) r :=
  .aside fun _ _ => add_idle (r := attended r _ _) h step

lemma addUserStep_makes (h : r.isRecording = true) (step : Step) : Makes (addUserStep step) r
    [⟨{ r.changeSteps (· ++ [step]) with lastUserActionAt := step.timestamp }, .added, r.steps.length, step⟩] (.ok true)
      { r.changeSteps (· ++ [step]) with lastUserActionAt := step.timestamp } := by
  refine .get (fun _ _ => rfl) ?_
  rw [if_pos h]
  exact (Makes.modify (f := fun r => { r with lastUserActionAt := step.timestamp }) fun _ _ => rfl).bind_aside
    (add_makes (r := { r with lastUserActionAt := step.timestamp }) h step)

lemma addUserStep_recounts (h : r.isRecording = true) (step : Step) : Recounts r.current
    [⟨{ r.changeSteps (· ++ [step]) with lastUserActionAt := step.timestamp }, .added, r.steps.length, step⟩]
      (r.changeSteps (· ++ [step])).current := by
  obtain ⟨session, hsession, hsteps, hadded⟩ := current_changeSteps h (· ++ [step])
  rw [hsession, hsteps]
  exact .cons rfl hadded (.nil _)

lemma change_makes {position : Nat} {step : Step} (h : r.steps[position]? = some step) (f : Step → Step) :
    Makes (change position f) r [⟨r.changeSteps (·.set position (f step)), .updated, position, f step⟩] (.ok ⟨⟩)
      (r.changeSteps (·.set position (f step))) := by
  refine .get (fun _ _ => rfl) ?_
  rw [h]
  exact (Makes.modify fun _ _ => rfl).bind_aside (.tell _ _ _ _)

lemma change_recounts {position : Nat} {step : Step} (h : r.steps[position]? = some step) (f : Step → Step) :
    Recounts r.current [⟨r.changeSteps (·.set position (f step)), .updated, position, f step⟩]
      (r.changeSteps (·.set position (f step))).current := by
  cases ha : r.active with
  | none => simp [steps, ha] at h
  | some a =>
    have hsteps : a.session.steps[position]? = some step := by simpa [steps, ha] using h
    obtain ⟨hp, -⟩ := List.getElem?_eq_some_iff.1 hsteps
    rw [show r.current = some a.session by simp [current, ha]]
    refine .cons hp ?_ (.nil _)
    simp [current, changeSteps, changeActive, ha, reflect]

namespace Reports

lemma add (step : Step) : Reports (add step) r := by
  cases h : r.isRecording with
  | true => exact ⟨_, _, _, add_makes h step, add_recounts h step⟩
  | false => exact ⟨_, _, _, add_idle_makes h step, .nil _⟩

lemma addUserStep (step : Step) : Reports (addUserStep step) r := by
  cases h : r.isRecording with
  | true => exact ⟨_, _, _, addUserStep_makes h step, addUserStep_recounts h step⟩
  | false => exact aside (fun _ _ => addUserStep_idle (r := attended r _ _) h step) rfl

lemma change (position : Nat) (f : Step → Step) : Reports (change position f) r := by
  cases h : r.steps[position]? with
  | some step => exact ⟨_, _, _, change_makes h f, change_recounts h f⟩
  | none =>
    refine .get (fun _ _ => rfl) ?_
    rw [h]
    exact .pure _

/-! ### Texts -/

lemma recordText (p : Page) (selector : String) (typed : Typed) : Reports (recordText p selector typed) r := by
  refine .get (fun _ _ => rfl) (.ite (.pure _) ?_)
  dsimp only
  split
  · exact .bind (.modify (fun _ _ => rfl) rfl) fun _ _ => change _ _
  · exact .discard (addUserStep _)

lemma recordWaiting (p : Page) (selector : String) : Reports (recordWaiting p selector) r := by
  have htake : Reports (takeText selector) r := by
    refine .modifyGet (fun ears notices => ?_) ?_
    · cases h : r.active with
      | none => simp only [attended, h]
      | some a =>
        simp only [attended, h]
        cases a.inputs.take? r.clock selector <;> simp [h]
    · cases h : r.active with
      | none => rfl
      | some a => dsimp only; cases a.inputs.take? r.clock selector <;> simp [current, h]
  refine .bind htake fun typed s => ?_
  cases typed with
  | none => exact .pure _
  | some typed => exact recordText p selector typed

lemma recordAllWaiting (p : Page) : Reports (recordAllWaiting p) r := by
  refine .get (fun _ _ => rfl) ?_
  split
  · exact .forM (fun w _ => recordWaiting p w.key) _
  · exact .pure _

lemma wakeText (p : Page) (selector : String) : Reports (wakeText p selector) r := by
  refine .bind (.modifyGet (fun ears notices => ?_) ?_) fun typed s => ?_
  · cases h : r.active <;> simp only [attended, h]
  · cases h : r.active <;> simp [current, h]
  · cases typed with
    | none => exact .pure _
    | some typed => exact recordText p selector typed

/-! ### Changes of the page -/

lemma heed (mutations : List Page.Mutation) : Reports (heed mutations) r := by
  refine .modify (fun ears notices => ?_) ?_
  · cases h : r.active with
    | none => simp only [attended, h]
    | some a =>
      simp only [attended, h, isRecording]
      split <;> simp [h]
  · cases h : r.active with
    | none => simp only [current, h]
    | some a => dsimp only; split <;> simp [current, h]

lemma leavesAlone (l : Dom.Location) : Reports (leavesAlone l) r :=
  aside (x := isOwn r.config l) (fun ears notices => leavesAlone_run l (r.attended ears notices)) rfl

lemma newFields (ls : List Dom.Location) : Reports (newFields ls) r := by
  induction ls generalizing r with
  | nil => exact .pure _
  | cons l rest ih =>
    unfold Recorder.newFields
    exact .ite (.bind (leavesAlone l) fun _ _ => .bind ih fun _ _ => .pure _) ih

lemma noteFields (p : Page) (mutations : List Page.Mutation) : Reports (noteFields p mutations) r := by
  refine .bind (newFields _) fun fields s => ?_
  cases fields with
  | nil => exact .pure _
  | cons first rest => exact .get (fun _ _ => rfl) (.discard (add _))

lemma noteLoaded (p : Page) (mutations : List Page.Mutation) : Reports (noteLoaded p mutations) r := by
  unfold Recorder.noteLoaded
  split
  · exact .pure _
  · exact .get (fun _ _ => rfl) (.discard (add _))

lemma wakeMutations (p : Page) : Reports (wakeMutations p) r := by
  refine .bind (.modifyGet (fun ears notices => ?_) ?_) fun mutations s => ?_
  · cases h : r.active <;> simp only [attended, h]
  · cases h : r.active <;> simp [current, h]
  · cases mutations with
    | none => exact .pure _
    | some mutations =>
      exact .get (fun _ _ => rfl) (.ite (.bind (noteFields p _) fun _ _ => noteLoaded p _) (.pure _))

/-! ### Requests -/

lemma cancelIdle : Reports cancelIdle r := by
  refine .modify (fun ears notices => ?_) ?_
  · simp only [attended]; split <;> rfl
  · split
    · cases h : r.active <;> simp [current, Recorder.changeTraffic, changeActive, h]
    · rfl

lemma awaitIdle : Reports awaitIdle r :=
  .bind cancelIdle fun _ s => .modify (fun _ _ => rfl)
    (by cases h : s.active <;> simp [current, Recorder.changeTraffic, changeActive, h])

lemma requestBegun : Reports requestBegun r :=
  .bind (changeTraffic (fun r t => { t with inFlight := t.inFlight + 1, lastActivity := r.clock.now }) fun _ _ => rfl)
    fun _ _ => cancelIdle

lemma noteIdle : Reports noteIdle r :=
  .get (fun _ _ => rfl) (.ite (.pure _) (.bind (add _) fun _ _ =>
    .ite (changeTraffic (fun _ t => { t with settledSinceIdle := false }) fun _ _ => rfl) (.pure _)))

lemma wakeIdle : Reports wakeIdle r :=
  .bind (changeTraffic (fun _ t => { t with idleTimer := none }) fun _ _ => rfl) fun _ _ =>
    .get (fun _ _ => rfl) (.ite noteIdle (.pure _))

lemma noteUnsettled : Reports noteUnsettled r := by
  refine .get (fun _ _ => rfl) ?_
  split
  · exact .pure _
  · exact .ite (.bind cancelIdle fun _ _ => noteIdle) (.pure _)

lemma requestEnded (url method : String) (status : Int) : Reports (requestEnded url method status) r := by
  have heq : Recorder.requestEnded url method status = (modify fun r : Recorder =>
      r.changeTraffic fun t => { t with inFlight := t.inFlight - 1 }) >>= fun _ => get >>= fun r : Recorder =>
        if (!r.isRecording) = true then pure ⟨⟩ else (modify fun s : Recorder => s.changeTraffic fun t => { t with
            lastActivity := r.clock.now, settledSinceIdle := true
            responses := t.responses ++ [⟨url, method, status, r.now⟩] }) >>= fun _ =>
          if (r.config.notesResponses && !readingMethods.contains method) = true then
            discard (Recorder.add (responseStep ⟨url, method, status, r.now⟩)) >>= fun _ => get >>= fun r : Recorder =>
              if r.active.any (·.traffic.inFlight == 0) = true then Recorder.awaitIdle else pure ⟨⟩
          else get >>= fun r : Recorder =>
            if r.active.any (·.traffic.inFlight == 0) = true then Recorder.awaitIdle else pure ⟨⟩ :=
    congrArg (fun act : Act Unit => (modify _ : Act Unit) >>= fun _ => act) (get_congr fun r => by split <;> rfl)
  have hawait : ∀ s : Recorder, Reports (get >>= fun r : Recorder =>
      if r.active.any (·.traffic.inFlight == 0) = true then Recorder.awaitIdle else pure ⟨⟩) s := fun s =>
    .get (fun _ _ => rfl) (.ite awaitIdle (.pure _))
  rw [heq]
  refine .bind (changeTraffic (fun _ t => { t with inFlight := t.inFlight - 1 }) fun _ _ => rfl) fun _ s =>
    .get (fun _ _ => rfl) (.ite (.pure _) (.bind (changeTraffic (fun _ t => { t with
      lastActivity := s.clock.now, settledSinceIdle := true
      responses := t.responses ++ [⟨url, method, status, s.now⟩] }) fun _ _ => rfl) fun _ u => ?_))
  exact .ite (.bind (.discard (add _)) fun _ v => hawait v) (hawait u)

lemma requestEndedIn (serial : Nat) (url method : String) (status : Int) :
    Reports (requestEndedIn serial url method status) r :=
  .get (fun _ _ => rfl) (.ite (requestEnded url method status) (.pure _))

lemma requestOpened (number : Nat) (url method : String) : Reports (requestOpened number url method) r :=
  changeTraffic (fun _ t => { t with opened := (number, url, method) :: t.opened.filter (·.1 != number) })
    fun _ _ => rfl

lemma requestSent? (number : Nat) : Reports (requestSent? number) r := by
  refine .get (fun _ _ => rfl) ?_
  split
  · exact .pure _
  · split
    · exact .ite (.bind requestBegun fun _ _ => .pure _) (.pure _)
    · exact .pure _

lemma requestDone (number serial : Nat) (url method : String) (status : Int) :
    Reports (requestDone number serial url method status) r :=
  .get (fun _ _ => rfl) (.ite (.bind (changeTraffic (fun _ t => { t with opened := t.opened.filter (·.1 != number) })
    fun _ _ => rfl) fun _ _ => requestEnded url method status) (.pure _))

/-! ### Time -/

lemma goOff (p : Page) (alarm : Alarm) : Reports (goOff p alarm) r := by
  cases alarm with
  | input selector => exact wakeText p selector
  | mutations => exact wakeMutations p
  | idle => exact wakeIdle

lemma setClock (f : Clock Alarm → Clock Alarm) : Reports (modify fun s => { s with clock := f s.clock }) r :=
  .modify (fun _ _ => rfl) rfl

lemma runDue (p : Page) (target : Rat) (n : Nat) : Reports (runDue p target n) r := by
  induction n generalizing r with
  | zero => exact .pure _
  | succ n ih =>
    unfold Recorder.runDue
    refine .get (fun _ _ => rfl) ?_
    split
    · exact .pure _
    · exact .bind (setClock fun _ => _) fun _ _ => .bind (goOff p _) fun _ _ => ih

lemma advanceTo (p : Page) (target : Rat) : Reports (advanceTo p target) r :=
  .get (fun _ _ => rfl) (.bind (runDue p target _) fun _ _ => setClock fun clock => { clock with now := target })

lemma advance (p : Page) (ms : Rat) : Reports (advance p ms) r := .get (fun _ _ => rfl) (advanceTo p _)

lemma runTimers (p : Page) (n : Nat) : Reports (runTimers p n) r := by
  induction n generalizing r with
  | zero => exact .pure _
  | succ n ih =>
    unfold Recorder.runTimers
    refine .get (fun _ _ => rfl) ?_
    dsimp only
    split
    · exact .pure _
    · exact .bind (advanceTo p _) fun _ _ => ih

lemma runAll (p : Page) : Reports (runAll p) r := .get (fun _ _ => rfl) (runTimers p _)

/-! ### By hand -/

lemma addByHand (p : Page) (d : Datum) : Reports (addByHand p d) r := by
  refine .get (fun _ _ => rfl) (.ite (.pure _) ?_)
  split
  · exact .throw _
  · exact .bind (recordAllWaiting p) fun _ _ => addUserStep _

lemma updateStep (index : Int) (value : Option String) (waitTimeout : Option Int) :
    Reports (updateStep index value waitTimeout) r := by
  refine .get (fun _ _ => rfl) ?_
  split
  · exact .pure _
  · exact .bind (change _ _) fun _ _ => .pure _

end Reports

end PageTape.Recorder
