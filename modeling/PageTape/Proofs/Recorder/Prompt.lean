import PageTape.Proofs.Recorder.Reports

/-!
# What callbacks are told of an event

While an event of the page is recorded, only the first call may tell of a step that has changed; all calls after it tell
of steps that are added.  And the last call is the last thing that is done (`hear_amends`).
-/

namespace PageTape.Recorder

variable {α β : Type} {p : Page} {r s t : Recorder} {calls calls' : List Call}

lemma steps_eq_current (r : Recorder) : r.steps = (r.current.map (·.steps)).getD [] := by
  cases h : r.active <;> simp [steps, current, h]

lemma steps_changeSteps (h : r.isRecording = true) (f : List Step → List Step) :
    (r.changeSteps f).steps = f r.steps := by
  obtain ⟨session, -, hsteps, hchanged⟩ := current_changeSteps h f
  rw [steps_eq_current, hchanged, hsteps]
  rfl

lemma isRecording_eq_current (r : Recorder) :
    r.isRecording = ((r.current.map (·.status)).map (· == .recording)).getD false := by
  cases h : r.active <;> simp [isRecording, current, h]

/-- Whoever is told of steps, recording goes on, or does not begin. -/
lemma Recounts.isRecording (h : Recounts r.current calls s.current) : s.isRecording = r.isRecording := by
  rw [isRecording_eq_current, isRecording_eq_current, (h.still (f := (·.status)) fun _ _ => rfl).1]

/-! ### Programs that end with a call -/

/-- **The last call of a program is the last thing that it does**: nothing changes after it, nor where there is none. -/
structure Prompt (act : Act α) (r : Recorder) (calls : List Call) (result : Except Fault α) (s : Recorder) : Prop where
  makes : Makes act r calls result s
  recounts : Recounts r.current calls s.current
  last : Call.last r calls = s

namespace Prompt

/-- The recorder is asked something. -/
lemma asked {act : Act α} {result : Except Fault α}
    (h : ∀ ears notices, act.run (r.attended ears notices) = (result, r.attended ears notices)) :
    Prompt act r [] result r := ⟨.aside h, .nil _, rfl⟩

protected lemma pure (a : α) (r : Recorder) : Prompt (pure a) r [] (.ok a) r := asked fun _ _ => rfl

protected lemma get {f : Recorder → Act α} {result : Except Fault α}
    (hf : ∀ ears notices, f (r.attended ears notices) = f r) (h : Prompt (f r) r calls result s) :
    Prompt (get >>= f) r calls result s := ⟨h.makes.get hf, h.recounts, h.last⟩

protected lemma bind {act : Act α} {f : α → Act β} {a : α} {result : Except Fault β} (h : Prompt act r calls (.ok a) s)
    (hf : Prompt (f a) s calls' result t) : Prompt (act >>= f) r (calls ++ calls') result t :=
  ⟨h.makes.bind hf.makes, h.recounts.append hf.recounts, by rw [Call.last_append, h.last, hf.last]⟩

lemma failed {act : Act α} {f : α → Act β} {fault : Fault} (h : Prompt act r calls (.error fault) s) :
    Prompt (act >>= f) r calls (.error fault) s := ⟨h.makes.failed, h.recounts, h.last⟩

protected lemma discard {act : Act α} {result : Except Fault α} (h : Prompt act r calls result s) :
    Prompt (discard act) r calls (result.map fun _ => ⟨⟩) s := ⟨h.makes.discard, h.recounts, h.last⟩

lemma addUserStep (h : r.isRecording = true) (step : Step) : Prompt (addUserStep step) r
    [⟨{ r.changeSteps (· ++ [step]) with lastUserActionAt := step.timestamp }, .added, r.steps.length, step⟩] (.ok true)
      { r.changeSteps (· ++ [step]) with lastUserActionAt := step.timestamp } :=
  ⟨addUserStep_makes h step, addUserStep_recounts h step, rfl⟩

lemma change {position : Nat} {step : Step} (h : r.steps[position]? = some step) (f : Step → Step) :
    Prompt (change position f) r [⟨r.changeSteps (·.set position (f step)), .updated, position, f step⟩] (.ok ⟨⟩)
      (r.changeSteps (·.set position (f step))) :=
  ⟨change_makes h f, change_recounts h f, rfl⟩

end Prompt

/-- A program that ends with its last call, and whose calls all tell of steps that are added. -/
def Appends (act : Act α) (r : Recorder) : Prop :=
  ∃ calls result s, Prompt act r calls result s ∧ ∀ c ∈ calls, c.notice.callback = .added

namespace Appends

lemma asked {act : Act α} {x : Except Fault α}
    (h : ∀ ears notices, act.run (r.attended ears notices) = (x, r.attended ears notices)) : Appends act r :=
  ⟨_, _, _, .asked h, fun _ hmem => absurd hmem List.not_mem_nil⟩

protected lemma pure (a : α) : Appends (pure a) r := asked fun _ _ => rfl

protected lemma bind {act : Act α} {f : α → Act β} (h : Appends act r)
    (hf : ∀ a s, s.isRecording = r.isRecording → Appends (f a) s) : Appends (act >>= f) r := by
  obtain ⟨calls, result, s, hprompt, hadded⟩ := h
  cases result with
  | error fault => exact ⟨calls, _, s, hprompt.failed, hadded⟩
  | ok a =>
    obtain ⟨calls', result, t, hprompt', hadded'⟩ := hf a s hprompt.recounts.isRecording
    exact ⟨_, result, t, hprompt.bind hprompt', List.forall_mem_append.2 ⟨hadded, hadded'⟩⟩

protected lemma get {f : Recorder → Act α} (hf : ∀ ears notices, f (r.attended ears notices) = f r)
    (h : Appends (f r) r) : Appends (get >>= f) r := by
  obtain ⟨calls, result, s, hprompt, hadded⟩ := h
  exact ⟨calls, result, s, hprompt.get hf, hadded⟩

protected lemma discard {act : Act α} (h : Appends act r) : Appends (discard act) r := by
  obtain ⟨calls, result, s, hprompt, hadded⟩ := h
  exact ⟨calls, _, s, hprompt.discard, hadded⟩

protected lemma ite {c : Prop} [Decidable c] {x y : Act α} (hx : Appends x r) (hy : Appends y r) :
    Appends (if c then x else y) r := by
  split
  · exact hx
  · exact hy

lemma addUserStep (step : Step) : Appends (addUserStep step) r := by
  cases h : r.isRecording with
  | true => exact ⟨_, _, _, .addUserStep h step, fun _ hmem => List.mem_singleton.1 hmem ▸ rfl⟩
  | false => exact asked fun _ _ => addUserStep_idle (r := attended r _ _) h step

lemma record (l : Option Dom.Location) (step : Step) : Appends (record l step) r := .discard (addUserStep _)

lemma recordNow (l : Option Dom.Location) (kind : StepKind) (f : Step → Step) :
    Appends (stepNow kind >>= fun step => Recorder.record l (f step)) r :=
  .bind (.get (fun _ _ => rfl) (.pure _)) fun _ _ _ => record l _

lemma leavesAlone (l : Dom.Location) : Appends (leavesAlone l) r :=
  asked (x := isOwn r.config l) fun ears notices => leavesAlone_run l (r.attended ears notices)

/-! ### Forms -/

lemma recordFields (known : List String) (ls : List Dom.Location) : Appends (recordFields known ls) r := by
  induction ls generalizing known r with
  | nil => exact .pure _
  | cons l rest ih =>
    unfold Recorder.recordFields
    refine .bind (leavesAlone l) fun own s _ => .ite (ih _) (.get (fun _ _ => rfl) ?_)
    split
    · exact .bind (addUserStep _) fun _ _ _ => ih _
    · exact ih _

lemma recordForm (form : Dom.Location) : Appends (recordForm form) r := .get (fun _ _ => rfl) (recordFields _ _)

end Appends

/-! ### Texts that wait -/

/-- The newest step has filled a field. -/
def HasFilled (selector : String) (r : Recorder) : Prop :=
  ∃ step, r.steps.getLast? = some step ∧ isAbout .fill selector step = true

/-- A text is recorded, and that is told.  Unless the newest step has filled the same field, there is one more step. -/
lemma recordText_prompt (h : r.isRecording = true) (p : Page) (selector : String) (typed : Typed) :
    ∃ c, Prompt (recordText p selector typed) r [c] (.ok ⟨⟩) c.recorder ∧ HasFilled selector c.recorder ∧
      (¬ HasFilled selector r → c.notice.callback = .added) := by
  obtain ⟨a, ha, -⟩ := isRecording_iff.1 h
  have hskip : ∀ {act : Act Unit}, (if (!r.isRecording) = true then pure ⟨⟩ else act) = act := fun {act} => by simp [h]
  cases hn : r.newest?.filter fun newest => isAbout .fill selector newest.2 with
  | some newest =>
    obtain ⟨position, last⟩ := newest
    obtain ⟨hnewest, habout⟩ := Option.filter_eq_some_iff.1 hn
    obtain ⟨init, hsteps, rfl⟩ := newest?_eq_some ha hnewest
    have hr : r.steps = init ++ [last] := (steps_of_active ha).trans hsteps
    have hlast : r.steps[init.length]? = some last := by simp [hr]
    have hrecounts := change_recounts (r := { r with lastUserActionAt := stampOf typed.since }) hlast fun step =>
      { step with value := some typed.value, timestamp := stampOf typed.since }
    refine ⟨_, ⟨.get (fun _ _ => rfl) ?_, hrecounts, rfl⟩, ⟨{ last with
      value := some typed.value, timestamp := stampOf typed.since }, ?_, habout⟩,
      fun hnot => absurd ⟨last, by simp [hr], habout⟩ hnot⟩
    · rw [hskip]
      dsimp only
      rw [hn]
      exact (Makes.modify (f := fun r => { r with lastUserActionAt := stampOf typed.since }) fun _ _ => rfl).bind_aside
        (change_makes (r := { r with lastUserActionAt := stampOf typed.since }) hlast _)
    · rw [steps_changeSteps (r := { r with lastUserActionAt := stampOf typed.since }) h,
        show Recorder.steps { r with lastUserActionAt := stampOf typed.since } = init ++ [last] from hr]
      simp
  | none =>
    refine ⟨_, ⟨.get (fun _ _ => rfl) ?_, addUserStep_recounts h (fillStep p selector typed), rfl⟩,
      ⟨fillStep p selector typed, ?_, ?_⟩, fun _ => rfl⟩
    · rw [hskip]
      dsimp only
      rw [hn]
      exact (addUserStep_makes h _).discard
    · show (r.changeSteps (· ++ [fillStep p selector typed])).steps.getLast? = _
      rw [steps_changeSteps h]
      simp
    · obtain ⟨hk, hs, -⟩ := fills_fillStep p ⟨selector, typed.since, 0, typed⟩
      simp [isAbout, hk, hs]

/-- A text that waits is taken out and recorded; where none waits nothing happens. -/
lemma recordWaiting_prompt (h : r.isRecording = true) (p : Page) (selector : String) : ∃ calls s,
    Prompt (recordWaiting p selector) r calls (.ok ⟨⟩) s ∧ (calls = [] ∨ ∃ c, calls = [c] ∧ HasFilled selector s ∧
      (¬ HasFilled selector r → c.notice.callback = .added)) := by
  obtain ⟨a, ha, -⟩ := isRecording_iff.1 h
  cases htake : a.inputs.take? r.clock selector with
  | none =>
    have hnone : Prompt (takeText selector) r [] (.ok none) r := .asked fun ears notices => by
      unfold takeText
      rw [Course.run_modifyGet]
      simp only [attended, ha, htake]
    exact ⟨[], r, hnone.bind (.pure _ _), .inl rfl⟩
  | some taken =>
    obtain ⟨typed, inputs, clock⟩ := taken
    have hrec : Recorder.isRecording { r with clock, active := some { a with inputs } } = true := by
      rw [← h]
      simp [isRecording, ha]
    have hcurrent : current { r with clock, active := some { a with inputs } } = r.current := by simp [current, ha]
    have hsteps : steps { r with clock, active := some { a with inputs } } = r.steps := by simp [steps, ha]
    obtain ⟨c, hprompt, hfilled, hadded⟩ := recordText_prompt hrec p selector typed
    refine ⟨[c], c.recorder, ⟨.bind_aside (a := some typed) (.aside fun ears notices => ?_) hprompt.makes,
      hcurrent ▸ hprompt.recounts, rfl⟩, .inr ⟨c, rfl, hfilled, fun hnot => hadded fun hfill => hnot ?_⟩⟩
    · unfold takeText
      rw [Course.run_modifyGet]
      simp only [attended, ha, htake]
    · unfold HasFilled at hfill ⊢
      rwa [hsteps] at hfill

lemma HasFilled.unique {selector selector' : String} (h : HasFilled selector r) (h' : HasFilled selector' r) :
    selector = selector' := by
  obtain ⟨step, hlast, habout⟩ := h
  obtain ⟨step', hlast', habout'⟩ := h'
  obtain rfl : step = step' := Option.some.inj (hlast.symm.trans hlast')
  simp only [isAbout, Bool.and_eq_true, beq_iff_eq] at habout habout'
  exact Option.some.inj (habout.2.symm.trans habout'.2)

/-- The texts of different fields are recorded one after another.  Only the first may be the new text of the newest
step. -/
lemma recordEach_prompt (h : r.isRecording = true) (p : Page) {ws : List (Waiting String Typed)}
    (hkeys : (ws.map (·.key)).Nodup) : ∃ calls s,
      Prompt (ws.forM fun w => recordWaiting p w.key) r calls (.ok ⟨⟩) s ∧
        (calls = [] ∨ ∃ w ∈ ws, HasFilled w.key s) ∧ (∀ c ∈ calls.tail, c.notice.callback = .added) ∧
          ((∀ w ∈ ws, ¬ HasFilled w.key r) → ∀ c ∈ calls, c.notice.callback = .added) := by
  induction ws generalizing r with
  | nil => exact ⟨[], r, .pure _ r, .inl rfl, by simp, by simp⟩
  | cons w rest ih =>
    obtain ⟨hw, hrest⟩ := List.nodup_cons.1 hkeys
    obtain ⟨calls, s, hprompt, hcalls⟩ := recordWaiting_prompt h p w.key
    obtain ⟨calls', t, hprompt', hfilled', htail', hadded'⟩ := ih (hprompt.recounts.isRecording.trans h) hrest
    -- once the text of a field is recorded, the newest step has filled none of the other fields
    have hother : ∀ s, HasFilled w.key s → ∀ v ∈ rest, ¬ HasFilled v.key s := fun s hfilled v hv hfill =>
      hw (List.mem_map.2 ⟨v, hv, (hfilled.unique hfill).symm⟩)
    refine ⟨calls ++ calls', t, hprompt.bind hprompt', ?_, ?_, ?_⟩
    all_goals rcases hcalls with rfl | ⟨c, rfl, hfilled, hadded⟩
    · exact hfilled'.imp_right fun ⟨v, hv, hfill⟩ => ⟨v, List.mem_cons_of_mem w hv, hfill⟩
    · refine .inr ?_
      rcases hfilled' with rfl | ⟨v, hv, hfill⟩
      · exact ⟨w, List.mem_cons_self, (show s = t from hprompt'.last) ▸ hfilled⟩
      · exact ⟨v, List.mem_cons_of_mem w hv, hfill⟩
    · exact htail'
    · exact hadded' (hother s hfilled)
    · intro hnot
      obtain rfl : r = s := hprompt.last
      exact hadded' fun v hv => hnot v (List.mem_cons_of_mem w hv)
    · intro hnot
      refine List.forall_mem_append.2 ⟨List.forall_mem_singleton.2 (hadded (hnot w List.mem_cons_self)), ?_⟩
      exact hadded' (hother s hfilled)

/-- **All texts that wait are recorded**, and only the first may be the new text of the newest step. -/
lemma recordAllWaiting_prompt (hl : r.Linked) (h : r.isRecording = true) (p : Page) : ∃ calls s,
    Prompt (recordAllWaiting p) r calls (.ok ⟨⟩) s ∧ (calls = [] ∨ ∃ selector, HasFilled selector s) ∧
      ∀ c ∈ calls.tail, c.notice.callback = .added := by
  obtain ⟨a, ha, -⟩ := isRecording_iff.1 h
  obtain ⟨calls, s, hprompt, hfilled, htail, -⟩ := recordEach_prompt h p (hl.active a ha).inputs.nodup
  refine ⟨calls, s, .get (fun _ _ => rfl) ?_, hfilled.imp_right fun ⟨w, _, hfill⟩ => ⟨w.key, hfill⟩, htail⟩
  rw [ha]
  exact hprompt

/-! ### Events -/

/-- **Of the calls of a program only the first may tell of a step that has changed, and the last is the last thing that
it does.** -/
def Amends (act : Act α) (r : Recorder) : Prop :=
  ∃ calls result s, Makes act r calls result s ∧ Recounts r.current calls s.current ∧
    (calls ≠ [] → Call.last r calls = s) ∧ ∀ c ∈ calls.tail, c.notice.callback = .added

namespace Amends

lemma of_prompt {act : Act α} {result : Except Fault α} (h : Prompt act r calls result s)
    (htail : ∀ c ∈ calls.tail, c.notice.callback = .added) : Amends act r :=
  ⟨calls, result, s, h.makes, h.recounts, fun _ => h.last, htail⟩

lemma of_appends {act : Act α} (h : Appends act r) : Amends act r := by
  obtain ⟨calls, result, s, hprompt, hadded⟩ := h
  exact of_prompt hprompt fun c hmem => hadded c (List.mem_of_mem_tail hmem)

protected lemma pure (a : α) : Amends (pure a) r := of_appends (.pure a)

protected lemma get {f : Recorder → Act α} (hf : ∀ ears notices, f (r.attended ears notices) = f r)
    (h : Amends (f r) r) : Amends (get >>= f) r := by
  obtain ⟨calls, result, s, hmakes, hrest⟩ := h
  exact ⟨calls, result, s, hmakes.get hf, hrest⟩

/-- Texts that wait are recorded before anything else. -/
lemma flush {f : PUnit → Act α} (hl : r.Linked) (h : r.isRecording = true) (p : Page) (hnone : Amends (f ⟨⟩) r)
    (hf : ∀ s selector, s.isRecording = true → HasFilled selector s → Appends (f ⟨⟩) s) :
    Amends (recordAllWaiting p >>= f) r := by
  obtain ⟨calls, s, hprompt, hfilled, htail⟩ := recordAllWaiting_prompt hl h p
  rcases hfilled with rfl | ⟨selector, hfilled⟩
  · obtain rfl : r = s := hprompt.last
    obtain ⟨calls', result, t, hmakes, hrest⟩ := hnone
    exact ⟨calls', result, t, hprompt.makes.bind_aside hmakes, hrest⟩
  · obtain ⟨calls', result, t, hprompt', hadded⟩ := hf s selector (hprompt.recounts.isRecording.trans h) hfilled
    refine of_prompt (hprompt.bind hprompt') fun c hmem => ?_
    cases calls with
    | nil => exact hadded c (List.mem_of_mem_tail hmem)
    | cons first rest => exact (List.mem_append.1 hmem).elim (htail c) (hadded c)

/-- Texts that wait are recorded before steps are added. -/
lemma flush_appends {f : PUnit → Act α} (hl : r.Linked) (h : r.isRecording = true) (p : Page)
    (hf : ∀ s, s.isRecording = true → Appends (f ⟨⟩) s) : Amends (recordAllWaiting p >>= f) r :=
  flush hl h p (of_appends (hf r h)) fun s _ hs _ => hf s hs

/-- The recorder is asked something first. -/
lemma asked {act : Act α} {f : α → Act β} {x : Except Fault α}
    (h : ∀ ears notices, act.run (r.attended ears notices) = (x, r.attended ears notices))
    (hf : ∀ a, x = .ok a → Amends (f a) r) : Amends (act >>= f) r := by
  cases x with
  | error fault => exact of_prompt (Prompt.asked h).failed (by simp)
  | ok a =>
    obtain ⟨calls, result, s, hmakes, hrest⟩ := hf a rfl
    exact ⟨calls, result, s, (Makes.aside h).bind_aside hmakes, hrest⟩

/-- An event is of no concern, or it comes from an element. -/
lemma accepted {f : Option Dom.Location → Act α} (p : Page) (event : Page.Event) (hnone : Amends (f none) r)
    (hsome : ∀ l, r.isRecording = true → Amends (f (some l)) r) : Amends (accepted? p event >>= f) r := by
  have hrun : ∀ ears notices, (accepted? p event).run (r.attended ears notices) =
      (((accepted? p event).run r).1, r.attended ears notices) := fun ears notices => by
    rw [accepted?_run, accepted?_run]
    rfl
  refine asked hrun fun l? hresult => ?_
  cases l? with
  | none => exact hnone
  | some l => exact hsome l (accepted?_eq_some.1 hresult).1

/-! ### Controls -/

variable (hl : r.Linked) (hr : r.isRecording = true)
include hl hr

lemma recordChoice (p : Page) (l : Dom.Location) : Amends (recordChoice p l) r := by
  refine flush hl hr p (.get (fun _ _ => rfl) ?_) fun s selector hs hfilled => .get (fun _ _ => rfl) ?_
  · cases hn : r.newest?.filter fun newest => isAbout .select (Locator.quick l) newest.2 with
    | some newest =>
      obtain ⟨position, last⟩ := newest
      obtain ⟨a, ha, -⟩ := isRecording_iff.1 hr
      obtain ⟨init, hsteps, rfl⟩ := newest?_eq_some ha (Option.filter_eq_some_iff.1 hn).1
      have hlast : r.steps[init.length]? = some last := by simp [steps_of_active ha, hsteps]
      dsimp only
      split
      · exact of_prompt (.change hlast _) (by simp)
      · exact .pure _
    | none => exact of_appends (.recordNow (some l) .select _)
  · -- a text that was recorded just now is the newest step, which has chosen nothing
    have hnone : (s.newest?.filter fun newest => isAbout .select (Locator.quick l) newest.2) = none := by
      obtain ⟨step, hlast, habout⟩ := hfilled
      simp only [isAbout, Bool.and_eq_true, beq_iff_eq] at habout
      simp [newest?, hlast, isAbout, habout.1]
    rw [hnone]
    exact .recordNow (some l) .select _

lemma recordBox (p : Page) (l : Dom.Location) : Amends (recordBox p l) r :=
  flush_appends hl hr p fun _ _ => .recordNow (some l) _ _

lemma recordRadio (p : Page) (l : Dom.Location) : Amends (recordRadio p l) r :=
  flush_appends hl hr p fun _ _ => .recordNow (some l) _ _

omit hl hr in
/-- A text that has to wait is told nobody of. -/
lemma awaitText (l : Dom.Location) : Amends (awaitText l) r := by
  have hawait : ∃ s : Recorder, (∀ ears notices, (Recorder.awaitText l).run (r.attended ears notices) =
      (.ok ⟨⟩, s.attended ears notices)) ∧ s.current = r.current := by
    unfold Recorder.awaitText
    cases ha : r.active with
    | none => exact ⟨r, fun ears notices => by rw [Course.run_modify]; simp only [attended, ha], rfl⟩
    | some a =>
      refine ⟨{ r with
        clock := (a.inputs.schedule r.clock r.clock.now (.input (Locator.quick l)) (Locator.quick l)
          ⟨l.tag.id, l.value, r.clock.now⟩).2
        active := some { a with inputs := (a.inputs.schedule r.clock r.clock.now (.input (Locator.quick l))
          (Locator.quick l) ⟨l.tag.id, l.value, r.clock.now⟩).1 } }, fun ears notices => ?_, by simp [current, ha]⟩
      rw [Course.run_modify]
      simp only [attended, ha]
  obtain ⟨s, hrun, hcurrent⟩ := hawait
  exact ⟨[], .ok ⟨⟩, s, .aside hrun, hcurrent ▸ .nil _, fun hne => absurd rfl hne, by simp⟩

omit hr in
lemma onInput (p : Page) (event : Page.Event) : Amends (onInput p event) r := by
  refine accepted p event (.pure _) fun l hr => ?_
  dsimp only
  split
  · exact recordChoice hl hr p l
  · exact recordBox hl hr p l
  · exact recordRadio hl hr p l
  · exact awaitText l
  · exact .pure _

omit hr in
lemma onChange (p : Page) (event : Page.Event) : Amends (onChange p event) r := by
  refine accepted p event (.pure _) fun l hr => ?_
  dsimp only
  split
  · exact recordChoice hl hr p l
  · exact .pure _

/-! ### Clicks, forms and keys -/

omit hr in
lemma onClick (p : Page) (event : Page.Event) : Amends (onClick p event) r := by
  refine accepted p event (.pure _) fun l hr => ?_
  dsimp only
  split
  · exact .pure _
  refine flush_appends hl hr p fun s _ => ?_
  split
  · split
    · exact .bind (.recordForm _) fun _ _ _ => .recordNow (some l) .submit _
    · exact .recordNow (some l) .submit _
  · exact .recordNow (some l) .click _

omit hr in
lemma onSubmit (p : Page) (event : Page.Event) : Amends (onSubmit p event) r := by
  refine accepted p event (.pure _) fun form hr => flush_appends hl hr p fun s _ => ?_
  refine .get (fun _ _ => rfl) ?_
  refine .ite (.pure _) (.bind (.recordForm form) fun _ _ _ => ?_)
  exact .recordNow (some form) .submit fun step => { step with
    url := form.tag.attr? "action", label := some "Form submit" }

omit hr in
lemma onKeyDown (p : Page) (event : Page.Event) : Amends (onKeyDown p event) r := by
  have hrest : ∀ l : Option Dom.Location, r.isRecording = true → Amends (Recorder.recordAllWaiting p >>= fun _ =>
      stepNow .pressKey >>= fun step => Recorder.record l { step with key := event.key }) r := fun l hr =>
    flush_appends hl hr p fun _ _ => .recordNow l .pressKey _
  refine .get (fun _ _ => rfl) ?_
  split
  · exact .pure _
  · rename_i hskip
    have hr : r.isRecording = true := by
      by_contra hr
      exact hskip (by simp [hr])
    dsimp only
    split
    · rename_i l _
      refine asked (x := isOwn r.config l) (fun ears notices => leavesAlone_run l (r.attended ears notices))
        fun own _ => ?_
      split
      · exact .pure _
      · exact hrest _ hr
    · exact hrest _ hr

omit hr in
lemma recordPage (p : Page) (kind : StepKind) (f : Step → Step) : Amends (recordPage p kind f) r := by
  refine .get (fun _ _ => rfl) ?_
  split
  · exact .pure _
  · rename_i hskip
    exact flush_appends hl (by simpa using hskip) p fun _ _ => .recordNow none kind _

end Amends

/-- **What callbacks are told of an event**: only the first call may tell of a step that has changed, all others tell of
steps that are added, and the last call is the last thing that is done. -/
theorem hear_amends (hl : r.Linked) (p : Page) (event : Page.Event) : Amends (hear p event) r := by
  unfold hear
  split
  · exact .onInput hl p event
  · exact .onChange hl p event
  · exact .onClick hl p event
  · exact .onSubmit hl p event
  · exact .onKeyDown hl p event
  · exact .recordPage hl p _ _
  · exact .recordPage hl p _ _
  · exact .recordPage hl p _ _
  · exact .pure _

end PageTape.Recorder
