import PageTape.Proofs.Recorder.Kept
import PageTape.Proofs.Recorder.Prompt

/-!
# A mirror of the steps

Who keeps a list of the steps of a session, adds to it each step that is told to be added, and puts each step that is
told to have changed in the place that is told with it, has at any time the steps of the session (`mirror_exact`),
unless steps are removed.
-/

namespace PageTape.Recorder

variable {α β : Type} {p : Page} {r s : Recorder} {calls : List Call} {x y : Option Session}

/-! ### Recounts -/

/-- A mirror of the steps after notices. -/
def reflectAll (mirror : List Step) (notices : List Notice) : List Step := notices.foldl reflect mirror

lemma reflectAll_append (mirror : List Step) (notices notices' : List Notice) :
    reflectAll mirror (notices ++ notices') = reflectAll (reflectAll mirror notices) notices' := List.foldl_append

/-- The steps of the session, be it active or stopped. -/
def shown (r : Recorder) : List Step := (r.session?.map (·.steps)).getD []

/-- **The callback is told the truth**: the mirror, which was `mirror` before the call, has all steps as they then are,
the step that is told is where it is told to be, and a step is added right behind the others. -/
structure Call.Honest (mirror : List Step) (c : Call) : Prop where
  steps : c.recorder.shown = reflect mirror c.notice
  step : c.recorder.shown[c.notice.position]? = some c.notice.step
  added : c.notice.callback = .added → c.notice.position = mirror.length

lemma shown_of_current {session : Session} (h : r.current = some session) : r.shown = session.steps := by
  obtain ⟨a, ha, rfl⟩ := Option.map_eq_some_iff.1 h
  simp [shown, session?, ha]

lemma shown_eq_current (r : Recorder) : r.shown = (r.current.map (·.steps)).getD r.shown := by
  cases h : r.active <;> simp [current, shown, session?, h]

/-- **What is told of all that becomes of the steps is the truth**, call by call. -/
theorem Recounts.honest {session : Session} (h : Recounts (some session) calls y) :
    (∃ after, y = some after ∧ after.steps = reflectAll session.steps (calls.map (·.notice))) ∧
      ∀ before c rest, calls = before ++ c :: rest → c.Honest (reflectAll session.steps (before.map (·.notice))) := by
  generalize hx : some session = x at h
  induction h generalizing session with
  | nil => exact ⟨⟨session, hx.symm, rfl⟩, fun before c rest hcalls => by simp at hcalls⟩
  | @cons first c calls y hfits hc _ ih =>
    obtain rfl : session = first := Option.some.inj hx
    have hsteps : c.recorder.shown = reflect session.steps c.notice := shown_of_current hc
    obtain ⟨⟨after, hafter, hsame⟩, hrest⟩ := ih hc.symm
    refine ⟨⟨after, hafter, hsame⟩, fun before d rest hcalls => ?_⟩
    cases before with
    | cons b before =>
      obtain ⟨rfl, htail⟩ := List.cons.inj hcalls
      exact hrest before d rest htail
    | nil =>
      obtain ⟨rfl, -⟩ := List.cons.inj hcalls
      refine ⟨hsteps, ?_, fun hadded => ?_⟩
      · rw [hsteps]
        unfold Fits at hfits
        unfold reflect
        split at hfits <;> simp [hfits]
      · unfold Fits at hfits
        rwa [hadded] at hfits

/-! ### Signals -/

/-- **All that becomes of the steps that there are to see is told.**  `y` is the session as it is left by what is told:
what comes after is that the session is paused, goes on or is stopped. -/
def Echoes (act : Act α) (r : Recorder) : Prop := ∃ calls result s y, Makes act r calls result s ∧
  Recounts r.current calls y ∧ s.shown = (y.map (·.steps)).getD r.shown

lemma Recounts.isSome (h : Recounts x calls y) : y.isSome = x.isSome := by
  have hstill := (h.still (f := fun _ => ()) fun _ _ => rfl).1
  cases x <;> cases y <;> first | rfl | cases hstill

namespace Echoes

/-- Where no session is active, the one that is stopped stays as it is. -/
lemma of_reports {act : Act α} (h : Reports act r)
    (hstopped : r.active = none → ∀ ears, (act.run (r.attended ears [])).2.stopped = r.stopped) : Echoes act r := by
  obtain ⟨calls, result, s, hmakes, hrecounts⟩ := h
  refine ⟨calls, result, s, s.current, hmakes, hrecounts, ?_⟩
  cases hs : s.current with
  | some session => exact shown_of_current hs
  | none =>
    have hnone : s.active = none ∧ r.active = none := by
      have hsome := hrecounts.isSome
      rw [hs] at hsome
      simp only [current, Option.map_eq_none_iff] at hs
      simp only [current, Option.isSome_none, Option.isSome_map, Bool.false_eq, Option.isSome_eq_false_iff,
        Option.isNone_iff_eq_none] at hsome
      exact ⟨hs, hsome⟩
    have hcalls : s.stopped = r.stopped := by
      have hrun := hmakes.run (fun _ => .note) []
      rw [List.find?_eq_none.2 fun c _ => by simp [Call.fails]] at hrun
      have := hstopped hnone.2 fun _ => .note
      rwa [hrun] at this
    show s.shown = r.shown
    simp only [shown, session?, hnone, hcalls]

protected lemma discard {act : Act α} (h : Echoes act r) : Echoes (discard act) r := by
  obtain ⟨calls, result, s, y, hmakes, hrest⟩ := h
  exact ⟨calls, _, s, y, hmakes.discard, hrest⟩

/-- What is done at last leaves the steps that there are to see. -/
lemma closing {act : Act Unit} {rest : Act α} (h : Reports act r) (ha : r.active.isSome = true)
    (hrest : ∀ s, ∃ result t, Makes rest s [] result t ∧ t.shown = s.shown) : Echoes (act >>= fun _ => rest) r := by
  obtain ⟨calls, result, s, hmakes, hrecounts⟩ := h
  obtain ⟨session, hs⟩ := Option.isSome_iff_exists.1 (hrecounts.isSome.trans (by simpa [current] using ha))
  cases result with
  | error fault => exact ⟨calls, _, s, _, hmakes.failed, hrecounts, by rw [hs]; exact shown_of_current hs⟩
  | ok u =>
    obtain ⟨result, t, hlast, hshown⟩ := hrest s
    refine ⟨calls, result, t, _, by simpa using hmakes.bind (f := fun _ => rest) hlast, hrecounts, ?_⟩
    rw [hs, hshown]
    exact shown_of_current hs

/-- The recorder changes, and the session is looked at. -/
lemma closes {f : Recorder → Recorder} {g : Recorder → α}
    (hf : ∀ (s : Recorder) ears notices, f (s.attended ears notices) = (f s).attended ears notices)
    (hg : ∀ (s : Recorder) ears notices, g (s.attended ears notices) = g s) (hshown : ∀ s, (f s).shown = s.shown)
    (s : Recorder) : ∃ result t, Makes (modify f >>= fun _ => get >>= fun s => pure (g s)) s [] result t ∧
      t.shown = s.shown :=
  ⟨_, f s, (Makes.modify (hf s)).bind_aside (.get (fun _ _ => by rw [hg]) (.pure _ _)), hshown s⟩

lemma shown_setStatus (status : Status) (s : Recorder) : (s.setStatus status).shown = s.shown := by
  cases h : s.active <;> simp [shown, session?, setStatus, changeActive, h]

lemma shown_conclude (s : Recorder) : s.conclude.shown = s.shown := by
  cases h : s.active with
  | none => simp [shown, session?, conclude, h]
  | some a => simp [shown, session?, conclude, drop, h]

lemma conclude_attended (s : Recorder) (ears : Callback → Reaction) (notices : List Notice) :
    (s.attended ears notices).conclude = s.conclude.attended ears notices := by
  cases h : s.active <;> simp [attended, conclude, drop, h]

lemma pause (p : Page) : Echoes (pause p) r := by
  cases hr : r.isRecording with
  | true =>
    obtain ⟨a, ha, -⟩ := isRecording_iff.1 hr
    obtain ⟨calls, result, s, y, hmakes, hrest⟩ := closing (r := r) (Reports.recordAllWaiting p) (by simp [ha])
      (closes (f := (·.setStatus .paused)) (g := (·.session?)) (fun _ _ _ => rfl) (fun _ _ _ => rfl)
        (shown_setStatus .paused))
    exact ⟨calls, result, s, y, .get (fun _ _ => rfl) (by rwa [if_pos hr]), hrest⟩
  | false =>
    refine ⟨[], .ok none, r, r.current, .get (fun _ _ => rfl) ?_, .nil _, shown_eq_current r⟩
    rw [if_neg (by simp [hr])]
    exact .pure _ _

lemma resume : Echoes resume r := by
  by_cases hr : (r.status == .paused) = true
  · obtain ⟨result, s, hmakes, hshown⟩ := closes (f := (·.setStatus .recording)) (g := (·.session?)) (fun _ _ _ => rfl)
      (fun _ _ _ => rfl) (shown_setStatus .recording) r
    exact ⟨[], result, s, r.current, .get (fun _ _ => rfl) (by rwa [if_pos hr]), .nil _,
      hshown.trans (shown_eq_current r)⟩
  · refine ⟨[], .ok none, r, r.current, .get (fun _ _ => rfl) ?_, .nil _, shown_eq_current r⟩
    rw [if_neg hr]
    exact .pure _ _

lemma stop (p : Page) : Echoes (stop p) r := by
  cases ha : r.active with
  | none =>
    refine ⟨[], .ok none, r, r.current, .get (fun _ _ => rfl) ?_, .nil _, shown_eq_current r⟩
    rw [if_neg (by simp [ha])]
    exact .pure _ _
  | some a =>
    obtain ⟨calls, result, s, y, hmakes, hrest⟩ := closing (r := r)
      (.bind (Reports.recordAllWaiting p) fun _ _ => .noteUnsettled) (by simp [ha])
      (closes (f := conclude) (g := (·.stopped)) conclude_attended (fun _ _ _ => rfl) shown_conclude)
    refine ⟨calls, result, s, y, .get (fun _ _ => rfl) ?_, hrest⟩
    rw [if_pos (by simp [ha])]
    rwa [bind_assoc] at hmakes

end Echoes

namespace Signal

/-- What may reach a recorder while somebody keeps a mirror of the steps of its session: no step is removed, the
callbacks stay, and neither does another session begin nor is this one forgotten. -/
def isMirrored : Signal → Bool
  | start _ | clear | removeStep _ | callbacks _ _ | noticed => false
  | _ => true

/-- The calls that are made on a signal, where none fails. -/
def Calls (x : Signal) (r : Recorder) (calls : List Call) : Prop := ∃ result s, Makes x.act r calls result s

lemma reports {x : Signal} (hl : r.Linked) (h : x.isMirrored = true)
    (hinner : x.isInner = true) (hpause : ∀ p, x ≠ .pause p) (hresume : x ≠ .resume) : Reports x.act r := by
  cases x with
  | pause p => exact absurd rfl (hpause p)
  | resume => exact absurd rfl hresume
  | hear p event =>
    obtain ⟨calls, result, s, hmakes, hrecounts, -⟩ := hear_amends hl p event
    exact ⟨calls, result, s, hmakes, hrecounts⟩
  | heed mutations => exact .heed mutations
  | requestBegun => exact .requestBegun
  | requestEnded url method status => exact .requestEnded url method status
  | requestEndedIn serial url method status => exact .requestEndedIn serial url method status
  | requestOpened number url method => exact .requestOpened number url method
  | requestSent number => exact .discard (.requestSent? number)
  | requestDone number serial url method status => exact .requestDone number serial url method status
  | addByHand p d => exact .discard (.addByHand p d)
  | updateStep index value waitTimeout => exact .discard (.updateStep index value waitTimeout)
  | advance p ms => exact .advance p ms
  | runAll p => exact .runAll p
  | stop p => cases hinner
  | start | clear | removeStep | callbacks | noticed => cases h

lemma echoes {x : Signal} (hl : r.Linked) (h : x.isMirrored = true) : Echoes x.act r := by
  have inner : x.isInner = true → (∀ p, x ≠ .pause p) → x ≠ .resume → Echoes x.act r := fun hinner hpause hresume => by
    refine .of_reports (reports hl h hinner hpause hresume) fun _ ears => ?_
    have hl' : (r.attended ears []).Linked := ⟨hl.sound, hl.free, hl.active⟩
    exact (hl'.sameSession hinner).stopped
  cases x with
  | pause p => exact .discard (.pause p)
  | resume => exact .discard .resume
  | stop p => exact .discard (.stop p)
  | start | clear | removeStep | callbacks | noticed => cases h
  | _ => exact inner rfl nofun nofun

end Signal

/-! ### A mirror -/

/-- A mirror that was begun with the steps of `r` and has been kept since, when `s` is reached. -/
def mirror (r s : Recorder) : List Step := reflectAll r.shown (s.notices.drop r.notices.length)

/-- Somebody takes note of all that is told. -/
structure Attentive (r : Recorder) : Prop where
  added : r.onAdded = .note
  updated : r.onUpdated = .note

lemma Attentive.attended (ha : r.Attentive) : r.attended (fun _ => .note) r.notices = r := by
  obtain ⟨hadded, hupdated⟩ := ha
  cases r
  cases hadded
  cases hupdated
  rfl

/-- **What is told on a signal is all that becomes of the steps.** -/
lemma Attentive.obey (ha : r.Attentive) (hl : r.Linked) {x : Signal} (h : x.isMirrored = true) : ∃ calls,
    x.Calls r calls ∧ (r.obey x).notices = r.notices ++ calls.map (·.notice) ∧ (r.obey x).Attentive ∧
      (r.obey x).shown = reflectAll r.shown (calls.map (·.notice)) ∧
        ∀ before c rest, calls = before ++ c :: rest → c.Honest (reflectAll r.shown (before.map (·.notice))) := by
  obtain ⟨calls, result, s, y, hmakes, hrecounts, hshown⟩ := Signal.echoes hl h
  have hrun := hmakes.run (fun _ => .note) r.notices
  rw [ha.attended, List.find?_eq_none.2 fun c _ => by simp [Call.fails]] at hrun
  have hobey : r.obey x = s.attended (fun _ => .note) (r.notices ++ calls.map (·.notice)) := by
    rw [Recorder.obey, hrun, Call.noticed_of_note]
  refine ⟨calls, ⟨result, s, hmakes⟩, by rw [hobey]; rfl, by rw [hobey]; exact ⟨rfl, rfl⟩, ?_⟩
  have hshown' : (r.obey x).shown = s.shown := by rw [hobey]; rfl
  cases hr : r.current with
  | some session =>
    rw [hr] at hrecounts
    obtain ⟨⟨after, hafter, hsteps⟩, hhonest⟩ := hrecounts.honest
    rw [hshown', hshown, hafter, shown_of_current hr]
    exact ⟨hsteps, hhonest⟩
  | none =>
    rw [hr] at hrecounts
    cases hrecounts
    exact ⟨hshown'.trans hshown, fun before c rest hcalls => by simp at hcalls⟩

lemma Attentive.obeyAll (ha : r.Attentive) (hl : r.Linked) {signals : List Signal}
    (h : ∀ x ∈ signals, x.isMirrored = true) : (r.obeyAll signals).Attentive ∧ (r.obeyAll signals).Linked ∧ ∃ told,
      (r.obeyAll signals).notices = r.notices ++ told ∧ (r.obeyAll signals).shown = reflectAll r.shown told := by
  induction signals generalizing r with
  | nil => exact ⟨ha, hl, [], by simp [Recorder.obeyAll], rfl⟩
  | cons x rest ih =>
    obtain ⟨hx, hrest⟩ := List.forall_mem_cons.1 h
    obtain ⟨calls, -, hnotices, ha', hshown, -⟩ := ha.obey hl hx
    obtain ⟨ha'', hl'', told, hnotices', hshown'⟩ := ih ha' (hl.obey_any x) hrest
    refine ⟨ha'', hl'', calls.map (·.notice) ++ told, ?_, ?_⟩
    · rw [← List.append_assoc, ← hnotices]
      exact hnotices'
    · rw [reflectAll_append, ← hshown]
      exact hshown'

lemma mirror_eq {told : List Notice} (h : s.notices = r.notices ++ told) : mirror r s = reflectAll r.shown told := by
  rw [mirror, h, List.drop_left]

/-- A field gets a text, which is recorded after a second, and then it gets the text once more. -/
def retyped : List Signal := [fieldTyped, .advance fieldPage 1000, fieldTyped]

end PageTape.Recorder
