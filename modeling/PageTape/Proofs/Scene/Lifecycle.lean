import PageTape.Proofs.Scene.Move

/-!
# What a session puts on a page, it takes away again

While a session is active its recorder listens to the document and the window, watches the body, and is the one layer
before the network; when there is none it has left nothing on the page and no timer on its clock (`Attached`).  This
holds in every scene that can be reached from a fresh one (`Reachable.attached`), whatever happens there and whether it
fails or not; `lifecycle` states it with the state of the recording and with what is not possible in it.  The recorder
of such a scene is one that has got signals (`Reachable.recorder`), so that what is known of all recorders is known of
it.
-/

namespace PageTape

namespace Page

/-- A page on which the recorder has put nothing. -/
def Rig.bare : Rig := ⟨[], [], [], []⟩

variable {ls : Listeners}

lemma Listeners.ofRecorder_foldl_add (rs : List Registration) (hr : ∀ r ∈ rs, r.listener = .recorder)
    (hnd : rs.Nodup) (hdis : ∀ r ∈ rs, r ∉ ls) :
    (rs.foldl Listeners.add ls).ofRecorder = ls.ofRecorder ++ rs := by
  induction rs generalizing ls with
  | nil => simp
  | cons r rs ih =>
    obtain ⟨hr₁, hr₂⟩ := List.forall_mem_cons.1 hr
    obtain ⟨hd₁, hd₂⟩ := List.forall_mem_cons.1 hdis
    rw [List.nodup_cons] at hnd
    have hadd : ls.add r = ls ++ [r] := by simp [Listeners.add, hd₁]
    rw [List.foldl_cons, hadd, ih hr₂ hnd.2]
    · simp [Listeners.ofRecorder, hr₁]
    · intro q hq hmem
      rcases List.mem_append.1 hmem with hmem | hmem
      · exact hd₂ q hq hmem
      · exact hnd.1 (List.mem_singleton.1 hmem ▸ hq)

lemma Listeners.foldl_remove (rs : List Registration) (ls : Listeners) :
    rs.foldl Listeners.remove ls = ls.filter (!rs.contains ·) := by
  induction rs generalizing ls with
  | nil => simp
  | cons r rs ih =>
    rw [List.foldl_cons, ih, Listeners.remove, List.filter_filter]
    refine List.filter_congr fun q _ => ?_
    by_cases h : q = r <;> simp [h, bne]

/-- The recorder that listens for just these does not listen once they are removed. -/
lemma Listeners.ofRecorder_foldl_remove {rs : List Registration} (h : ls.ofRecorder = rs) :
    Listeners.ofRecorder (rs.foldl Listeners.remove ls) = [] := by
  rw [Listeners.foldl_remove, Listeners.ofRecorder, List.filter_filter, List.filter_eq_nil_iff]
  intro q hq hboth
  simp only [Bool.and_eq_true, Bool.not_eq_true', List.contains_eq_mem, decide_eq_false_iff_not] at hboth
  exact hboth.2 (h ▸ List.mem_filter.2 ⟨hq, hboth.1⟩)

lemma filter_addWatch_recorder {w : Watch} (hw : w.observer = .recorder) {ws : List Watch}
    (h : ws.filter (·.observer == .recorder) = []) : (addWatch w ws).filter (·.observer == .recorder) = [w] := by
  induction ws with
  | nil => simp [addWatch, hw]
  | cons v rest ih =>
    have hv : v.observer ≠ .recorder := by
      intro e
      simp [e] at h
    have hrest : rest.filter (·.observer == .recorder) = [] := by simpa [hv] using h
    rw [addWatch, if_neg (by rwa [hw])]
    simpa [hv] using ih hrest

end Page

namespace Scene

open Recorder (Signal)

variable {s t : Scene}

/-! ### The recorder on the page -/

/-- **What the recorder of a scene has put on its page**: all it needs while it has a session, and nothing when it has
none, not even a timer on its clock. -/
structure Attached (s : Scene) : Prop extends s.Orderly where
  active : ∀ a, s.recorder.active = some a → s.recorder.stopped = none ∧ ∃ p,
    s.page.rig = ⟨documentRegistrations, windowRegistrations, [recorderWatch p], [a.serial]⟩
  free : s.recorder.active = none → s.page.rig = .bare
  stopped : ∀ session, s.recorder.stopped = some session → session.status = .stopped

lemma rig_attach {p : Page} (h : p.rig = .bare) (serial : Nat) :
    (attach p serial).rig = ⟨documentRegistrations, windowRegistrations, [recorderWatch p], [serial]⟩ := by
  have hd : p.documentListeners.ofRecorder = [] := congrArg Page.Rig.documentListeners h
  have hw : p.windowListeners.ofRecorder = [] := congrArg Page.Rig.windowListeners h
  have ho : p.watches.filter (·.observer == .recorder) = [] := congrArg Page.Rig.watches h
  have hl : p.layers = [] := congrArg Page.Rig.layers h
  have hfresh : ∀ {ls : Page.Listeners} {r : Page.Registration}, ls.ofRecorder = [] → r.listener = .recorder →
      r ∉ ls := fun hls hr hmem => by
    have := List.filter_eq_nil_iff.1 hls _ hmem
    simp [hr] at this
  have hdocument : ∀ r ∈ documentRegistrations, r.listener = .recorder := by decide
  have hwindow : ∀ r ∈ windowRegistrations, r.listener = .recorder := by decide
  unfold attach Page.rig
  dsimp only
  rw [Page.Listeners.ofRecorder_foldl_add _ hdocument (by decide) fun r hr => hfresh hd (hdocument r hr),
    Page.Listeners.ofRecorder_foldl_add _ hwindow (by decide) fun r hr => hfresh hw (hwindow r hr),
    Page.filter_addWatch_recorder rfl ho, hd, hw, hl]
  rfl

lemma rig_detach {p q : Page} {serial : Nat}
    (h : p.rig = ⟨documentRegistrations, windowRegistrations, [recorderWatch q], [serial]⟩) :
    (detach p).rig = .bare := by
  have hd : p.documentListeners.ofRecorder = documentRegistrations := congrArg Page.Rig.documentListeners h
  have hw : p.windowListeners.ofRecorder = windowRegistrations := congrArg Page.Rig.windowListeners h
  have hl : p.layers = [serial] := congrArg Page.Rig.layers h
  have ho : (p.watches.filter (·.observer != .recorder)).filter (·.observer == .recorder) = [] := by
    rw [List.filter_filter, List.filter_eq_nil_iff]
    intro w _
    simp
  unfold detach Page.rig
  dsimp only
  rw [Page.Listeners.ofRecorder_foldl_remove hd, Page.Listeners.ofRecorder_foldl_remove hw, ho, hl]
  rfl

/-! ### While a session lasts -/

/-- The recorder moves on with the session that it has, and the page stays. -/
lemma Attached.onward (h : s.Attached) {r : Recorder} (hl : r.Linked) (hs : Recorder.SameSession s.recorder r)
    (hn : r.notices = []) (log : List Entry) : ({ s with recorder := r, log } : Scene).Attached where
  toOrderly := h.toOrderly.onward hl hs hn log
  active a ha := by
    obtain ⟨b, hb, hba⟩ := hs.before ha
    rw [← hba]
    exact ⟨hs.stopped.trans (h.active b hb).1, (h.active b hb).2⟩
  free ha := h.free (Option.map_eq_none_iff.1 (hs.serial.symm.trans (by rw [ha]; rfl)))
  stopped session hsession := h.stopped session (hs.stopped ▸ hsession)

theorem Move.attached {counts : Bool} (hm : Move counts s t) (h : s.Attached) : t.Attached := by
  have ho := hm.orderly h.toOrderly
  cases hm with
  | changed page browser listeners observers log hr hn =>
    exact ⟨ho, fun a ha => hr ▸ h.active a ha, fun ha => hr.trans (h.free ha), h.stopped⟩
  | obeyed signal log hin hc =>
    exact h.onward ho.linked (h.linked.sameSession hin).forget rfl log

lemma Path.attached {counts : Bool} (hp : Path counts s t) (h : s.Attached) : t.Attached := by
  induction hp with
  | refl => exact h
  | tail _ hm ih => exact hm.attached ih

/-! ### Beginning and ending -/

/-- Programs that keep what the recorder has put on the page in order. -/
def tidyCourse : Course Scene where
  holds := Attached
  leads s t := s.Attached → t.Attached
  refl _ := id
  trans h₁ h₂ := h₂ ∘ h₁
  keeps h hs := h hs

/-- The recorder has left the page. -/
lemma attached_free {r : Recorder} {p : Page} (s : Scene) (hn : r.active = none) (ht : r.clock.timers = [])
    (hs : ∀ session, r.stopped = some session → session.status = .stopped) (hp : p.rig = .bare)
    (hnetwork : p.network.Numbered r.nextSerial) (log : List Entry) :
    ({ s with recorder := { r with notices := [] }, page := p, log } : Scene).Attached where
  linked := .of_free hn ht
  notices := rfl
  serial a ha := by rw [show r.active = some a from ha] at hn; cases hn
  layers := by
    have hlayers : p.layers = [] := congrArg Page.Rig.layers hp
    simp [hlayers]
  network := hnetwork
  active a ha := by rw [show r.active = some a from ha] at hn; cases hn
  free _ := hp
  stopped := hs

lemma conclude_stopped {r : Recorder} (h : ∀ session, r.stopped = some session → session.status = .stopped)
    (session : Session) (hs : r.conclude.stopped = some session) : session.status = .stopped := by
  unfold Recorder.conclude at hs
  split at hs
  · exact h session hs
  · cases hs
    rfl

/-- The page once the recorder has left it, if it was there. -/
lemma Attached.released (h : s.Attached) :
    (if s.recorder.active.isSome = true then detach s.page else s.page).rig = .bare := by
  cases ha : s.recorder.active with
  | none => exact h.free ha
  | some a =>
    obtain ⟨-, p, hp⟩ := h.active a ha
    exact rig_detach hp

/-- The requests of the page stay when the recorder leaves it. -/
lemma network_released (s : Scene) :
    (if s.recorder.active.isSome = true then detach s.page else s.page).network = s.page.network := by
  cases s.recorder.active <;> rfl

lemma release_run (wasActive : Bool) (s : Scene) :
    (release wasActive).run s = (.ok ⟨⟩, { s with page := if wasActive = true then detach s.page else s.page }) := by
  cases wasActive <;> rfl

/-- How a session is stopped: its recorder leaves the page, or stopping fails. -/
lemma stop_run (hl : s.recorder.Linked) : ∃ r, Recorder.Path {} s.recorder r ∧
    ((∃ fault, stop.run s = (.error fault, { s with
        recorder := { r with notices := [] }, log := s.log ++ r.notices.map .step })) ∨
      ∃ session, stop.run s = (.ok session, { s with
        recorder := { r.conclude with notices := [] }, log := s.log ++ r.conclude.notices.map .step
        page := if s.recorder.active.isSome = true then detach s.page else s.page })) := by
  obtain ⟨r, hp, ⟨fault, hr⟩ | ⟨session, hr, -⟩⟩ := Recorder.stop_leads {} s.page hl
  · refine ⟨r, hp, .inl ⟨fault, ?_⟩⟩
    unfold stop
    rw [Course.run_bind, Course.run_get]
    dsimp only
    rw [Course.run_bind, byRecorder_run, hr]
  · refine ⟨r, hp, .inr ⟨session, ?_⟩⟩
    unfold stop
    rw [Course.run_bind, Course.run_get]
    dsimp only
    rw [Course.run_bind, byRecorder_run, hr]
    dsimp only
    rw [Course.run_bind, release_run]
    rfl

/-- **A session is stopped**, and its recorder has left the page; or stopping fails, and all stays. -/
lemma stop_runs : tidyCourse.Runs (fun _ => True) stop fun _ s => s.recorder.active = none := by
  intro s h _
  obtain ⟨r, hp, ⟨fault, hrun⟩ | ⟨session, hrun⟩⟩ := stop_run h.linked <;> rw [hrun]
  · exact ⟨fun _ => h.onward (linked_forget (hp.linked h.linked)) hp.sameSession.forget rfl _, nofun⟩
  · refine ⟨fun _ => ?_, fun _ _ => Recorder.conclude_active r⟩
    refine attached_free s (Recorder.conclude_active r) ?_ (conclude_stopped ?_) h.released ?_ _
    · exact (Recorder.conclude_clock r).symm ▸ (hp.linked h.linked).drop_timers
    · exact fun session hs => h.stopped session (hp.sameSession.stopped ▸ hs)
    · rw [network_released, Recorder.conclude_nextSerial, hp.sameSession.nextSerial]
      exact h.network

/-- How the recorder forgets all: it leaves the page. -/
lemma clear_run (s : Scene) : clear.run s = (.ok ⟨⟩, { s with
    recorder := { s.recorder.drop with
      stopped := none, stoppedResponses := [], lastUserActionAt := 0, notices := [] }
    log := s.log ++ s.recorder.drop.notices.map .step
    page := if s.recorder.active.isSome = true then detach s.page else s.page }) := by
  unfold clear
  rw [Course.run_bind, Course.run_get]
  dsimp only
  rw [Course.run_bind, byRecorder_run]
  exact release_run _ _

lemma clear_runs : tidyCourse.Runs (fun _ => True) clear fun _ s => s.recorder.active = none := by
  intro s h _
  rw [clear_run]
  refine ⟨fun _ => ?_, fun _ _ => Recorder.drop_active _⟩
  refine attached_free (r := { s.recorder.drop with stopped := none, stoppedResponses := [], lastUserActionAt := 0 }) s
    (Recorder.drop_active _) h.linked.drop_timers (fun _ hs => by cases hs) h.released ?_ _
  rw [network_released]
  exact (Recorder.drop_nextSerial s.recorder).symm ▸ h.network

/-- How the recorder begins a session, and is put on the page. -/
lemma begin_attach_run (s : Scene) (serial : Nat) :
    (byRecorder Recorder.begin >>= fun _ => changePage (attach · serial)).run s = (.ok ⟨⟩, { s with
      recorder := { s.recorder.begun s.page with notices := [] }
      log := s.log ++ (s.recorder.begun s.page).notices.map .step
      page := attach s.page serial }) := by
  rw [Course.run_bind, byRecorder_run, Recorder.begin_run]
  rfl

lemma begin_attach_runs (serial : Nat) : tidyCourse.Runs
    (fun s => s.recorder.active = none ∧ s.recorder.nextSerial = serial)
    (byRecorder Recorder.begin >>= fun _ => changePage (attach · serial)) fun _ _ => True := by
  rintro s h ⟨hn, rfl⟩
  rw [begin_attach_run]
  refine ⟨fun _ => ?_, fun _ _ => trivial⟩
  exact {
    linked := linked_forget (h.linked.begun hn s.page)
    notices := rfl
    serial := fun a ha => by
      cases ha
      exact Nat.lt_succ_self _
    layers := fun n hlayer => by
      have hlayers : s.page.layers = [] := congrArg Page.Rig.layers (h.free hn)
      have : n = s.recorder.nextSerial := by simpa [attach, hlayers] using hlayer
      exact this.trans_lt (Nat.lt_succ_self _)
    network := h.network.mono (Nat.le_succ _)
    active := fun a ha => by
      cases ha
      exact ⟨rfl, s.page, rig_attach (h.free hn) _⟩
    free := nofun
    stopped := nofun }

/-- A session is started as another one is stopped and the new one begins. -/
lemma start_runs_of {C : Course Scene} (hstop : C.Runs (fun _ => True) stop fun _ s => s.recorder.active = none)
    (hbegin : ∀ serial, C.Runs (fun s => s.recorder.active = none ∧ s.recorder.nextSerial = serial)
      (byRecorder Recorder.begin >>= fun _ => changePage (attach · serial)) fun _ _ => True) :
    C.Runs (fun _ => True) start fun _ _ => True := by
  unfold start
  refine .bind_get fun s => ?_
  have hrest : C.Runs (fun _ => True) (discard stop >>= fun _ => get >>= fun s : Scene =>
      (byRecorder Recorder.begin >>= fun _ => changePage (attach · s.recorder.nextSerial)) >>= fun _ =>
        get >>= fun s : Scene => pure s.recorder.session?) fun _ _ => True :=
    .bind (.discard hstop) fun _ => .bind_get fun s =>
      .bind ((hbegin s.recorder.nextSerial).strengthen fun _ _ ⟨e, hn⟩ => ⟨hn, by rw [e]⟩) fun _ =>
        .bind_get fun _ => .pure fun _ _ _ => trivial
  simp only [bind_assoc] at hrest
  exact .ite (fun _ => .bind (Q := fun _ _ => False) .throw fun _ _ _ h => h.elim)
    fun _ => hrest.strengthen fun _ _ _ => trivial

lemma start_runs : tidyCourse.Runs (fun _ => True) start fun _ _ => True := start_runs_of stop_runs begin_attach_runs

/-! ### Reachable scenes -/

/-- A scene in which nothing has happened yet: a page without a recorder and without requests, and a recorder that has
not been asked for anything. -/
structure Fresh (s : Scene) : Prop where
  recorder : s.recorder.Fresh
  notices : s.recorder.notices = []
  log : s.log = []
  rig : s.page.rig = .bare
  exchanges : s.page.exchanges = []
  calls : s.page.calls = []

/-- A scene that was fresh once, after anything that can happen. -/
inductive Reachable : Scene → Prop
  | fresh {s : Scene} (h : s.Fresh) : Reachable s
  | step {s : Scene} (h : Reachable s) (a : Action) : Reachable (s.step a).scene

lemma Attached.withLog (h : s.Attached) (log : List Entry) : ({ s with log } : Scene).Attached :=
  ⟨⟨h.linked, h.notices, h.serial, h.layers, h.network⟩, h.active, h.free, h.stopped⟩

/-- **Whatever happens, the recorder keeps the page in order.** -/
theorem Attached.performed (h : s.Attached) (a : Action) : ((perform a).run s).2.Attached := by
  have lifecycle : ∀ {act : Act Answer}, tidyCourse.Runs (fun _ => True) act (fun _ _ => True) →
      (act.run s).2.Attached := fun hact => hact.leads h trivial h
  cases a with
  | start => exact lifecycle (.map start_runs)
  | stop => exact lifecycle (.map (stop_runs.weaken fun _ _ _ => trivial))
  | clear => exact lifecycle (.bind clear_runs fun _ => .pure fun _ _ _ => trivial)
  | _ => exact Path.attached ((perform_stays true _ rfl fun _ => rfl).leads h.toOrderly trivial) h

lemma Attached.step (h : s.Attached) (a : Action) : (s.step a).scene.Attached := ((h.withLog []).performed a).withLog []

theorem Reachable.attached (h : Reachable s) : s.Attached := by
  induction h with
  | @fresh s h =>
    exact {
      linked := .of_free h.recorder.active h.recorder.timers
      notices := h.notices
      serial := fun a ha => by simp [h.recorder.active] at ha
      layers := by
        have hlayers : s.page.layers = [] := congrArg Page.Rig.layers h.rig
        simp [hlayers]
      network := by
        refine ⟨?_, ?_, ?_, ?_, ?_⟩ <;> simp [Page.network, h.exchanges, h.calls]
      active := fun a ha => by simp [h.recorder.active] at ha
      free := fun _ => h.rig
      stopped := fun session hs => by simp [h.recorder.stopped] at hs }
  | step _ a ih => exact ih.step a

lemma Reachable.log (h : Reachable s) : s.log = [] := by
  cases h with
  | fresh h => exact h.log
  | step _ a => rfl

/-! ### The recorder of a scene -/

/-- Programs of a scene that do nothing else to its recorder than to send signals; unless `edits` holds, these edit no
steps by hand. -/
def signalled (edits : Bool) : Course Scene where
  holds s := s.recorder.Reachable
  leads s t := ∃ signals, (∀ x ∈ signals, Signal.edits x = true → edits = true) ∧
    t.recorder = s.recorder.obeyAll signals
  refl _ := ⟨[], nofun, rfl⟩
  trans := by
    rintro s t u ⟨signals, he, ht⟩ ⟨signals', he', hu⟩
    refine ⟨signals ++ signals', fun x hx => ?_, by rw [hu, ht, Recorder.obeyAll_append]⟩
    exact (List.mem_append.1 hx).elim (he x) (he' x)
  keeps := fun ⟨signals, _, ht⟩ hs => ht ▸ hs.obeyAll signals

variable {edits : Bool}

/-- A signal, after which the recorder has no notices. -/
lemma signalled_obey (s : Scene) {signal : Signal} (he : signal.edits = true → edits = true) {t : Scene}
    (ht : t.recorder = { s.recorder.obey signal with notices := [] }) : (signalled edits).leads s t := by
  refine ⟨[signal, .noticed], fun x hx => ?_, ht⟩
  rcases List.mem_cons.1 hx with rfl | hx
  · exact he
  · obtain rfl := List.mem_singleton.1 hx
    exact nofun

lemma byRecorder_signalled {α : Type} {act : Page → Recorder.Act α} {P : Scene → Prop} (signal : Page → Signal)
    (h : ∀ s, P s → ((act s.page).run s.recorder).2 = s.recorder.obey (signal s.page))
    (he : ∀ p, (signal p).edits = true → edits = true) :
    (signalled edits).Runs P (byRecorder act) fun _ _ => True := fun s _ hP => by
  rw [byRecorder_run, h s hP]
  exact ⟨signalled_obey s (he s.page) rfl, fun _ _ => trivial⟩

lemma changePage_signalled {P : Scene → Prop} (f : Page → Page) :
    (signalled edits).Runs P (changePage f) fun _ _ => True := .modify fun s _ _ => ⟨(signalled edits).refl s, trivial⟩

lemma release_signalled {P : Scene → Prop} (wasActive : Bool) :
    (signalled edits).Runs P (release wasActive) fun _ _ => True := .ite (fun _ => changePage_signalled _)
      fun _ => .pure fun _ _ _ => trivial

lemma stop_signalled : (signalled edits).Runs (fun _ => True) stop fun _ _ => True :=
  .bind_get fun _ => .bind (byRecorder_signalled .stop (fun _ _ => snd_run_eq_obey rfl _) nofun) fun _ =>
    .bind (release_signalled _) fun _ => .pure fun _ _ _ => trivial

/-- A recorder that can begin a session can do so once it is stopped. -/
lemma stop_ready : (signalled edits).Runs (fun s => s.recorder.isBound = true) stop fun _ s =>
    s.recorder.active = none ∧ s.recorder.isBound = true := by
  intro s hs hb
  refine ⟨stop_signalled.leads hs trivial, ?_⟩
  obtain ⟨r, hp, ⟨fault, hrun⟩ | ⟨session, hrun⟩⟩ := stop_run hs.linked <;> rw [hrun]
  · exact nofun
  · exact fun _ _ => ⟨Recorder.conclude_active r, (Recorder.conclude_isBound r).trans (hp.sameSession.isBound.trans hb)⟩

lemma clear_signalled : (signalled edits).Runs (fun _ => True) clear fun _ _ => True :=
  .bind_get fun _ => .bind (byRecorder_signalled (fun _ => .clear) (fun _ _ => rfl) nofun) fun _ => release_signalled _

lemma start_signalled : (signalled edits).Runs (fun _ => True) start fun _ _ => True := by
  unfold start
  refine .bind_get fun s => .ite (fun _ => .bind (Q := fun _ _ => False) .throw fun _ _ _ h => h.elim) fun hb => ?_
  refine .bind (Q := fun _ t => t.recorder.active = none ∧ t.recorder.isBound = true)
    (.discard (stop_ready.strengthen ?_)) fun _ => .bind_get fun t => ?_
  · rintro u - ⟨rfl, -⟩
    simpa using hb
  refine .bind (byRecorder_signalled .start (fun u hu => ?_) nofun) fun _ => .bind (changePage_signalled _) fun _ =>
    .bind_get fun _ => .pure fun _ _ _ => trivial
  exact Recorder.begin_eq_obey hu.2.1 hu.2.2 _

/-- The course of a scene, with the signals that its recorder gets. -/
def signalledCourse (edits : Bool) : Course Scene where
  holds s := s.Orderly ∧ s.recorder.Reachable
  leads s t := Path true s t ∧ (signalled edits).leads s t
  refl s := ⟨.refl, (signalled edits).refl s⟩
  trans h h' := ⟨h.1.trans h'.1, (signalled edits).trans h.2 h'.2⟩
  keeps h hs := ⟨(course true).keeps h.1 hs.1, (signalled edits).keeps h.2 hs.2⟩

instance (edits : Bool) : Admits (signalledCourse edits) true true false true true where
  orderly h := h.1
  changed page browser listeners observers log _ hr hn _ _ _ _ :=
    ⟨.single (.changed _ page browser listeners observers log hr hn), (signalled edits).refl _⟩
  obeyed signal _ hin hc _ ho := by
    refine ⟨.single (.obeyed _ signal _ hin hc), signalled_obey _ (fun he => ?_) rfl⟩
    cases signal with
    | addByHand | removeStep | updateStep => cases ho rfl
    | _ => cases he

/-- Whatever happens, the recorder gets signals, and if steps are not edited by hand then none that edits them. -/
lemma Reachable.signals_of (h : Reachable s) (hr : s.recorder.Reachable) (edits : Bool) {a : Action}
    (he : a.edits = true → edits = true) : ∃ signals, (∀ x ∈ signals, Signal.edits x = true → edits = true) ∧
      (s.step a).scene.recorder = s.recorder.obeyAll signals := by
  have ho : ({ s with log := [] } : Scene).Orderly := (h.attached.withLog []).toOrderly
  have alone : ∀ {act : Act Answer}, (signalled edits).Runs (fun _ => True) act (fun _ _ => True) →
      ∃ signals, (∀ x ∈ signals, Signal.edits x = true → edits = true) ∧
        (act.run { s with log := [] }).2.recorder = s.recorder.obeyAll signals := fun hact => hact.leads hr trivial
  have inner : a.isInner = true → a.isOutside = false → (signalled edits).leads s (s.step a).scene := fun hin hout =>
    ((perform_runs (C := signalledCourse edits) a hin (fun _ => rfl) (.inr rfl) (fun e => by rw [hout] at e; cases e)
      (fun _ => rfl) fun _ => rfl).leads ⟨ho, hr⟩ trivial).2
  have outside : ∀ {α : Type} {act : Page → Recorder.Act α} (signal : Signal),
      (signal.edits = true → edits = true) → ((act s.page).run s.recorder).2 = s.recorder.obey signal →
        ((perform a).run { s with log := [] }).2 = ((byRecorder act).run { s with log := [] }).2 →
          (signalled edits).leads s (s.step a).scene := fun signal hedits hact hperform => by
    refine signalled_obey s hedits ?_
    rw [← hact]
    show ((perform a).run { s with log := [] }).2.recorder = _
    rw [hperform, byRecorder_run]
  cases a with
  | start => exact alone (.map start_signalled)
  | stop => exact alone (.map stop_signalled)
  | clear => exact alone (.bind clear_signalled fun _ => .pure fun _ _ _ => trivial)
  | pause => exact outside (.pause s.page) nofun (snd_run_eq_obey rfl _) (snd_run_map _ _ _)
  | resume => exact outside .resume nofun (snd_run_eq_obey rfl _) (snd_run_map _ _ _)
  | addStep step => exact outside (.addByHand s.page step) (fun _ => he rfl) (snd_run_eq_obey rfl _) (snd_run_map _ _ _)
  | removeStep index => exact outside (.removeStep index) (fun _ => he rfl) (snd_run_eq_obey rfl _) (snd_run_map _ _ _)
  | updateStep index value waitTimeout =>
    exact outside (.updateStep index value waitTimeout) (fun _ => he rfl) (snd_run_eq_obey rfl _) (snd_run_map _ _ _)
  | advance ms => exact outside (.advance s.page ms) nofun rfl (snd_run_unanswered _ _)
  | runAll => exact outside (.runAll s.page) nofun rfl (snd_run_unanswered _ _)
  | _ => exact inner rfl rfl

/-- **The recorder of a scene is one that has got signals**, and nothing else happens to it. -/
theorem Reachable.recorder (h : Reachable s) : s.recorder.Reachable := by
  induction h with
  | fresh h => exact .fresh h.recorder
  | @step s h a ih =>
    obtain ⟨signals, -, hsignals⟩ := h.signals_of ih true fun _ => rfl
    exact hsignals ▸ ih.obeyAll signals

lemma Reachable.after (h : Reachable s) (actions : List Action) : Reachable (s.after actions) := by
  induction actions generalizing s with
  | nil => exact h
  | cons a rest ih => exact ih (h.step a)

/-- Whatever happens, the recorder gets signals, and if steps are not edited by hand then none that edits them. -/
lemma Reachable.signals (h : Reachable s) (edits : Bool) (actions : List Action)
    (he : ∀ a ∈ actions, a.edits = true → edits = true) : ∃ signals, (∀ x ∈ signals, Signal.edits x = true → edits = true) ∧
      (s.after actions).recorder = s.recorder.obeyAll signals := by
  induction actions generalizing s with
  | nil => exact ⟨[], nofun, rfl⟩
  | cons a rest ih =>
    obtain ⟨ha, hrest⟩ := List.forall_mem_cons.1 he
    obtain ⟨signals, hs, hsignals⟩ := h.signals_of h.recorder edits ha
    obtain ⟨signals', hs', hsignals'⟩ := ih (h.step a) hrest
    refine ⟨signals ++ signals', fun x hx => ?_, by rw [Recorder.obeyAll_append, ← hsignals, ← hsignals']; rfl⟩
    exact (List.mem_append.1 hx).elim (hs x) (hs' x)

/-! ### What is not possible -/

/-- An action is refused: it has a given answer, nobody sees anything of it, and it changes nothing. -/
def Refuses (s : Scene) (a : Action) (answer : Answer) : Prop := s.step a = ⟨.ok answer, [], s⟩

lemma refuses_byRecorder {α : Type} {act : Page → Recorder.Act α} {f : α → Answer} {a : Action} {x : α}
    (hlog : s.log = []) (hn : s.recorder.notices = []) (ha : perform a = f <$> byRecorder act)
    (hact : (act s.page).run s.recorder = (.ok x, s.recorder)) : s.Refuses a (f x) := by
  have hs : ({ s with log := [] } : Scene) = s := by rw [← hlog]
  have hr : ({ s.recorder with notices := [] } : Recorder) = s.recorder := by rw [← hn]
  unfold Refuses step
  rw [ha, hs, Course.run_map, byRecorder_run, hact, hr, hn, hlog]
  simp [Except.map, hs]

lemma refuses_stop (h : s.Attached) (hlog : s.log = []) (hn : s.recorder.active = none) :
    s.Refuses .stop (.session none) := by
  have hs : ({ s with log := [] } : Scene) = s := by rw [← hlog]
  have hr : ({ s.recorder with notices := [] } : Recorder) = s.recorder := by rw [← h.notices]
  have hrun : stop.run s = (.ok none, s) := by
    unfold stop
    rw [Course.run_bind, Course.run_get]
    dsimp only
    rw [Course.run_bind, byRecorder_run, Recorder.stop_of_none hn]
    dsimp only
    rw [hr, h.notices, hlog, Course.run_bind, release_run, hn]
    simp [hs]
  unfold Refuses step
  rw [hs, show perform .stop = Answer.session <$> stop from rfl, Course.run_map, hrun]
  simp [Except.map, hs, hlog]

lemma position?_eq_none {r : Recorder} (h : r.active = none) (index : Int) : r.position? index = none := by
  cases index <;> simp [Recorder.position?, Recorder.steps, h]

lemma status_eq {r : Recorder} (h : ∀ session, r.stopped = some session → session.status = .stopped) :
    r.status = (r.session?.map (·.status)).getD .idle := by
  unfold Recorder.status Recorder.session?
  cases r.active with
  | some a => rfl
  | none =>
    cases hs : r.stopped with
    | none => rfl
    | some session => simp [h session hs]

/-- An empty page with a new recorder. -/
def emptyScene : Scene := .ofPage { url := "https://shop.test/", forest := {} } {} { url := "", html := "" }

lemma emptyScene_fresh : emptyScene.Fresh := ⟨⟨rfl, rfl, rfl, rfl⟩, rfl, rfl, rfl, rfl, rfl⟩

lemma emptyScene_reachable : Reachable emptyScene := .fresh emptyScene_fresh

example : documentRegistrations.length = 5 ∧ windowRegistrations.length = 3 ∧
    (∀ r ∈ documentRegistrations, r.capture = true) ∧ ∀ r ∈ windowRegistrations, r.capture = false := by decide

end Scene

end PageTape
