import PageTape.Proofs.Scene.Requests

/-!
# Nothing is recorded of a scene while its recorder is not recording

`Gate s` says of a scene what does not get into a recording: nothing that page, user, network and clock do while the
recorder is not recording, nothing at all for a session that is over, and of the requests none that was counted for
another session.  It holds of every scene that can be reached (`recording_gate`).
-/

namespace PageTape.Scene

open Recorder (Signal Intact Still SameSession)
open Page (heard)

variable {s t : Scene} {a : Action}

/-! ### While the recorder is not recording -/

/-- The course of a scene whose recorder is not recording. -/
def gate : Course Scene where
  holds s := s.Orderly ∧ s.recorder.isRecording = false
  leads s t := Path true s t ∧ Still s.recorder t.recorder ∧ SameSession s.recorder t.recorder ∧ Quiet s.log t.log
  refl _ := ⟨.refl, .refl _, .refl _, .refl _⟩
  trans h h' := ⟨h.1.trans h'.1, h.2.1.trans h'.2.1, h.2.2.1.trans h'.2.2.1, h.2.2.2.trans h'.2.2.2⟩
  keeps h hs := ⟨(course true).keeps h.1 hs.1, h.2.1.isRecording.trans hs.2⟩

instance : Admits gate true false true true true where
  orderly h := h.1
  changed page browser listeners observers log _ hr hn _ _ _ hlog :=
    ⟨.single (.changed _ page browser listeners observers log hr hn), .refl _, .refl _, hlog⟩
  obeyed signal hs hin hc ho _ := by
    have hstill : Still _ (Recorder.obey _ signal) := Signal.still (ho.resolve_right nofun) hs.2
    have hn : (Recorder.obey _ signal).notices = [] := hstill.notices.trans hs.1.notices
    refine ⟨.single (.obeyed _ signal _ hin hc), ?_, (hs.1.linked.sameSession hin).forget, ?_⟩
    · exact ⟨hstill.session, hstill.responses, hstill.lastUserActionAt, hs.1.notices.symm, hstill.isRecording⟩
    · rw [hn, List.map_nil, List.append_nil]
      exact .refl _

/-- What an outcome shows holds no step. -/
def Outcome.Silent (o : Outcome) : Prop := ∀ e ∈ o.seen, e.isStep = false

lemma Quiet.silent {log : List Entry} (h : Quiet [] log) : ∀ e ∈ log, e.isStep = false := by
  obtain ⟨entries, rfl, hentries⟩ := h
  exact hentries

/-- One thing happens. -/
lemma Reachable.gate_step (h : Reachable s) (hr : s.recorder.isRecording = false) (hin : a.isInner = true)
    (ha : a.isGated = true) : Still s.recorder (s.step a).scene.recorder ∧
      SameSession s.recorder (s.step a).scene.recorder ∧ (s.step a).Silent := by
  have ho : ({ s with log := [] } : Scene).Orderly := (h.attached.withLog []).toOrderly
  have hrun : Stays gate (perform a) := perform_runs a hin (fun _ => rfl) (.inl ha) (fun _ => rfl)
    (fun _ => rfl) fun _ => rfl
  obtain ⟨-, hstill, hsame, hquiet⟩ := hrun.leads (s := { s with log := [] }) ⟨ho, hr⟩ trivial
  exact ⟨hstill, hsame, hquiet.silent⟩

/-- Any number of things happen. -/
lemma Reachable.gate_after {actions : List Action} (h : Reachable s) (hr : s.recorder.isRecording = false)
    (ha : ∀ a ∈ actions, a.isInner = true ∧ a.isGated = true) :
    Still s.recorder (s.after actions).recorder ∧ SameSession s.recorder (s.after actions).recorder := by
  induction actions generalizing s with
  | nil => exact ⟨.refl _, .refl _⟩
  | cons a rest ih =>
    obtain ⟨⟨hin, hgated⟩, hrest⟩ := List.forall_mem_cons.1 ha
    obtain ⟨hstill, hsame, -⟩ := h.gate_step hr hin hgated
    obtain ⟨hstill', hsame'⟩ := ih (h.step a) (hstill.isRecording.trans hr) hrest
    exact ⟨hstill.trans hstill', hsame.trans hsame'⟩

/-! ### A session begins, goes on or ends -/

/-- Programs that leave what was recorded so far as it is, or have it forgotten. -/
def sparing : Course Scene where
  holds s := s.recorder.Reachable ∧ s.recorder.notices = []
  leads s t := (signalled true).leads s t ∧ Intact s.recorder t.recorder ∧ Quiet s.log t.log
  refl s := ⟨(signalled true).refl s, .refl _, .refl _⟩
  trans h h' := ⟨(signalled true).trans h.1 h'.1, h.2.1.trans h'.2.1, h.2.2.trans h'.2.2⟩
  keeps h hs := ⟨(signalled true).keeps h.1 hs.1, h.2.1.notices.trans hs.2⟩

/-- A signal that leaves what was recorded as it is. -/
lemma byRecorder_sparing {α : Type} {act : Page → Recorder.Act α} {P : Scene → Prop} (signal : Page → Signal)
    (h : ∀ s, P s → ((act s.page).run s.recorder).2 = s.recorder.obey (signal s.page))
    (hi : ∀ s, sparing.holds s → P s → Intact s.recorder ((act s.page).run s.recorder).2) :
    sparing.Runs P (byRecorder act) fun _ _ => True := fun s hs hP => by
  have hrun : (signalled true).Runs P (byRecorder act) fun _ _ => True := byRecorder_signalled signal h fun _ _ => rfl
  refine ⟨⟨hrun.leads hs.1 hP, ?_⟩, fun _ _ => trivial⟩
  have hintact := hi s hs hP
  have hn : ((act s.page).run s.recorder).2.notices = [] := hintact.notices.trans hs.2
  rw [byRecorder_run, hn, List.map_nil, List.append_nil]
  exact ⟨⟨hintact.records, hintact.nextSerial, hs.2.symm⟩, .refl _⟩

lemma changePage_sparing {P : Scene → Prop} (f : Page → Page) : sparing.Runs P (changePage f) fun _ _ => True :=
  .modify fun s _ _ => ⟨⟨(signalled true).refl s, .refl _, .refl _⟩, trivial⟩

lemma release_sparing {P : Scene → Prop} (wasActive : Bool) : sparing.Runs P (release wasActive) fun _ _ => True :=
  .ite (fun _ => changePage_sparing _) fun _ => .pure fun _ _ _ => trivial

lemma stop_sparing : sparing.Runs (fun s => s.recorder.isRecording = false) stop fun _ _ => True := by
  refine .bind_get fun s => .bind (byRecorder_sparing .stop (fun _ _ => snd_run_eq_obey rfl _) ?_) fun _ =>
    .bind (release_sparing _) fun _ => .pure fun _ _ _ => trivial
  rintro t ht ⟨-, hr⟩
  exact .stop ht.1.linked ht.1.latest hr t.page

lemma clear_sparing : sparing.Runs (fun _ => True) clear fun _ _ => True :=
  .bind_get fun _ => .bind (byRecorder_sparing (fun _ => .clear) (fun _ _ => rfl) fun s _ _ => .clear s.recorder)
    fun _ => release_sparing _

lemma resume_sparing : sparing.Runs (fun _ => True) (byRecorder fun _ => Recorder.resume) fun _ _ => True :=
  have hobey : ∀ r, (Recorder.resume.run r).2 = r.obey .resume := snd_run_eq_obey rfl
  byRecorder_sparing (fun _ => .resume) (fun s _ => hobey s.recorder) fun s _ _ => by
    rw [hobey]
    exact .resume s.recorder

lemma start_sparing : sparing.Runs (fun s => s.recorder.isRecording = false) start fun _ _ => True := by
  unfold start
  refine .bind_get fun s => .ite (fun _ => .bind (Q := fun _ _ => False) .throw fun _ _ _ h => h.elim) fun hb => ?_
  refine .bind (Q := fun _ t => t.recorder.active = none ∧ t.recorder.isBound = true)
    (.discard fun u hu ⟨hus, hr⟩ => ⟨stop_sparing.leads hu hr, (stop_ready u (show (signalled true).holds u from hu.1) ?_).2⟩) fun _ => .bind_get fun t => ?_
  · obtain rfl := hus
    simpa using hb
  refine .bind (byRecorder_sparing .start (fun u hu => ?_) fun u _ hu => ?_) fun _ =>
    .bind (changePage_sparing _) fun _ => .bind_get fun _ => .pure fun _ _ _ => trivial
  · exact Recorder.begin_eq_obey hu.2.1 hu.2.2 _
  · rw [Recorder.begin_run]
    exact .begun u.recorder u.page

/-- A step is removed or changed by hand. -/
def Action.isByHand : Action → Bool
  | removeStep _ | updateStep _ _ _ => true
  | _ => false

/-- Whatever happens while the recorder is not recording: what was recorded stays, or is forgotten. -/
lemma Reachable.spared (h : Reachable s) (hr : s.recorder.isRecording = false) (ha : a.isByHand = false) :
    Intact s.recorder (s.step a).scene.recorder ∧ (s.step a).Silent := by
  have lifecycle : ∀ {act : Act Answer}, perform a = act →
      sparing.Runs (fun s => s.recorder.isRecording = false) act (fun _ _ => True) →
        Intact s.recorder (s.step a).scene.recorder ∧ (s.step a).Silent := fun hact hrun => by
    subst hact
    obtain ⟨-, hintact, hquiet⟩ := hrun.leads (s := { s with log := [] }) ⟨h.recorder, h.attached.notices⟩ hr
    exact ⟨hintact, hquiet.silent⟩
  have gated : a.isInner = true → a.isGated = true →
      Intact s.recorder (s.step a).scene.recorder ∧ (s.step a).Silent := fun hin hgated => by
    obtain ⟨hstill, hsame, hsilent⟩ := h.gate_step hr hin hgated
    exact ⟨.of_still hstill hsame, hsilent⟩
  cases a with
  | start => exact lifecycle rfl (.map start_sparing)
  | stop => exact lifecycle rfl (.map stop_sparing)
  | clear =>
    exact lifecycle rfl (.bind (clear_sparing.strengthen fun _ _ _ => trivial) fun _ => .pure fun _ _ _ => trivial)
  | resume => exact lifecycle rfl (.map (resume_sparing.strengthen fun _ _ _ => trivial))
  | removeStep index => cases ha
  | updateStep index value waitTimeout => cases ha
  | _ => exact gated rfl rfl

/-! ### Requests of another session -/

/-- A call that was not counted for the session ends. -/
lemma Books.settleCall_other {serial : Nat} {A : Account} {N : Page.Network} (h : s.Books serial A N) {key : String}
    {call : Page.Call} (hlookup : N.calls.lookup key = some call) (hn : call.countedBy ≠ some serial) (status : Int) :
    ((Scene.settleCall key status).run s).2.recorder = s.recorder := by
  have hcalls : s.page.calls.lookup key = some call := by rw [← hlookup, ← h.network]; rfl
  unfold Scene.settleCall
  rw [Course.run_bind, Course.run_get]
  simp only [hcalls]
  rw [Course.run_bind, show (Scene.changePage _).run s = (.ok ⟨⟩, _) from rfl]
  dsimp only
  rw [Course.run_map]
  dsimp only
  rw [snd_run_endCall]
  cases hby : call.countedBy with
  | none => rfl
  | some n =>
    have hne : n ≠ serial := fun e => hn (hby.trans (congrArg some e))
    have hsame : ({ s.recorder with notices := [] } : Recorder) = s.recorder := by rw [← h.notices]
    dsimp only
    rw [byRecorder_run, h.account.requestEndedIn_other hne]
    exact hsame

/-- A recorder that has been told of the ends of a request object, of those that its session asked for. -/
def told (r : Recorder) (number serial : Nat) (status : Int) (infos : List (String × String)) : Recorder :=
  infos.foldl (fun r info => { r.obey (.requestDone number serial info.1 info.2 status) with notices := [] }) r

/-- Of those who are told of an end, only the session itself reaches the recorder. -/
lemma run_callHearers {serial : Nat} (key type : String) (e : Page.Exchange) (hearers : List (String × Page.Hearer))
    (hl : s.recorder.Linked) (hn : s.recorder.notices = []) {A : Account} (hA : s.recorder.Accounts serial A) :
    ∃ log, (hearers.forM fun g => callHearer key type e g.2).run s = (.ok ⟨⟩, { s with
      recorder := told s.recorder e.number serial e.status (heard serial hearers), log }) := by
  induction hearers generalizing s A with
  | nil => exact ⟨s.log, rfl⟩
  | cons g rest ih =>
    obtain ⟨kind, hearer⟩ := g
    cases hearer with
    | page behaviour => exact ih (s := { s with log := s.log ++ [.ended key type e.status] }) hl hn hA
    | recorder n url method =>
      have hrun : (callHearer key type e (.recorder n url method)).run s = (.ok ⟨⟩, { s with
          recorder := { s.recorder.obey (.requestDone e.number n url method e.status) with notices := [] }
          log := s.log ++ (s.recorder.obey (.requestDone e.number n url method e.status)).notices.map .step }) := by
        unfold callHearer
        rw [run_quietly, byRecorder_run]
        rfl
      rw [Books.run_forM_cons, Course.run_bind, hrun]
      by_cases hserial : n = serial
      · subst hserial
        have hsame := hl.sameSession (s := .requestDone e.number n url method e.status) rfl
        obtain ⟨a, ha, hs, -⟩ := hA
        obtain ⟨b, hb, hba⟩ := hsame.after ha
        obtain ⟨log, hlog⟩ := ih (s := { s with
          recorder := { s.recorder.obey (.requestDone e.number n url method e.status) with notices := [] }
          log := s.log ++ (s.recorder.obey (.requestDone e.number n url method e.status)).notices.map .step })
          (linked_forget (hl.obey_any _)) rfl ⟨b, hb, hba.trans hs, rfl⟩
        refine ⟨log, hlog.trans ?_⟩
        simp [told, heard]
      · have hother : s.recorder.obey (.requestDone e.number n url method e.status) = s.recorder :=
          congrArg Prod.snd (hA.requestDone_other e.number hserial url method e.status)
        have hsame : ({ s.recorder with notices := [] } : Recorder) = s.recorder := by rw [← hn]
        rw [hother, hsame]
        obtain ⟨log, hlog⟩ := ih (s := { s with log := s.log ++ s.recorder.notices.map .step }) hl hn hA
        refine ⟨log, hlog.trans ?_⟩
        simp [heard, hserial]

/-- **A request object ends, and the recorder is told only what its own session asked for.** -/
lemma Books.endExchange_told {serial bound : Nat} {A : Account} {N : Page.Network} (h : s.Books serial A N)
    {key type : String} (ht : type ≠ "loadend") {f : Page.Exchange → Page.Exchange} {e : Page.Exchange}
    (hlookup : N.exchanges.lookup key = some e) (hnumber : (f e).number = e.number)
    (hhearers : (f e).hearers = e.hearers) (hknown : ∀ g ∈ e.hearers, Page.IsKnown bound g) :
    ((Scene.endExchange key type f).run s).2.recorder =
      told s.recorder e.number serial (f e).status (heard serial e.hearers) := by
  obtain ⟨t, hrun, hrec, hchanged⟩ : ∃ t,
      (Scene.changePage (·.changeExchange key fun e => { f e with phase := .done })).run s = (.ok ⟨⟩, t) ∧
        t.recorder = s.recorder ∧ t.Books serial A (N.changeExchange key fun e => { f e with phase := .done }) :=
    ⟨_, rfl, rfl, h.changeExchange key _⟩
  have hdone : (N.changeExchange key fun e => { f e with phase := .done }).exchanges.lookup key =
      some { f e with phase := .done } := by rw [Page.Network.lookup_changeExchange, hlookup]; rfl
  have hfilter : ∀ type, heard serial ((f e).hearers.filter (·.1 == type)) =
      if type = "loadend" then heard serial e.hearers else [] := fun type => by
    rw [hhearers]
    exact Page.heard_filter hknown type
  obtain ⟨log, hlog⟩ := hchanged.callHearers_others type hdone ((hfilter type).trans (if_neg ht))
  have hlogged := hchanged.withLog log
  obtain ⟨log', hlog'⟩ := run_callHearers key "loadend" { f e with phase := .done }
    ((f e).hearers.filter (·.1 == "loadend")) hlogged.linked hlogged.notices hlogged.account
  have hend : (Scene.callHearers key "loadend").run { t with log } =
      (((f e).hearers.filter (·.1 == "loadend")).forM fun g =>
        callHearer key "loadend" { f e with phase := .done } g.2).run { t with log } := by
    unfold Scene.callHearers
    rw [Course.run_bind, Course.run_get]
    simp only [hlogged.exchange?, hdone]
  unfold Scene.endExchange
  rw [Course.run_bind, hrun]
  dsimp only
  rw [Course.run_bind, hlog]
  dsimp only
  rw [hend, hlog', hfilter, if_pos rfl, ← hnumber, ← hrec]

/-! ### The gate -/

/-- **What does not get into a recording.** -/
structure Gate (s : Scene) : Prop where
  /-- While the recorder is not recording, nothing that happens is recorded of any session, it is no action of the user,
  and nobody is told of a step. -/
  closed : s.recorder.isRecording = false → ∀ actions : List Action,
    (∀ a ∈ actions, a.isInner = true ∧ a.isGated = true) →
      (∀ n, (s.after actions).recorder.recordOf? n = s.recorder.recordOf? n) ∧
        (s.after actions).recorder.lastUserActionAt = s.recorder.lastUserActionAt ∧
          ∀ a, a.isInner = true → a.isGated = true → ((s.after actions).step a).Silent
  /-- Not even when a session begins, goes on or ends; only by hand can its steps be removed or changed then. -/
  spared : s.recorder.isRecording = false → ∀ a : Action, a.isByHand = false →
    Intact s.recorder (s.step a).scene.recorder ∧ (s.step a).Silent
  /-- What was recorded of a session that is over stays for good, until it is forgotten. -/
  ended : ∀ n, s.recorder.Over n → ∀ actions : List Action,
    (s.after actions).recorder.recordOf? n = s.recorder.recordOf? n ∨ (s.after actions).recorder.recordOf? n = none
  /-- The end of a call that was not counted for the active session does nothing to the recorder. -/
  calls : ∀ active, s.recorder.active = some active → ∀ key call, s.page.calls.lookup key = some call →
    call.countedBy ≠ some active.serial → ∀ status, (s.step (.settleCall key status)).scene.recorder = s.recorder
  /-- Of the ends of a request object the recorder is told only those that the active session asked for. -/
  exchanges : ∀ active, s.recorder.active = some active → ∀ key e, s.page.exchange? key = some e →
    (∀ status text, (s.step (.respond key status text)).scene.recorder =
      told s.recorder e.number active.serial status (heard active.serial e.hearers)) ∧
    (s.step (.fail key)).scene.recorder = told s.recorder e.number active.serial 0 (heard active.serial e.hearers)
  /-- A session that begins has counted none of the calls and asked for none of the ends. -/
  fresh : ∀ answer, (s.step .start).result = .ok answer → ∃ active,
    (s.step .start).scene.recorder.active = some active ∧
      (∀ c ∈ (s.step .start).scene.page.calls, c.2.countedBy ≠ some active.serial) ∧
        ∀ x ∈ (s.step .start).scene.page.exchanges, heard active.serial x.2.hearers = []

/-- A call and a request object that are under way when the session is paused, and when it is stopped. -/
def underWayRun : List Action := [
  .start,
  .startCall "list" (.address "/api/items") (.map []),
  .makeExchange "save",
  .openExchange "save" "post" (.text "/api/save"),
  .sendExchange "save" [],
  .pause]

end PageTape.Scene
