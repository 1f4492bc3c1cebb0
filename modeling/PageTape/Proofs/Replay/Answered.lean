import PageTape.Proofs.Recorder.Mirror
import PageTape.Proofs.Replay.Ends
import PageTape.Proofs.Replay.Wait
import PageTape.Proofs.Scene.Requests

/-!
# The responses of a replay

A replay has a response for each request of its scenario that is made while its session is not paused, in their order,
and no others (`requests_answered`).  Only a request adds a response, and only a pause and its end change whether the
session is recording (`steady`); so this is an invariant that each event preserves (`Answering.play`).
-/

namespace PageTape

namespace Recorder

variable {r : Recorder}

/-! ### Recording and paused -/

/-- The status of the session that is active. -/
def currentStatus? (r : Recorder) : Option Status := r.current.map (·.status)

lemma isRecording_eq_status (r : Recorder) : r.isRecording = (r.currentStatus? == some .recording) := by
  rw [isRecording_eq_current, currentStatus?]
  cases r.current <;> rfl

/-- A session that is recording or paused is recording in the first case only. -/
lemma isRecording_of_status {recording : Bool}
    (h : r.currentStatus? = some (if recording = true then .recording else .paused)) : r.isRecording = recording := by
  rw [isRecording_eq_status, h]
  cases recording <;> rfl

lemma Reports.currentStatus? {α : Type} {act : Act α} (h : Reports act r) :
    (act.run r).2.currentStatus? = r.currentStatus? := h.still fun _ _ => rfl

lemma currentStatus?_setStatus {status : Status} (h : r.currentStatus? = some status) (status' : Status) :
    (r.setStatus status').currentStatus? = some status' := by
  cases ha : r.active with
  | none => simp [Recorder.currentStatus?, current, ha] at h
  | some a => simp [Recorder.currentStatus?, current, setStatus, changeActive, ha]

/-- A session that is paused without a failure is paused. -/
lemma currentStatus?_pause {p : Page} {session : Option Session} {recording : Bool}
    (h : r.currentStatus? = some (if recording = true then .recording else .paused))
    (hok : ((pause p).run r).1 = .ok session) : ((pause p).run r).2.currentStatus? = some .paused := by
  have hrec := isRecording_of_status h
  unfold pause at hok ⊢
  rw [Course.run_bind, Course.run_get] at hok ⊢
  dsimp only at hok ⊢
  cases recording with
  | false =>
    rw [hrec, if_neg (by simp)]
    exact h
  | true =>
    rw [hrec, if_pos rfl, Course.run_bind] at hok ⊢
    have hsame := (Reports.recordAllWaiting (r := r) p).currentStatus?
    rcases hrun : (recordAllWaiting p).run r with ⟨fault | u, s⟩ <;> rw [hrun] at hok hsame
    · cases hok
    · exact currentStatus?_setStatus (hsame.trans h) .paused

/-- A session that goes on is recorded. -/
lemma currentStatus?_resume {recording : Bool}
    (h : r.currentStatus? = some (if recording = true then .recording else .paused)) :
    (resume.run r).2.currentStatus? = some .recording := by
  obtain ⟨session, hsession, hstatus⟩ := Option.map_eq_some_iff.1 h
  obtain ⟨a, ha, rfl⟩ := Option.map_eq_some_iff.1 hsession
  have hr : r.status = if recording = true then .recording else .paused := by rw [status, ha, ← hstatus]
  unfold resume
  rw [Course.run_bind, Course.run_get]
  dsimp only
  cases recording with
  | false =>
    rw [show r.status = .paused from hr, if_pos (show (Status.paused == .paused) = true by decide)]
    exact currentStatus?_setStatus h .recording
  | true =>
    rw [show r.status = .recording from hr, if_neg (show ¬ (Status.recording == .paused) = true by decide)]
    exact h

end Recorder

namespace Replay

open Recorder (Signal)
open Scene (Act Stays)

variable {s t : Scene} {answered : List (String × String × Int)} {recording : Bool} {e : Event}

/-! ### What does not pause a session -/

/-- The course of a scene in which no session is paused or goes on. -/
def steady (counts : Bool) : Course Scene where
  holds := Scene.Orderly
  leads s t := Scene.Path counts s t ∧ t.recorder.currentStatus? = s.recorder.currentStatus?
  refl _ := ⟨.refl, rfl⟩
  trans h h' := ⟨h.1.trans h'.1, h'.2.trans h.2⟩
  keeps h hs := (Scene.course counts).keeps h.1 hs

instance (counts : Bool) : Scene.Admits (steady counts) counts true false true true where
  orderly h := h
  changed page browser listeners observers log _ hr hn _ _ _ _ :=
    ⟨.single (.changed _ page browser listeners observers log hr hn), rfl⟩
  obeyed signal hs hin hc _ ho := by
    refine ⟨.single (.obeyed _ signal _ hin hc), ?_⟩
    show (Recorder.obey _ signal).currentStatus? = _
    have reported : signal.isMirrored = true → (∀ p, signal ≠ .pause p) → signal ≠ .resume →
        (Recorder.obey _ signal).currentStatus? = _ := fun hmirrored hpause hresume =>
      (Signal.reports hs.linked hmirrored hin hpause hresume).currentStatus?
    cases signal with
    | start | stop | clear => cases hin
    | advance | runAll | pause | resume | addByHand | removeStep | updateStep => cases ho rfl
    | callbacks | noticed => rfl
    | _ => exact reported rfl nofun nofun

/-- Time passes. -/
lemma timed_steady (counts : Bool) {act : Page → Recorder.Act Unit}
    (hpaths : Stays (Scene.course counts) (Scene.byRecorder act)) (hreports : ∀ p r, Recorder.Reports (act p) r) :
    Stays (steady counts) (Scene.byRecorder act) :=
  .of_leads fun s hs => by
    refine ⟨hpaths.leads hs trivial, ?_⟩
    rw [Scene.byRecorder_run]
    exact (hreports s.page s.recorder).currentStatus?

lemma pass_steady (counts : Bool) (ms : Int) : Stays (steady counts) (pass ms) :=
  timed_steady counts (.byRecorder (.advance · ms) (fun _ _ => rfl) (fun _ => rfl) nofun (fun _ => .inl rfl)
    fun _ _ => rfl) fun p _ => .advance p ms

lemma runAll_steady (counts : Bool) : Stays (steady counts) (Scene.byRecorder Recorder.runAll) :=
  timed_steady counts (.byRecorder .runAll (fun _ _ => rfl) (fun _ => rfl) nofun (fun _ => .inl rfl)
    fun _ _ => rfl) fun p _ => .runAll p

/-! ### Requests -/

/-- The request of an event: its address, its method and its status, which is zero if it fails. -/
def Event.request? : Event → Option (String × String × Int)
  | fetch url method status | xhr url method status _ => some (url, Text.upper method, status)
  | _ => none

/-- Whether a session is recording after an event. -/
def Event.leaves (recording : Bool) : Event → Bool
  | pause _ => false
  | resume _ => true
  | _ => recording

/-- The requests of events that are made while a session is recording. -/
def requestsHeard (recording : Bool) : List Event → List (String × String × Int)
  | [] => []
  | e :: rest => (if recording = true then e.request?.toList else []) ++ requestsHeard (e.leaves recording) rest

/-- **A session has these responses**, and it is recording or paused. -/
structure Answering (s : Scene) (answered : List (String × String × Int)) (recording : Bool) : Prop where
  orderly : s.Orderly
  books : ∃ A N, s.Books 0 A N ∧ A.answered = answered
  status : s.recorder.currentStatus? = some (if recording = true then .recording else .paused)

lemma run_bind_ok {α β : Type} {x : Act α} {f : α → Act β} {b : β} (h : (x >>= f).run s = (.ok b, t)) :
    ∃ a u, x.run s = (.ok a, u) ∧ (f a).run u = (.ok b, t) := by
  rw [Course.run_bind] at h
  rcases hx : x.run s with ⟨fault | a, u⟩ <;> rw [hx] at h
  · cases h
  · exact ⟨a, u, rfl, h⟩

namespace Answering

lemma isRecording (h : Answering s answered recording) : s.recorder.isRecording = recording :=
  Recorder.isRecording_of_status h.status

/-- What is no request and pauses no session leaves the responses. -/
lemma steady (h : Answering s answered recording) (hs : (steady false).leads s t) : Answering t answered recording := by
  obtain ⟨A, N, hbooks, hA⟩ := h.books
  exact ⟨(Replay.steady false).keeps hs h.orderly, ⟨A, N, hs.1.books hbooks, hA⟩, hs.2.trans h.status⟩

/-! #### Calls -/

lemma snd_run_fetch (url method : String) (status : Int) (s : Scene) : ((fetch url method status).run s).2 =
    ((Scene.fetch (.address url) (.map [("method", .text method)]) status false).run s).2 := by
  unfold fetch
  rw [Course.run_bind, Course.run_tryCatch, Course.run_bind, Course.run_discard]
  rcases (Scene.fetch (.address url) (.map [("method", .text method)]) status false).run s with ⟨fault | reply, t⟩
  · cases fault <;> rfl
  · rfl

/-- A call is answered while recording. -/
lemma fetch (h : Answering s answered recording) (url method : String) (status : Int) :
    Answering ((Replay.fetch url method status).run s).2
      (answered ++ if recording = true then [(url, Text.upper method, status)] else []) recording := by
  obtain ⟨A, N, hbooks, rfl⟩ := h.books
  have hsteady := (fetch_stays (C := Replay.steady true) rfl url method status).leads h.orderly trivial
  refine ⟨(Replay.steady true).keeps hsteady h.orderly, ⟨if recording = true then { A with
    answered := A.answered ++ [(url, Text.upper method, status)] } else A, N, ?_, ?_⟩, hsteady.2.trans h.status⟩
  · have hfetch := hbooks.fetch (.address url) (.map [("method", .text method)]) status false
    rw [h.isRecording] at hfetch
    rw [snd_run_fetch]
    exact hfetch
  · cases recording
    · simp
    · rfl

/-! #### Request objects -/

lemma lookup_newExchange (N : Page.Network) (key : String) :
    (N.newExchange key).exchanges.lookup key = some { number := N.nextExchange } := by
  simp [Page.Network.newExchange]

/-- A request object has been sent, and tells a session of its end that is recording. -/
structure Asked (s : Scene) (answered : List (String × String × Int)) (recording : Bool) (url method : String) :
    Prop where
  orderly : s.Orderly
  books : ∃ A N, s.Books 0 A N ∧ A.answered = answered ∧ (N.exchanges.lookup "").map (·.hearers) =
    some (if recording = true then [("loadend", .recorder 0 url (Text.upper method))] else [])
  status : s.recorder.currentStatus? = some (if recording = true then .recording else .paused)

lemma asked {url method : String} (h : Answering s answered recording) (hrun : (Scene.makeExchange "" >>= fun _ =>
      Scene.openExchange "" method (.text url) >>= fun _ => Scene.sendExchange "" []).run s = (.ok ⟨⟩, t)) :
    Asked t answered recording url method := by
  obtain ⟨A, N, hbooks, rfl⟩ := h.books
  have hmake : Stays (Replay.steady true) (Scene.makeExchange "") :=
    .changeNetwork rfl (fun _ => ⟨rfl, rfl, rfl⟩) fun _ _ hn => hn.newExchange ""
  have hopen : Stays (Replay.steady true) (Scene.openExchange "" method (.text url)) := .openExchange rfl _ _ _
  have hsteady := (Stays.bind hmake fun _ => .bind hopen fun _ => .sendExchange rfl "" []).leads h.orderly trivial
  rw [hrun] at hsteady
  refine ⟨(Replay.steady true).keeps hsteady h.orderly, ?_, hsteady.2.trans h.status⟩
  obtain ⟨⟨⟩, u, hu, hrun⟩ := run_bind_ok hrun
  obtain ⟨⟨⟩, v, hv, hrun⟩ := run_bind_ok hrun
  have hv' : v.recorder.isRecording = recording := by
    have hfirst := hmake.leads h.orderly trivial
    have hlast := hopen.leads ((Replay.steady true).keeps hfirst h.orderly) trivial
    rw [hu] at hfirst hlast
    rw [hv] at hlast
    rw [Recorder.isRecording_eq_status, hlast.2, hfirst.2, ← Recorder.isRecording_eq_status, h.isRecording]
  have hmade := hbooks.changePage (f := (·.newExchange "")) (g := (·.newExchange "")) rfl rfl
  rw [show (Scene.changePage (·.newExchange "")).run s = (.ok ⟨⟩, u) from hu] at hmade
  have hopened := hmade.openExchange "" method (.text url)
  have hlookup : ((N.newExchange "").changeExchange "" fun e => { e with
      method := Text.upper method, url := Datum.plain (.text url), phase := .opened }).exchanges.lookup "" = some {
        number := N.nextExchange, method := Text.upper method, url := Datum.plain (.text url), phase := .opened } := by
    rw [Page.Network.lookup_changeExchange, lookup_newExchange]
    rfl
  rw [lookup_newExchange, hv] at hopened
  cases recording with
  | true =>
    have hown : (A.withOpened N.nextExchange url (Text.upper method)).opened.lookup N.nextExchange =
        some (url, Text.upper method) := by simp [Account.withOpened]
    have hsent := hopened.sendExchange_counted hlookup hv' hown rfl (show [].length ≤ 1 from Nat.zero_le 1)
    rw [hrun] at hsent
    refine ⟨_, _, hsent, rfl, ?_⟩
    rw [Page.Network.lookup_changeExchange, Page.Network.lookup_changeExchange, hlookup]
    rfl
  | false =>
    obtain hsent | hsent := hopened.sendExchange_uncounted "" [] fun _ _ hr => by rw [hv'] at hr; cases hr
    all_goals rw [hrun] at hsent
    · exact ⟨_, _, hsent, rfl, by rw [hlookup]; rfl⟩
    · refine ⟨_, _, hsent, rfl, ?_⟩
      rw [Page.Network.lookup_changeExchange, hlookup]
      rfl

namespace Asked

variable {url method : String}

lemma steady (h : Asked s answered recording url method) (hs : (Replay.steady false).leads s t) :
    Asked t answered recording url method := by
  obtain ⟨A, N, hbooks, hrest⟩ := h.books
  exact ⟨(Replay.steady false).keeps hs h.orderly, ⟨A, N, hs.1.books hbooks, hrest⟩, hs.2.trans h.status⟩

/-- The request object ends. -/
lemma ended (h : Asked s answered recording url method) (type : String) (htype : type ≠ "loadend") (status : Int)
    {f : Page.Exchange → Page.Exchange} (hnumber : ∀ e, (f e).number = e.number)
    (hhearers : ∀ e, (f e).hearers = e.hearers) (hstatus : ∀ e, (f e).status = status) :
    Answering ((Scene.endExchange "" type f).run s).2
      (answered ++ if recording = true then [(url, Text.upper method, status)] else []) recording := by
  obtain ⟨A, N, hbooks, rfl, hhearer⟩ := h.books
  obtain ⟨exchange, hlookup, hown⟩ := Option.map_eq_some_iff.1 hhearer
  have hend : Stays (Replay.steady true) (Scene.endExchange "" type f) := .endExchange rfl _ _ hnumber hhearers
  have hsteady := hend.leads h.orderly trivial
  have hrec := Recorder.isRecording_of_status h.status
  have hknown : ∀ g ∈ exchange.hearers, Page.IsKnown 1 g := by
    intro g hg serial url method heq
    rw [hown] at hg
    split at hg
    · obtain rfl := List.mem_singleton.1 hg
      cases heq
      exact ⟨rfl, one_pos⟩
    · cases hg
  obtain ⟨hnobody, htold⟩ := hbooks.endExchange htype hlookup (hnumber _) (hhearers _) hknown
  refine ⟨(Replay.steady true).keeps hsteady h.orderly, ?_, hsteady.2.trans h.status⟩
  cases recording with
  | true =>
    refine ⟨_, _, (htold url (Text.upper method) (by rw [hown]; rfl)).2, ?_⟩
    rw [hrec, hstatus]
    rfl
  | false => exact ⟨_, _, (hnobody (by rw [hown]; rfl)).2, by simp⟩

end Asked

/-- A request object is sent, and its end is noted while recording. -/
lemma exchange {url method : String} {status duration : Int} (h : Answering s answered recording)
    (hrun : (exchange url method status duration).run s = (.ok ⟨⟩, t)) :
    Answering t (answered ++ if recording = true then [(url, Text.upper method, status)] else []) recording := by
  have hparts : Replay.exchange url method status duration = (Scene.makeExchange "" >>= fun _ =>
      Scene.openExchange "" method (.text url) >>= fun _ => Scene.sendExchange "" []) >>= fun _ =>
        (if (duration != 0) = true then pass duration else pure ⟨⟩) >>= fun _ =>
          if (status == 0) = true then Scene.fail "" else Scene.respond "" status "" := by
    unfold Replay.exchange
    simp only [bind_assoc]
    by_cases hd : (duration != 0) = true <;> simp [hd]
  rw [hparts] at hrun
  obtain ⟨⟨⟩, u, hu, hrun⟩ := run_bind_ok hrun
  obtain ⟨⟨⟩, v, hv, hrun⟩ := run_bind_ok hrun
  have hpass : Stays (Replay.steady false) (if (duration != 0) = true then pass duration else pure ⟨⟩) :=
    .ite (pass_steady false duration) (.pure _)
  have hasked := h.asked hu
  have hleads := hpass.leads hasked.orderly trivial
  rw [hv] at hleads
  have hlast : (if (status == 0) = true then Scene.fail "" else Scene.respond "" status "").run v = (.ok ⟨⟩, t) := hrun
  split at hlast
  · rename_i hstatus
    obtain rfl : status = 0 := eq_of_beq hstatus
    have hended := (hasked.steady hleads).ended "error" (by decide) 0 (f := fun e => { e with status := 0 })
      (fun _ => rfl) (fun _ => rfl) fun _ => rfl
    rwa [show (Scene.endExchange "" "error" fun e => { e with status := 0 }).run v = (.ok ⟨⟩, t) from hlast] at hended
  · have hended := (hasked.steady hleads).ended "load" (by decide) status
      (f := fun e => { e with status, responseText := "" }) (fun _ => rfl) (fun _ => rfl) fun _ => rfl
    rwa [show (Scene.endExchange "" "load" fun e => { e with status, responseText := "" }).run v = (.ok ⟨⟩, t) from
      hlast] at hended

/-! #### Events -/

/-- A session is paused or goes on. -/
lemma marked {α : Type} (h : Answering s answered recording) (act : Page → Recorder.Act α) (recording' : Bool)
    (hpath : Stays (Scene.course false) (Scene.byRecorder act))
    (hstatus : ((act s.page).run s.recorder).2.currentStatus? =
      some (if recording' = true then .recording else .paused)) :
    Answering ((Scene.byRecorder act).run s).2 answered recording' := by
  obtain ⟨A, N, hbooks, hA⟩ := h.books
  have hleads := hpath.leads h.orderly trivial
  refine ⟨(Scene.course false).keeps hleads h.orderly, ⟨A, N, Scene.Path.books hleads hbooks, hA⟩, ?_⟩
  rw [Scene.byRecorder_run]
  exact hstatus

/-- **An event adds its request to the responses if the session is recording**, and nothing else does. -/
theorem play (h : Answering s answered recording) (hrun : e.play.run s = (.ok ⟨⟩, t)) :
    Answering t (answered ++ if recording = true then e.request?.toList else []) (e.leaves recording) := by
  have silent : e.request? = none → e.isRequest = false → e.isMarker = false → e.leaves recording = recording →
      Answering t (answered ++ if recording = true then e.request?.toList else []) (e.leaves recording) :=
    fun hnone hrequest hmarker hleaves => by
      have hstays : Stays (Replay.steady false) e.play :=
        play_stays_of (pass_steady false) (fun hc => by rw [hrequest] at hc; cases hc) hmarker rfl
      have hleads := hstays.leads h.orderly trivial
      rw [hrun] at hleads
      rw [hnone, hleaves]
      simpa using h.steady hleads
  cases e with
  | fetch url method status =>
    have hfetch := h.fetch url method status
    rwa [show (Replay.fetch url method status).run s = (.ok ⟨⟩, t) from hrun] at hfetch
  | xhr url method status duration => exact h.exchange hrun
  | pause marker =>
    have hpause : (discard (Scene.byRecorder Recorder.pause) : Act PUnit).run s = (.ok ⟨⟩, t) := hrun
    rw [Course.run_discard] at hpause
    obtain ⟨hresult, rfl⟩ := Prod.ext_iff.1 hpause
    rw [Scene.byRecorder_run] at hresult
    obtain ⟨session, hok⟩ : ∃ session, ((Recorder.pause s.page).run s.recorder).1 = .ok session := by
      cases hok : ((Recorder.pause s.page).run s.recorder).1 with
      | error fault => simp [hok, Except.map] at hresult
      | ok session => exact ⟨session, rfl⟩
    have hmarked := h.marked Recorder.pause false (.byRecorder .pause
      (fun _ _ => Scene.snd_run_eq_obey rfl _) (fun _ => rfl) nofun (fun _ => .inl rfl) fun _ _ => rfl)
      (Recorder.currentStatus?_pause h.status hok)
    simpa [Event.request?, Event.leaves] using hmarked
  | resume marker =>
    have hresume : (discard (Scene.byRecorder fun _ => Recorder.resume) : Act PUnit).run s = (.ok ⟨⟩, t) := hrun
    rw [Course.run_discard] at hresume
    obtain ⟨-, rfl⟩ := Prod.ext_iff.1 hresume
    have hmarked := h.marked (fun _ => Recorder.resume) true (.byRecorder (fun _ => .resume)
      (fun _ _ => Scene.snd_run_eq_obey rfl _) (fun _ => rfl) nofun (fun _ => .inr rfl) fun _ _ => rfl)
      (Recorder.currentStatus?_resume h.status)
    simpa [Event.request?, Event.leaves] using hmarked
  | _ => exact silent rfl rfl rfl rfl

/-- Events add the requests that are made while the session is recording. -/
theorem playAll {events : List Event} (h : Answering s answered recording)
    (hrun : (playAll events).run s = (.ok ⟨⟩, t)) :
    ∃ recording', Answering t (answered ++ requestsHeard recording events) recording' := by
  induction events generalizing s answered recording with
  | nil =>
    obtain ⟨-, rfl⟩ := Prod.ext_iff.1 hrun
    exact ⟨recording, by rwa [requestsHeard, List.append_nil]⟩
  | cons e rest ih =>
    obtain ⟨⟨⟩, u, he, hrest⟩ := run_bind_ok (f := fun _ => Replay.playAll rest) hrun
    obtain ⟨recording', hplayed⟩ := ih (h.play he) hrest
    exact ⟨recording', by rwa [requestsHeard, ← List.append_assoc]⟩

end Answering

/-! ### Replays -/

lemma Scenario.started_answering (scenario : Scenario) (html : String) (config : Recorder.Config) :
    Answering (scenario.started html config) [] true := by
  have hattached := (Scene.Reachable.fresh (scene_fresh scenario html config)).attached
  exact ⟨scenario.started_orderly html config, ⟨_, _, hattached.books_start rfl, rfl⟩, rfl⟩

/-- **The responses of a replay are the requests of its scenario that are made while the session is not paused**: one
for each, in their order, with its address, its method in capitals and its status, which is zero if it has failed. -/
theorem requests_answered (scenario : Scenario) (html : String) (config : Recorder.Config) (take : Take)
    (h : scenario.play html config = .ok take) :
    take.responses.map (fun response => (response.url, response.method, response.status)) =
      requestsHeard true scenario.events := by
  obtain ⟨s, hrun, rfl⟩ := Scenario.play_eq_ok.1 h
  obtain ⟨t, t', r, hplay, hrest, hpath, rfl⟩ := Scenario.perform_parts hrun
  obtain ⟨recording, hanswering⟩ := (scenario.started_answering html config).playAll hplay
  have hleads := (runAll_steady false).leads hanswering.orderly trivial
  rw [hrest] at hleads
  obtain ⟨A, N, hbooks, hA⟩ := (hanswering.steady hleads).books
  obtain ⟨a, ha, -, hr⟩ := hpath.accounts rfl hbooks.account
  rw [List.nil_append] at hA
  have hresponses : ({ r.conclude with notices := [] } : Recorder).responses = a.traffic.responses := by
    unfold Recorder.responses
    rw [show ({ r.conclude with notices := [] } : Recorder).active = none from Recorder.conclude_active r]
    simp [Recorder.conclude, ha]
  dsimp only
  rw [hresponses, ← hA, ← hr]
  rfl

/-- A page asks for something, asks for something else while the session is paused, and sends what fails. -/
def pausing : Scenario :=
  { url := "https://shop.test/", startTime := 0
    events := [.fetch "/api/items" "get" 200, .pause true, .fetch "/api/news" "get" 200, .resume true,
      .xhr "/api/orders" "post" 0 100] }

/-- What is asked for while the session is paused has no response. -/
theorem paused_unanswered : ∃ take, pausing.play "" {} = .ok take ∧
    take.responses.map (fun response => (response.url, response.method, response.status)) =
      [("/api/items", "GET", 200), ("/api/orders", "POST", 0)] := by
  have hok : (pausing.play "" {}).toOption.isSome = true := by decide +kernel
  cases htake : pausing.play "" {} with
  | error fault =>
    rw [htake] at hok
    cases hok
  | ok take => exact ⟨take, rfl, (requests_answered pausing "" {} take htake).trans (by decide +kernel)⟩

end Replay

end PageTape
