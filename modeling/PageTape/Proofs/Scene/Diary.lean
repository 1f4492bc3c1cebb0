import PageTape.Proofs.Recorder.Idle
import PageTape.Proofs.Scene.Ledger

/-!
# Every wait for an idle network has a reason

A `Diary` is what an onlooker writes down who also looks at the clock: the ledger of the requests of a session, with
those that the recorder is told of by others than the page, and the moments of the session, which are the starts and
the ends of requests and the waits for an idle network.  `Diary.next` tells what is written down; `Tells` ties it to
the session, and whatever happens in that keeps the tie (`Tells.step`), from its beginning to its end.  So each wait has
the reason that is seen in the diary (`idle_waits_justified`).
-/

namespace PageTape.Scene

open Page (Network Exchange)
open Recorder (Accords Beside Chronicle Leave Moment Signal)

variable {may : Leave} {s : Scene} {serial : ℕ} {A : Account} {N : Network} {moments : List Moment}

/-! ### What becomes of the recorder -/

section Recorder

lemma snd_byRecorder_recorder {α : Type} (act : Page → Recorder.Act α) (s : Scene) :
    ((byRecorder act).run s).2.recorder = { ((act s.page).run s.recorder).2 with notices := [] } := by
  rw [byRecorder_run]

lemma recorder_stop (s : Scene) :
    (stop.run s).2.recorder = { ((Recorder.stop s.page).run s.recorder).2 with notices := [] } := by
  unfold stop
  rw [Course.run_bind, Course.run_get]
  dsimp only
  rw [Course.run_bind, byRecorder_run]
  rcases (Recorder.stop s.page).run s.recorder with ⟨fault | session, r⟩
  · rfl
  · dsimp only
    rw [Course.run_bind, release_run]
    rfl

namespace Books

/-- The books are those of the recorder and the page. -/
lemma congr {t : Scene} (h : s.Books serial A N) (hr : t.recorder = s.recorder) (hp : t.page = s.page) :
    t.Books serial A N :=
  ⟨hr ▸ h.linked, hr ▸ h.notices, hp ▸ h.layers, hr ▸ h.account, hp ▸ h.network⟩

/-- A call begins. -/
lemma accords_countCall (h : s.Books serial A N) (ha : Accords may moments s.recorder) :
    (Scene.countCall.run s).2.recorder.clock.now = s.recorder.clock.now ∧
      Accords may ((if s.recorder.isRecording = true then [.started s.recorder.clock.now] else []) ++ moments)
        (Scene.countCall.run s).2.recorder := by
  unfold Scene.countCall
  rw [Course.run_bind, Course.run_get]
  simp only [h.layers]
  cases s.recorder.isRecording with
  | false => exact ⟨rfl, ha⟩
  | true =>
    simp only [if_true]
    rw [Course.run_bind, byRecorder_run, h.account.requestBegun.1]
    exact ⟨h.linked.requestBegun.2.1.now, ha.requestBegun.forget []⟩

/-- A call ends. -/
lemma accords_endCall (h : s.Books serial A N) (ha : Accords may moments s.recorder) (request : Page.Request)
    {countedBy : Option ℕ} (hpos : countedBy = some serial → A.inFlight ≠ 0) (status : ℤ) :
    Accords may ((if countedBy = some serial then [.settled s.recorder.clock.now] else []) ++ moments)
      ((Scene.endCall request countedBy status).run s).2.recorder := by
  rw [snd_run_endCall]
  cases countedBy with
  | none => simpa using ha
  | some n =>
    dsimp only
    rw [snd_byRecorder_recorder]
    by_cases hn : n = serial
    · subst hn
      rw [if_pos rfl]
      exact (ha.requestEndedIn h.account (hpos rfl) _ _ _).forget []
    · rw [if_neg (by simpa using hn), h.account.requestEndedIn_other hn]
      exact ha.forget []

/-- A call is made and waited for. -/
lemma accords_fetch (h : s.Books serial A N) (ha : Accords may moments s.recorder) (resource : Page.Resource)
    (init : Datum) (status : ℤ) (offline : Bool) :
    Accords may ((if s.recorder.isRecording = true then
        [.settled s.recorder.clock.now, .started s.recorder.clock.now] else []) ++ moments)
      ((Scene.fetch resource init status offline).run s).2.recorder := by
  obtain ⟨t, hrun, hrec, hbooks⟩ := h.countCall
  obtain ⟨hnow, hbegun⟩ := h.accords_countCall ha
  rw [hrun] at hnow hbegun
  dsimp only at hnow
  have hend : ∀ u : Scene, u.recorder = t.recorder → u.Books serial
      (if s.recorder.isRecording = true then A.begun else A) N → ∀ status,
      Accords may ((if s.recorder.isRecording = true then
          [.settled s.recorder.clock.now, .started s.recorder.clock.now] else []) ++ moments)
        ((Scene.endCall (.ofCall resource init) (if s.recorder.isRecording = true then some serial else none)
          status).run u).2.recorder := fun u hu hb status => by
    have hpos : (if s.recorder.isRecording = true then some serial else none) = some serial →
        (if s.recorder.isRecording = true then A.begun else A).inFlight ≠ 0 := by
      cases s.recorder.isRecording <;> simp [Account.begun]
    have hended := hb.accords_endCall (hu ▸ hbegun) (.ofCall resource init) hpos status
    rw [hu, hnow] at hended
    cases hr : s.recorder.isRecording <;> simpa [hr] using hended
  unfold Scene.fetch
  dsimp only
  rw [Course.run_bind, hrun]
  cases offline with
  | true => exact hend t rfl hbooks 0
  | false => exact hend { t with log := t.log ++ [.request (.ofCall resource init)] } rfl (hbooks.withLog _) status

/-- A call is made, and the page goes on. -/
lemma accords_startCall (h : s.Books serial A N) (ha : Accords may moments s.recorder) (key : String)
    (resource : Page.Resource) (init : Datum) :
    Accords may ((if s.recorder.isRecording = true then [.started s.recorder.clock.now] else []) ++ moments)
      ((Scene.startCall key resource init).run s).2.recorder := by
  obtain ⟨t, hrun, -, -⟩ := h.countCall
  obtain ⟨-, hbegun⟩ := h.accords_countCall ha
  rw [hrun] at hbegun
  unfold Scene.startCall
  dsimp only
  rw [Course.run_bind, hrun]
  exact hbegun

/-- A call that was begun before ends, if there is one. -/
lemma accords_settleCall (h : s.Books serial A N) (ha : Accords may moments s.recorder) {key : String}
    (hpos : ∀ call, N.calls.lookup key = some call → call.countedBy = some serial → A.inFlight ≠ 0) (status : ℤ) :
    Accords may ((if (N.calls.lookup key).bind (·.countedBy) = some serial then [.settled s.recorder.clock.now] else
      []) ++ moments) ((Scene.settleCall key status).run s).2.recorder := by
  have hcalls : s.page.calls = N.calls := congrArg Network.calls h.network
  unfold Scene.settleCall
  rw [Course.run_bind, Course.run_get]
  simp only [hcalls]
  cases hlookup : N.calls.lookup key with
  | none => simpa using ha
  | some call =>
    have hdropped := h.changePage (f := fun p => { p with calls := p.calls.filter (·.1 != key) })
      (g := (·.dropCall key)) rfl rfl
    dsimp only
    rw [Course.run_bind, show (Scene.changePage _).run s = (.ok ⟨⟩, _) from rfl]
    dsimp only
    rw [Course.run_map]
    exact hdropped.accords_endCall ha call.request (hpos call hlookup) status

/-- A request object is opened. -/
lemma accords_openExchange (h : s.Books serial A N) (ha : Accords may moments s.recorder) (key method : String)
    (url : Datum) : Accords may moments ((Scene.openExchange key method url).run s).2.recorder := by
  unfold Scene.openExchange
  rw [Course.run_bind, Course.run_get]
  dsimp only
  split
  · exact ha
  · simp only [h.layers, List.isEmpty_cons, Bool.not_false, if_true]
    rw [Course.run_bind, byRecorder_run]
    exact (ha.requestOpened _ _ _).forget []

/-- A request object is sent, as it must be or not. -/
lemma accords_sendExchange (h : s.Books serial A N) (ha : Accords may moments s.recorder) (key : String)
    (arguments : List Datum) : Accords may ((match N.exchanges.lookup key with
      | some e => if s.recorder.isRecording = true ∧ (A.opened.lookup e.number).isSome = true then
          [.started s.recorder.clock.now] else []
      | none => []) ++ moments) ((Scene.sendExchange key arguments).run s).2.recorder := by
  unfold Scene.sendExchange
  rw [Course.run_bind, Course.run_get]
  simp only [h.exchange?]
  cases hlookup : N.exchanges.lookup key with
  | none => exact ha
  | some e =>
    have hsent := (ha.requestSent? h.account e.number).forget []
    simp only [h.layers, List.isEmpty_cons, Bool.not_false, if_true]
    rw [Course.run_bind, byRecorder_run, (h.account.requestSent? e.number).1]
    generalize (if s.recorder.isRecording = true then Option.map _ _ else none) = sent
    refine (congrArg (Accords may _) ?_).mpr hsent
    -- what follows is no concern of the recorder
    have hlast : Stays (.still fun t : Scene => t.recorder) (Scene.changePage (·.changeExchange key fun e =>
        { e with body := arguments.headD .null, phase := .sent })) := .of_leads fun _ _ => rfl
    cases sent with
    | none => exact (Stays.throwIf fun _ => Stays.throwIf fun _ => hlast).leads trivial trivial
    | some sent =>
      exact (Stays.bind (.of_leads fun _ _ => rfl) fun _ =>
        .throwIf fun _ => .throwIf fun _ => hlast).leads trivial trivial

end Books

end Recorder

/-! ### What is no request -/

lemma beside_forget (r : Recorder) : Beside may r { r with notices := [] } :=
  ⟨linked_forget, rfl, rfl, fun _ _ => Iff.rfl, .inr rfl, le_rfl⟩

/-- The course on which the recorder leaves the network alone. -/
def alongside : Course Scene where
  holds := Orderly
  leads s t := Path false s t ∧ Beside {} s.recorder t.recorder
  refl s := ⟨.refl, .refl s.recorder⟩
  trans h h' := ⟨h.1.trans h'.1, h.2.trans h'.2⟩
  keeps h hs := (course false).keeps h.1 hs

instance : Admits alongside false true false true true where
  orderly h := h
  changed page browser listeners observers log _ hr hn _ _ _ _ :=
    ⟨.single (.changed _ page browser listeners observers log hr hn), .refl _⟩
  obeyed signal hs hin hc _ ht := by
    refine ⟨.single (.obeyed _ signal _ hin hc), ?_⟩
    have hcounts : signal.counts = false := Bool.eq_false_iff.2 fun h => absurd (hc h) nofun
    have houtside : signal.isOutside = false := Bool.eq_false_iff.2 fun h => absurd (ht h) nofun
    obtain ⟨haside, hedits⟩ := Signal.isAside_of hin hcounts houtside
    refine (hs.linked.obey_beside haside fun he => ?_).trans (beside_forget _)
    rw [hedits] at he
    cases he

/-- **What is no request and lets no time pass leaves the network alone.** -/
lemma Orderly.perform_beside (h : s.Orderly) {a : Action} (hin : a.isInner = true) (hr : a.isRequest = false)
    (ho : a.isOutside = false) : Beside may s.recorder ((perform a).run s).2.recorder := by
  have hb : Beside {} s.recorder ((perform a).run s).2.recorder := ((perform_runs (C := alongside) a hin
    (fun h => by rw [hr] at h; cases h) (.inr rfl) (fun h => by rw [ho] at h; cases h) (fun _ => rfl)
    fun _ => rfl).leads h trivial).2
  exact ⟨hb.linked, hb.config, hb.traffic, hb.timers, .inr (hb.waits.resolve_left nofun), hb.now⟩

/-- The recorder gets a signal that leaves the network alone. -/
lemma Orderly.signal_beside (h : s.Orderly) {α : Type} {act : Page → Recorder.Act α} {signal : Signal}
    (he : signal.edits = true → may.edits = true) (hact : signal.act = discard (act s.page))
    (ha : signal.isAside = true) : Beside may s.recorder ((byRecorder act).run s).2.recorder := by
  rw [snd_byRecorder_recorder, snd_run_eq_obey hact]
  exact (h.linked.obey_beside ha he).trans (beside_forget _)

/-! ### The diary -/

namespace Ledger

/-- A request begins that has no name. -/
def enterNameless (L : Ledger) (url method : String) : Ledger :=
  { L with underWay := (none, url, method) :: L.underWay }

/-- A request ends that has no name. -/
def settleNameless (L : Ledger) (url method : String) (status : ℤ) (recording : Bool) : Ledger :=
  { L with
    underWay := L.underWay.eraseP (·.1.isNone)
    answered := if recording = true then L.answered ++ [(url, method, status)] else L.answered }

end Ledger

namespace Ledger

variable {L : Ledger} {url method : String} {status : ℤ} {recording : Bool}

/-- How many of the requests under way have no name. -/
def nameless (L : Ledger) : ℕ := L.underWay.countP (·.1.isNone)

lemma nameless_next (L : Ledger) (s : Scene) (a : Action) : L.nameless ≤ (L.next s a).nameless := by
  have release : ∀ name, L.nameless ≤ (L.release name).nameless := fun name => by
    unfold nameless Ledger.release
    rw [List.countP_map]
    refine List.countP_mono_left fun x _ hx => ?_
    rw [Option.isNone_iff_eq_none] at hx
    simp [hx]
  have enter : ∀ (L : Ledger) name url method, L.nameless ≤ (L.enter name url method).nameless := fun L name _ _ => by
    simp [nameless, Ledger.enter]
  have settle : ∀ name status recording, L.nameless ≤ (L.settle name status recording).nameless := fun name _ _ => by
    unfold nameless Ledger.settle
    rw [List.countP_filter]
    refine List.countP_mono_left fun x _ hx => ?_
    rw [Option.isNone_iff_eq_none] at hx
    simp [hx]
  cases a with
  | startCall key resource init =>
    dsimp only [Ledger.next]
    split
    · exact (release _).trans (enter _ _ _ _)
    · exact release _
  | settleCall key status => exact settle _ _ _
  | sendExchange key arguments =>
    dsimp only [Ledger.next]
    split
    · split
      · exact enter _ _ _ _
      · exact le_rfl
    · exact le_rfl
  | respond key status text | fail key =>
    dsimp only [Ledger.next]
    split
    · exact settle _ _ _
    · exact le_rfl
  | fetch resource init status offline | openExchange key method url =>
    dsimp only [Ledger.next]
    split <;> exact le_rfl
  | _ => exact le_rfl

lemma Matches.enterNameless (h : L.Matches serial A N) (url method : String) :
    (L.enterNameless url method).Matches serial A.begun N :=
  { h with
    inFlight := congrArg (· + 1) h.inFlight
    distinct := List.pairwise_cons.2 ⟨fun _ _ => .inl rfl, h.distinct⟩
    calls := fun key info => by
      rw [Ledger.enterNameless, List.mem_cons, or_iff_right (by simp), h.calls]
    exchanges := fun n info hmem => h.exchanges n info (by simpa [Ledger.enterNameless] using hmem)
    heard := fun _ hx hsent => h.heard_onward hx hsent fun _ hmem => by simpa [Ledger.enterNameless] using hmem }

lemma mem_settleNameless {name : Name} {info : String × String} :
    (some name, info) ∈ (L.settleNameless url method status recording).underWay ↔ (some name, info) ∈ L.underWay :=
  List.mem_eraseP_of_neg (by simp)

lemma nameless_pos (hpos : 0 < L.nameless) : ∃ x ∈ L.underWay, x.1.isNone = true := List.countP_pos_iff.1 hpos

lemma length_settleNameless (hpos : 0 < L.nameless) :
    (L.settleNameless url method status recording).underWay.length = L.underWay.length - 1 := by
  obtain ⟨x, hx, hnone⟩ := nameless_pos hpos
  exact List.length_eraseP_of_mem hx hnone

lemma nameless_settleNameless (L : Ledger) :
    (L.settleNameless url method status recording).nameless = L.nameless - 1 := by
  unfold nameless Ledger.settleNameless
  induction L.underWay with
  | nil => rfl
  | cons x rest ih =>
    cases hx : x.1.isNone with
    | true => simp [hx]
    | false => simpa [hx, List.countP_cons] using ih

lemma Matches.settleNameless (h : L.Matches serial A N) (hpos : 0 < L.nameless) (url method : String) (status : ℤ)
    (recording : Bool) :
    (L.settleNameless url method status recording).Matches serial (A.ended recording url method status) N :=
  { h with
    inFlight := by
      rw [length_settleNameless hpos, ← h.inFlight]
      rfl
    answered := by
      unfold Ledger.settleNameless Account.ended
      rw [h.answered]
    distinct := h.distinct.sublist List.eraseP_sublist
    calls := fun key info => by rw [mem_settleNameless, h.calls]
    exchanges := fun n info hmem => h.exchanges n info (mem_settleNameless.1 hmem)
    heard := fun _ hx hsent => h.heard_onward hx hsent fun _ hmem => mem_settleNameless.1 hmem }

end Ledger

/-- **What an onlooker writes down who also looks at the clock**: the ledger of the session, the requests in it that the
recorder is told of by others than the page, by the names that the browser gives them or by none, and the moments of
the session, newest first. -/
structure Diary where
  ledger : Ledger := {}
  told : List (Option String) := []
  moments : List Moment := []

/-- A request that the browser reports is counted: its address and its method. -/
def reportedCount? (s : Scene) (key : String) (reported : Reported) : Option (String × String) :=
  let known := (s.browser.reported.lookup key).getD reported
  if s.browser.isLinked && s.recorder.isRecording && countedResources.contains known.resource then
    some (known.url, Text.upper known.method) else none

namespace Diary

/-- The ledger after an action. -/
def nextLedger (D : Diary) (s : Scene) : Action → Ledger
  | .requestBegun => D.ledger.enterNameless "" ""
  | .requestEnded url method status => D.ledger.settleNameless url method status s.recorder.isRecording
  | .requestReported key reported => match s.reportedCount? key reported with
    | some (url, method) => D.ledger.enterNameless url method
    | none => D.ledger
  | .endReported key status => match s.browser.counted.lookup key with
    | some (url, method) => D.ledger.settleNameless url method status s.recorder.isRecording
    | none => D.ledger
  | a => D.ledger.next s a

/-- The requests that the recorder has been told of after an action. -/
def nextTold (D : Diary) (s : Scene) : Action → List (Option String)
  | .requestBegun => none :: D.told
  | .requestEnded _ _ _ => D.told.erase none
  | .requestReported key reported =>
    if (s.reportedCount? key reported).isSome = true then some key :: D.told else D.told
  | .endReported key _ => if (s.browser.counted.lookup key).isSome = true then D.told.erase (some key) else D.told
  | _ => D.told

/-- The moment in which there come to be more or fewer requests under way. -/
def turn (before after : ℕ) (now : ℚ) : List Moment :=
  if before < after then [.started now] else if after < before then [.settled now] else []

/-- The moments of an action, newest first. -/
def news (D : Diary) (s : Scene) : Action → List Moment
  | .fetch _ _ _ _ => if s.recorder.isRecording = true then
      [.settled s.recorder.clock.now, .started s.recorder.clock.now] else []
  | .advance ms => Recorder.waitsOf s.page ((Signal.advance s.page ms).rings s.recorder)
  | .runAll => Recorder.waitsOf s.page ((Signal.runAll s.page).rings s.recorder)
  | .stop => Recorder.endOf s.recorder (s.step .stop).scene.recorder
  | a => turn D.ledger.underWay.length (D.nextLedger s a).underWay.length s.recorder.clock.now

/-- **What is written down of an action**, from the scene before it. -/
def next (D : Diary) (s : Scene) (a : Action) : Diary where
  ledger := D.nextLedger s a
  told := D.nextTold s a
  moments := D.news s a ++ D.moments

/-- What may happen within a session, to the moment when it is stopped: the clock does not go back, the page does what
it may, and of each request that the recorder is told of by others than the page it is told while recording, and later
that it has ended, once. -/
def Proper (D : Diary) (s : Scene) (a : Action) : Prop :=
  s.recorder.active.isSome = true ∧ match a with
    | .stop => True
    | .advance ms => 0 ≤ ms
    | .requestBegun => s.recorder.isRecording = true
    | .requestEnded _ _ _ => none ∈ D.told
    | .requestReported _ _ => True
    | .endReported key _ => (s.browser.counted.lookup key).isSome = true → some key ∈ D.told
    | a => D.ledger.Proper s a

/-- What is written down of actions one after another. -/
def run (D : Diary) (s : Scene) : List Action → Diary
  | [] => D
  | a :: rest => (D.next s a).run (s.step a).scene rest

/-- Nothing else happens than may. -/
def ProperRun (D : Diary) (s : Scene) : List Action → Prop
  | [] => True
  | a :: rest => D.Proper s a ∧ (D.next s a).ProperRun (s.step a).scene rest

variable {D : Diary}

lemma turn_self (n : ℕ) (now : ℚ) : turn n n now = [] := by simp [turn]

lemma turn_of_more {n m : ℕ} (h : m = n + 1) (now : ℚ) : turn n m now = [.started now] := by
  simp [turn, h]

lemma turn_of_fewer {n m : ℕ} (h : m = n - 1) (hpos : n ≠ 0) (now : ℚ) : turn n m now = [.settled now] := by
  unfold turn
  rw [if_neg (by omega), if_pos (by omega)]

/-- **The diary is that of a session**: its moments are those of its steps, and as long as the session is active, the
ledger is that of what it counts, and the recorder accords with the moments. -/
structure Tells (D : Diary) (may : Leave) (serial : ℕ) (s : Scene) : Prop where
  chronicle : Chronicle may D.moments s.recorder.config s.recorder.clock.now s.recorder.sessionSteps
  active : s.recorder.active.isSome = true →
    D.ledger.Tallies serial s ∧ D.told.length ≤ D.ledger.nameless ∧ Accords may D.moments s.recorder

lemma Tells.withLog (h : D.Tells may serial s) (log : List Entry) : D.Tells may serial { s with log } where
  chronicle := h.chronicle
  active hgoes := (h.active hgoes).imp_left fun ⟨A, N, hb, hm⟩ => ⟨A, N, hb.withLog log, hm⟩

lemma Tells.of_active (hl : D.ledger.Tallies serial s) (ht : D.told.length ≤ D.ledger.nameless)
    (ha : Accords may D.moments s.recorder) : D.Tells may serial s where
  chronicle := by
    obtain ⟨a, h⟩ := ha.exists_active
    rw [Recorder.sessionSteps_of_active h]
    exact ha.chronicle
  active _ := ⟨hl, ht, ha⟩

/-! ### Steps -/

section Step

/-- **What the page does**, and all else that happens in a session, as long as it is not stopped. -/
lemma Tells.page (hl : D.ledger.Tallies serial s) (ht : D.told.length ≤ D.ledger.nameless) (hs : Reachable s)
    {a : Action} (hp : D.ledger.Proper s a) (hledger : D.nextLedger s a = D.ledger.next s a)
    (htold : D.nextTold s a = D.told)
    (ha : Accords may (D.news s a ++ D.moments) ((perform a).run { s with log := [] }).2.recorder) :
    (D.next s a).Tells may serial (s.step a).scene := by
  refine .of_active ?_ ?_ ha
  · show (D.nextLedger s a).Tallies serial _
    rw [hledger]
    exact hl.step hs.attached.toOrderly hp
  · show (D.nextTold s a).length ≤ (D.nextLedger s a).nameless
    rw [hledger, htold]
    exact ht.trans (D.ledger.nameless_next s a)

lemma turn_settle {L : Ledger} (h : L.Distinct) {name : Name} {info : String × String}
    (hmem : (some name, info) ∈ L.underWay) (status : ℤ) (recording : Bool) (now : ℚ) :
    turn L.underWay.length (L.settle name status recording).underWay.length now = [.settled now] :=
  turn_of_fewer (h.length_settle hmem) (List.length_pos_of_mem hmem).ne' now

lemma turn_settle_of_absent {L : Ledger} {name : Name} (h : ∀ info, (some name, info) ∉ L.underWay) (status : ℤ)
    (recording : Bool) (now : ℚ) :
    turn L.underWay.length (L.settle name status recording).underWay.length now = [] := by
  rw [Ledger.settle_of_absent h]
  exact turn_self _ now

/-- What is written down when a call begins. -/
lemma news_startCall (D : Diary) (s : Scene) (key : String) (resource : Page.Resource) (init : Datum) :
    D.news s (.startCall key resource init) =
      if s.recorder.isRecording = true then [.started s.recorder.clock.now] else [] := by
  simp only [news, nextLedger, Ledger.next]
  split
  · exact turn_of_more (by simp [Ledger.enter, Ledger.release]) _
  · simp [Ledger.release, turn_self]

/-- A call that counts in the session is under way until it is settled. -/
lemma underWay_of_call (hm : D.ledger.Matches serial A N) {key : String} {call : Page.Call}
    (hcall : N.calls.lookup key = some call) (hby : call.countedBy = some serial) :
    (some (.call key), call.request.url, call.request.method) ∈ D.ledger.underWay :=
  (hm.calls key _).2 ⟨call, hcall, hby, rfl⟩

/-- What is written down when a call is settled. -/
lemma news_settleCall (hm : D.ledger.Matches serial A N) (s : Scene) (key : String) (status : ℤ) :
    D.news s (.settleCall key status) =
      if (N.calls.lookup key).bind (·.countedBy) = some serial then [.settled s.recorder.clock.now] else [] := by
  split
  · rename_i hby
    obtain ⟨call, hcall, hby⟩ := Option.bind_eq_some_iff.1 hby
    exact turn_settle hm.distinct (underWay_of_call hm hcall hby) _ _ _
  · rename_i hby
    refine turn_settle_of_absent (fun info hmem => hby ?_) _ _ _
    obtain ⟨call, hcall, hby, -⟩ := (hm.calls key info).1 hmem
    rw [hcall]
    exact hby

/-- Nothing is written down when a request object is opened. -/
lemma news_openExchange (D : Diary) (s : Scene) (key method : String) (url : Datum) :
    D.news s (.openExchange key method url) = [] := by
  simp only [news, nextLedger, Ledger.next]
  split <;> exact turn_self _ _

/-- What is written down when a request object is sent. -/
lemma news_sendExchange (hb : s.Books serial A N) (hm : D.ledger.Matches serial A N) {key : String}
    {arguments : List Datum} (hp : D.ledger.Proper s (.sendExchange key arguments)) :
    D.news s (.sendExchange key arguments) = match N.exchanges.lookup key with
      | some e => if s.recorder.isRecording = true ∧ (A.opened.lookup e.number).isSome = true then
          [.started s.recorder.clock.now] else []
      | none => [] := by
  simp only [news, nextLedger, Ledger.next, hb.exchange?]
  cases hlookup : N.exchanges.lookup key with
  | none => exact turn_self _ _
  | some e =>
    cases hr : s.recorder.isRecording with
    | false => simp [turn_self]
    | true =>
      -- an object that was sent in this session may not be sent again
      have hnew : e.number ∉ D.ledger.sent := fun hsent =>
        (hp e (by rw [hb.exchange?, hlookup]) hr (hm.known _ hsent).2).1 hsent
      dsimp only
      rw [hm.opened _ hnew]
      cases D.ledger.opened.lookup e.number with
      | none => simp [turn_self]
      | some info => simpa using turn_of_more (by simp [Ledger.enter]) s.recorder.clock.now

/-- A request object ends. -/
lemma accords_finish (hb : s.Books serial A N) (hm : D.ledger.Matches serial A N) {bound : ℕ} (hN : N.Numbered bound)
    (ha : Accords may D.moments s.recorder) {key type : String} (ht : type ≠ "loadend") {f : Exchange → Exchange}
    {status : ℤ} (hf : ∀ e, (f e).number = e.number ∧ (f e).hearers = e.hearers)
    (hp : ∀ e, s.page.exchange? key = some e → e.number ∈ D.ledger.sent →
      ∃ x ∈ D.ledger.underWay, x.1 = some (.exchange e.number)) :
    Accords may (turn D.ledger.underWay.length (match s.page.exchange? key with
        | some e => D.ledger.settle (.exchange e.number) status s.recorder.isRecording
        | none => D.ledger).underWay.length s.recorder.clock.now ++ D.moments)
      ((endExchange key type f).run s).2.recorder := by
  rw [hb.exchange?]
  cases hlookup : N.exchanges.lookup key with
  | none =>
    dsimp only
    rw [turn_self, (hb.endExchange_of_none type f hlookup).1]
    exact ha
  | some e =>
    have hmem := mem_of_lookup hlookup
    obtain ⟨hother, hown⟩ := hb.endExchange ht hlookup (hf e).1 (hf e).2 (hN.hearers _ hmem)
    dsimp only
    by_cases hsent : e.number ∈ D.ledger.sent
    · obtain ⟨⟨name, info⟩, hx, rfl⟩ := hp e (by rw [hb.exchange?, hlookup]) hsent
      obtain ⟨info', hheard, hall⟩ := hm.heard _ hmem hsent
      obtain rfl := hall info hx
      rw [turn_settle hm.distinct hx, (hown info.1 info.2 hheard).1]
      refine (ha.requestDone hb.account ?_ _ _ _ _).forget []
      rw [hm.inFlight]
      exact (List.length_pos_of_mem hx).ne'
    · rw [turn_settle_of_absent fun info hx => hsent (hm.exchanges _ _ hx), (hother (hm.unsent _ hmem hsent)).1]
      exact ha

/-- The requests of the page, and what becomes of its request objects. -/
lemma accords_request (hb : s.Books serial A N) (hm : D.ledger.Matches serial A N)
    (hN : N.Numbered s.recorder.nextSerial) (ha : Accords may D.moments s.recorder) {a : Action}
    (hreq : a.isRequest = true) (hp : D.ledger.Proper s a) :
    Accords may (D.news s a ++ D.moments) ((perform a).run s).2.recorder := by
  cases a with
  | fetch resource init status offline =>
    unfold perform
    rw [snd_run_map]
    exact hb.accords_fetch ha resource init status offline
  | startCall key resource init =>
    unfold perform
    rw [snd_run_unanswered, news_startCall]
    exact hb.accords_startCall ha key resource init
  | settleCall key status =>
    unfold perform
    rw [snd_run_map, news_settleCall hm]
    refine hb.accords_settleCall ha (fun call hcall hby => ?_) status
    rw [hm.inFlight]
    exact (List.length_pos_of_mem (underWay_of_call hm hcall hby)).ne'
  | makeExchange key =>
    have hnews : D.news s (.makeExchange key) = [] := turn_self _ _
    rw [hnews]
    exact ha
  | hearExchange key type behaviour =>
    have hnews : D.news s (.hearExchange key type behaviour) = [] := turn_self _ _
    rw [hnews]
    exact ha
  | openExchange key method url =>
    unfold perform
    rw [snd_run_unanswered, news_openExchange]
    exact hb.accords_openExchange ha key method url
  | sendExchange key arguments =>
    unfold perform
    rw [snd_run_unanswered, news_sendExchange hb hm hp]
    exact hb.accords_sendExchange ha key arguments
  | respond key status text =>
    unfold perform
    rw [snd_run_unanswered]
    exact accords_finish hb hm hN ha (by decide) (fun _ => ⟨rfl, rfl⟩) hp
  | fail key =>
    unfold perform
    rw [snd_run_unanswered]
    exact accords_finish hb hm hN ha (by decide) (fun _ => ⟨rfl, rfl⟩) hp
  | requestBegun => exact hp.elim
  | requestEnded url method status => exact hp.elim
  | requestReported key reported => exact hp.elim
  | endReported key status => exact hp.elim
  | _ => cases hreq

/-- All else that happens in a session. -/
lemma accords_quiet (ho : s.Orderly) (ha : Accords may D.moments s.recorder) {a : Action} (hin : a.isInner = true)
    (hreq : a.isRequest = false) (hout : a.isOutside = false) :
    Accords may (D.news s a ++ D.moments) ((perform a).run s).2.recorder := by
  have hnews : D.news s a = [] := by
    cases a with
    | stop => cases hin
    | advance ms | runAll => cases hout
    | fetch resource init status offline | startCall key resource init | settleCall key status => cases hreq
    | openExchange key method url | sendExchange key arguments | respond key status text | fail key => cases hreq
    | requestBegun | requestEnded url method status | requestReported key reported | endReported key status =>
      cases hreq
    | _ => exact turn_self _ _
  rw [hnews]
  exact ha.beside (ho.perform_beside hin hreq hout)

/-- Time passes, the session is paused or goes on, or steps are edited by hand. -/
lemma accords_outside (ho : s.Orderly) (ha : Accords may D.moments s.recorder) {a : Action} (hout : a.isOutside = true)
    (he : a.edits = true → may.edits = true) (hback : ∀ ms, a = .advance ms → 0 ≤ ms) :
    Accords may (D.news s a ++ D.moments) ((perform a).run s).2.recorder := by
  have unchanged : ∀ (signal : Signal) {b : Action} {α : Type} {act : Page → Recorder.Act α},
      D.news s b = [] → (signal.edits = true → may.edits = true) → signal.act = discard (act s.page) →
        signal.isAside = true → Accords may (D.news s b ++ D.moments) ((byRecorder act).run s).2.recorder :=
    fun _ _ _ _ hnews he hact haside => by
      rw [hnews]
      exact ha.beside (ho.signal_beside he hact haside)
  cases a with
  | pause =>
    unfold perform
    rw [snd_run_map]
    exact unchanged (.pause s.page) (turn_self _ _) nofun rfl rfl
  | resume =>
    unfold perform
    rw [snd_run_map]
    exact unchanged .resume (turn_self _ _) nofun rfl rfl
  | addStep step =>
    unfold perform
    rw [snd_run_map]
    exact unchanged (.addByHand s.page step) (turn_self _ _) (fun _ => he rfl) rfl rfl
  | removeStep index =>
    unfold perform
    rw [snd_run_map]
    exact unchanged (.removeStep index) (turn_self _ _) (fun _ => he rfl) rfl rfl
  | updateStep index value waitTimeout =>
    unfold perform
    rw [snd_run_map]
    exact unchanged (.updateStep index value waitTimeout) (turn_self _ _) (fun _ => he rfl) rfl rfl
  | advance ms =>
    unfold perform
    rw [snd_run_unanswered, snd_byRecorder_recorder]
    refine Accords.forget ?_ []
    unfold Recorder.advance
    rw [Course.run_bind, Course.run_get]
    exact ha.advanceTo s.page (le_add_of_nonneg_right (hback ms rfl))
  | runAll =>
    unfold perform
    rw [snd_run_unanswered, snd_byRecorder_recorder]
    refine Accords.forget ?_ []
    unfold Recorder.runAll
    rw [Course.run_bind, Course.run_get]
    exact ha.runTimers s.page _
  | _ => cases hout

/-! #### Requests that the recorder is told of by others than the page -/

lemma Tells.begun (hb : s.Books serial A N) (hm : D.ledger.Matches serial A N) (ht : D.told.length ≤ D.ledger.nameless)
    (ha : Accords may D.moments s.recorder) (name : Option String) (url method : String) {t : Scene}
    (hr : t.recorder = s.recorder) (hp : t.page = s.page) :
    Tells ⟨D.ledger.enterNameless url method, name :: D.told, .started s.recorder.clock.now :: D.moments⟩ may serial
      ((byRecorder fun _ => Recorder.requestBegun).run t).2 := by
  rw [← hr] at ha ⊢
  have hb := hb.congr hr hp
  refine .of_active ⟨_, _, hb.byRecorder (fun _ => Recorder.requestBegun) .requestBegun rfl hb.account.requestBegun.2.2,
    hm.enterNameless url method⟩ ?_ ?_
  · simpa [Ledger.nameless, Ledger.enterNameless] using ht
  · rw [snd_byRecorder_recorder]
    exact ha.requestBegun.forget []

lemma Tells.ended (hb : s.Books serial A N) (hm : D.ledger.Matches serial A N) (ht : D.told.length ≤ D.ledger.nameless)
    (ha : Accords may D.moments s.recorder) {name : Option String} (hname : name ∈ D.told) (url method : String)
    (status : ℤ) {t : Scene} (hr : t.recorder = s.recorder) (hp : t.page = s.page) :
    Tells ⟨D.ledger.settleNameless url method status s.recorder.isRecording, D.told.erase name,
        .settled s.recorder.clock.now :: D.moments⟩ may serial
      ((byRecorder fun _ => Recorder.requestEnded url method status).run t).2 := by
  have hpos : 0 < D.ledger.nameless := (List.length_pos_of_mem hname).trans_le ht
  obtain ⟨x, hx, hnone⟩ := Ledger.nameless_pos hpos
  rw [← hr] at ha ⊢
  have hb := hb.congr hr hp
  have hended := hb.byRecorder (fun _ => Recorder.requestEnded url method status) (.requestEnded url method status) rfl
    (hb.account.requestEnded hb.linked url method status)
  refine .of_active ⟨_, _, hended, hm.settleNameless hpos _ _ _ _⟩ ?_ ?_
  · dsimp only
    rw [List.length_erase_of_mem hname, Ledger.nameless_settleNameless]
    exact Nat.sub_le_sub_right ht 1
  · rw [snd_byRecorder_recorder]
    refine (ha.requestEnded (Accords.inFlight_ne hb.account ?_) _ _ _).forget []
    rw [hm.inFlight]
    exact (List.length_pos_of_mem hx).ne'

/-- The browser reports that a request has begun. -/
lemma Tells.requestReported (hb : s.Books serial A N) (hm : D.ledger.Matches serial A N)
    (ht : D.told.length ≤ D.ledger.nameless) (ha : Accords may D.moments s.recorder) (key : String)
    (reported : Reported) : (D.next s (.requestReported key reported)).Tells may serial
      ((Scene.requestReported key reported).run s).2 := by
  unfold Scene.requestReported
  rw [Course.run_bind, Course.run_get]
  dsimp only
  rw [Course.run_bind, show (changeBrowser _).run s = (.ok ⟨⟩, _) from rfl]
  dsimp only
  rw [Course.run_bind, Course.run_get]
  dsimp only
  split <;> rename_i hcount
  · obtain ⟨url, method, hsome⟩ : ∃ url method, s.reportedCount? key reported = some (url, method) :=
      ⟨_, _, if_pos hcount⟩
    have hnext : D.next s (.requestReported key reported) = ⟨D.ledger.enterNameless url method, some key :: D.told,
        .started s.recorder.clock.now :: D.moments⟩ := by
      simp only [next, nextLedger, nextTold, news, hsome, Option.isSome_some, if_true]
      rw [turn_of_more (by simp [Ledger.enterNameless])]
      rfl
    rw [hnext, Course.run_bind, show (changeBrowser _).run _ = (.ok ⟨⟩, _) from rfl]
    exact Tells.begun hb hm ht ha _ _ _ rfl rfl
  · have hnone : s.reportedCount? key reported = none := if_neg hcount
    have hnext : D.next s (.requestReported key reported) = D := by
      simp [next, nextLedger, nextTold, news, hnone, turn_self]
    rw [hnext]
    exact .of_active ⟨_, _, hb.congr rfl rfl, hm⟩ ht ha

/-- The browser reports that a request has ended. -/
lemma Tells.endReported (hb : s.Books serial A N) (hm : D.ledger.Matches serial A N)
    (ht : D.told.length ≤ D.ledger.nameless) (ha : Accords may D.moments s.recorder) {key : String} {status : ℤ}
    (hp : D.Proper s (.endReported key status)) : (D.next s (.endReported key status)).Tells may serial
      ((Scene.endReported key status).run s).2 := by
  unfold Scene.endReported
  rw [Course.run_bind, Course.run_get]
  dsimp only
  split <;> rename_i hlookup
  · have hnext : D.next s (.endReported key status) = D := by
      simp [next, nextLedger, nextTold, news, hlookup, turn_self]
    rw [hnext]
    exact .of_active ⟨_, _, hb, hm⟩ ht ha
  · rename_i url method
    have hname : some key ∈ D.told := hp.2 (by rw [hlookup]; rfl)
    have hpos : 0 < D.ledger.nameless := (List.length_pos_of_mem hname).trans_le ht
    obtain ⟨x, hx, -⟩ := Ledger.nameless_pos hpos
    have hnext : D.next s (.endReported key status) = ⟨
        D.ledger.settleNameless url method status s.recorder.isRecording, D.told.erase (some key),
        .settled s.recorder.clock.now :: D.moments⟩ := by
      simp only [next, nextLedger, nextTold, news, hlookup, Option.isSome_some, if_true]
      rw [turn_of_fewer (Ledger.length_settleNameless hpos) (List.length_pos_of_mem hx).ne']
      rfl
    rw [hnext, Course.run_bind, show (changeBrowser _).run _ = (.ok ⟨⟩, _) from rfl]
    simp only [hp.1, if_true]
    exact Tells.ended hb hm ht ha hname _ _ _ rfl rfl

/-- A session is stopped, or that fails. -/
lemma Tells.stop (hb : s.Books serial A N) (hm : D.ledger.Matches serial A N) (ht : D.told.length ≤ D.ledger.nameless)
    (ha : Accords may D.moments s.recorder) : Tells ⟨D.ledger, D.told, Recorder.endOf s.recorder
      (Scene.stop.run s).2.recorder ++ D.moments⟩ may serial (Scene.stop.run s).2 := by
  obtain ⟨hchronicle, hactive⟩ := ha.stop s.page
  have hrecorder := recorder_stop s
  refine ⟨by rw [hrecorder]; exact hchronicle, fun hgoes => ⟨?_, ht, ?_⟩⟩
  · obtain ⟨r, hpath, ⟨fault, hrun⟩ | ⟨session, hrun⟩⟩ := stop_run hb.linked <;> rw [hrun] at hgoes ⊢
    · have haccount := hpath.accounts rfl hb.account
      exact ⟨A, N, ⟨linked_forget (hpath.linked hb.linked), rfl, hb.layers, haccount, hb.network⟩, hm⟩
    · rw [show Recorder.active _ = none from Recorder.conclude_active r] at hgoes
      cases hgoes
  · rw [hrecorder] at hgoes ⊢
    exact (hactive hgoes).forget []

/-- **Whatever happens in a session, the diary stays that of it**, to the moment when it is stopped. -/
theorem Tells.step (h : D.Tells may serial s) (hs : Reachable s) {a : Action} (hp : D.Proper s a)
    (he : a.edits = true → may.edits = true) : (D.next s a).Tells may serial (s.step a).scene := by
  obtain ⟨hl, ht, ha⟩ := h.active hp.1
  obtain ⟨A, N, hb, hm⟩ := id hl
  have hb' : ({ s with log := [] } : Scene).Books serial A N := hb.withLog []
  have ho : s.Orderly := hs.attached.toOrderly
  have ho' : ({ s with log := [] } : Scene).Orderly := ⟨ho.linked, ho.notices, ho.serial, ho.layers, ho.network⟩
  have hN : N.Numbered s.recorder.nextSerial := hb.network ▸ ho.network
  have request : ∀ {a : Action}, a.isRequest = true → D.ledger.Proper s a →
      Accords may (D.news s a ++ D.moments) ((perform a).run { s with log := [] }).2.recorder :=
    fun hreq hp => accords_request hb' hm hN ha hreq hp
  have outside : ∀ {a : Action}, a.isOutside = true → (a.edits = true → may.edits = true) →
      (∀ ms, a = .advance ms → 0 ≤ ms) →
        Accords may (D.news s a ++ D.moments) ((perform a).run { s with log := [] }).2.recorder :=
    fun hout he hback => accords_outside ho' ha hout he hback
  have quiet : ∀ {a : Action}, a.isInner = true → a.isRequest = false → a.isOutside = false →
      Accords may (D.news s a ++ D.moments) ((perform a).run { s with log := [] }).2.recorder :=
    fun hin hreq hout => accords_quiet ho' ha hin hreq hout
  have finish : ∀ {a : Action}, (D.next s a).Tells may serial ((perform a).run { s with log := [] }).2 →
      (D.next s a).Tells may serial (s.step a).scene := fun h => h.withLog []
  cases a with
  | start | clear => exact hp.2.elim
  | stop =>
    refine finish (a := .stop) ?_
    have hrun : ((perform .stop).run { s with log := [] }).2 = (Scene.stop.run { s with log := [] }).2 :=
      snd_run_map Answer.session Scene.stop _
    have hnext : D.next s .stop = ⟨D.ledger, D.told, Recorder.endOf s.recorder
        ((perform .stop).run { s with log := [] }).2.recorder ++ D.moments⟩ := rfl
    rw [hnext, hrun]
    exact Tells.stop hb' hm ht ha
  | requestBegun =>
    refine finish (a := .requestBegun) ?_
    have hnext : D.next s .requestBegun = ⟨D.ledger.enterNameless "" "", none :: D.told,
        .started s.recorder.clock.now :: D.moments⟩ := by
      simp only [next, nextLedger, nextTold, news]
      rw [turn_of_more (by simp [Ledger.enterNameless])]
      rfl
    rw [hnext, perform, snd_run_unanswered]
    exact Tells.begun hb hm ht ha none "" "" rfl rfl
  | requestEnded url method status =>
    refine finish (a := .requestEnded url method status) ?_
    have hpos : 0 < D.ledger.nameless := (List.length_pos_of_mem hp.2).trans_le ht
    obtain ⟨x, hx, -⟩ := Ledger.nameless_pos hpos
    have hnext : D.next s (.requestEnded url method status) = ⟨
        D.ledger.settleNameless url method status s.recorder.isRecording, D.told.erase none,
        .settled s.recorder.clock.now :: D.moments⟩ := by
      simp only [next, nextLedger, nextTold, news]
      rw [turn_of_fewer (Ledger.length_settleNameless hpos) (List.length_pos_of_mem hx).ne']
      rfl
    rw [hnext, perform, snd_run_unanswered]
    exact Tells.ended hb hm ht ha hp.2 url method status rfl rfl
  | requestReported key reported =>
    refine finish (a := .requestReported key reported) ?_
    rw [perform, snd_run_unanswered]
    exact Tells.requestReported hb' hm ht ha key reported
  | endReported key status =>
    refine finish (a := .endReported key status) ?_
    rw [perform, snd_run_unanswered]
    exact Tells.endReported hb' hm ht ha hp
  | fetch | startCall | settleCall | makeExchange | openExchange | sendExchange | respond | fail | hearExchange =>
    exact .page hl ht hs hp.2 rfl rfl (request rfl hp.2)
  | advance ms => exact .page hl ht hs trivial rfl rfl (outside rfl he fun _ h => by cases h; exact hp.2)
  | runAll | pause | resume | addStep | removeStep | updateStep =>
    exact .page hl ht hs trivial rfl rfl (outside rfl he nofun)
  | _ => exact .page hl ht hs trivial rfl rfl (quiet rfl rfl rfl)

/-- **The diary of a run tells of the session.** -/
theorem Tells.run (h : D.Tells may serial s) (hs : Reachable s) {actions : List Action} (hp : D.ProperRun s actions)
    (he : may.edits = true ∨ ∀ a ∈ actions, a.edits = false) :
    (D.run s actions).Tells may serial (after s actions) := by
  induction actions generalizing D s with
  | nil => exact h
  | cons a rest ih =>
    refine ih (h.step hs hp.1 fun ha => ?_) (hs.step a) hp.2 (he.imp_right fun he b hb => he b (.tail _ hb))
    refine he.resolve_right fun he => ?_
    rw [he a List.mem_cons_self] at ha
    cases ha

end Step

/-- The recorder of a session that begins is one without a session that has begun one. -/
lemma start_begun {session : Option Session} (h : s.Attached) (hok : (start.run s).1 = .ok session) :
    ∃ (r : Recorder) (p : Page), r.active = none ∧ r.Linked ∧ r.config = s.recorder.config ∧
      (start.run s).2.recorder = { r.begun p with notices := [] } := by
  unfold start at hok ⊢
  rw [Course.run_bind, Course.run_get] at hok ⊢
  dsimp only at hok ⊢
  cases hb : s.recorder.isBound with
  | false =>
    simp only [hb, Bool.not_false, if_true] at hok
    cases hok
  | true =>
    simp only [hb, Bool.not_true, Bool.false_eq_true, if_false] at hok ⊢
    rw [Course.run_bind, Course.run_discard] at hok ⊢
    obtain ⟨r, hp, ⟨fault, hrun⟩ | ⟨session, hrun⟩⟩ := stop_run h.linked <;> rw [hrun] at hok ⊢
    · cases hok
    · exact ⟨{ r.conclude with notices := [] }, _, Recorder.conclude_active r,
        linked_forget (hp.linked h.linked).conclude, (Recorder.conclude_config r).trans hp.config, rfl⟩

/-- **The diary of a session that begins is empty.** -/
lemma Tells.begin {answer : Answer} (h : Reachable s) (hdelay : 0 ≤ s.recorder.config.idleDelay)
    (hstart : (s.step .start).result = .ok answer) :
    Tells {} may s.recorder.nextSerial (s.step .start).scene := by
  refine .of_active ⟨_, _, h.attached.books_step_start hstart, .begin h.attached.network⟩ (Nat.zero_le _) ?_
  have h' := h.attached.withLog []
  unfold Scene.step at hstart ⊢
  rw [show perform .start = Answer.session <$> start from rfl, Course.run_map] at hstart ⊢
  cases hok : (start.run { s with log := [] }).1 with
  | error fault => simp [hok, Except.map] at hstart
  | ok session =>
    obtain ⟨r, p, hn, hl, hconfig, hrecorder⟩ := start_begun h' hok
    show Accords may [] (start.run { s with log := [] }).2.recorder
    rw [hrecorder]
    exact (Accords.begun hl hn (hconfig ▸ hdelay) p).forget []

end Diary

/-- Nothing that happens changes the configuration. -/
lemma Reachable.config (h : Reachable s) (actions : List Action) :
    (Scene.after s actions).recorder.config = s.recorder.config := by
  obtain ⟨signals, -, hsignals⟩ := h.signals true actions fun _ _ _ => rfl
  rw [hsignals]
  exact h.attached.linked.config_obeyAll signals

/-- A call that ends, after which the network is idle, and another one that is under way when the session is stopped. -/
def idlingRun : List Action := [
  .startCall "list" (.address "/api/items") (.map []),
  .settleCall "list" 200,
  .advance 500,
  .startCall "more" (.address "/api/more") (.map []),
  .stop]

/-- A request object that is opened before the session begins in which it is sent, and a call that ends meanwhile. -/
def unseenRun : List Action := [
  .makeExchange "early",
  .openExchange "early" "GET" (.text "/api/early"),
  .start,
  .sendExchange "early" [],
  .fetch (.address "/api/items") (.map []) 200 false]

/-- A step that waits for an idle network, added by hand. -/
def handmadeWait : Action :=
  .addStep (.map [("type", .text "wait-for-network-idle"), ("timestamp", .int 0)])

end PageTape.Scene
