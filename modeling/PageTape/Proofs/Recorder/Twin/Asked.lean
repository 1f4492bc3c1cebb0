import PageTape.Proofs.Recorder.Twin.Waking
import Mathlib.Data.List.InsertIdx

/-!
# What twins make of what they are asked and told

Of requests, of changes of the page, and of what they are asked for by hand, two recorders that differ in what a tool
does make the same, and their sessions begin and end together.  What only one of them is told of the tool leaves them
twins (`Twin.heedOwn`, `hear_own`).
-/

namespace PageTape.Recorder.Stage

open Dom (Id Location)

variable {K : Stage} {p p' : Page} {r r' : Recorder} {a a' : Active} {changes changes' : List Page.Mutation}

/-! ### Requests -/

lemma cancelIdle_abreast : Abreast K.Twin (fun _ _ => True) cancelIdle cancelIdle := by
  refine .modify fun r r' h => ?_
  obtain ⟨ha, ha'⟩ | ⟨a, a', ha, ha', haa⟩ := h.sessions
  · rwa [ha, ha']
  · have hidle : a.traffic.idleTimer.map (fun _ => 0) = a'.traffic.idleTimer.map fun _ => 0 :=
      (congrArg Traffic.idleTimer haa.traffic :)
    rw [ha, ha', Option.bind_some, Option.bind_some]
    cases hn : a.traffic.idleTimer <;> cases hn' : a'.traffic.idleTimer <;> rw [hn, hn'] at hidle
    · exact h
    · cases hidle
    · cases hidle
    · obtain ⟨t, ht, rfl, hta⟩ := (h.neat.linked.active a ha).idle _ hn
      obtain ⟨t', ht', rfl, hta'⟩ := (h.neat'.linked.active a' ha').idle _ hn'
      simp only [changeTraffic_of_some ha, changeTraffic_of_some ha']
      exact ⟨h.takeIdle ha ha' haa ht ht' hta hta' rfl rfl (h.neat.linked.sound.cancel _)
        (h.neat'.linked.sound.cancel _), h.time⟩

/-- The timer for an idle network is set for a session. -/
lemma awaitIdle_twin (h : K.Twin r r') (hactive : r.active.isSome = true) :
    EndAbreast K.Twin (fun _ _ => True) (awaitIdle.run r) (awaitIdle.run r') := by
  refine (cancelIdle_abreast r r' h).bind_ok fun u _ s s' hrun _ _ hs => ?_
  have hruns : (course anything).Runs (fun s => s.active.isSome = true ∧ s.texts = r.texts) cancelIdle _ := cancelIdle_runs
  have hcancelled := (hruns r h.neat.linked ⟨hactive, rfl⟩).2
  rw [hrun] at hcancelled
  obtain ⟨⟨hsome, -⟩, hidle⟩ := hcancelled u rfl
  obtain ⟨ha, -⟩ | ⟨a, a', ha, ha', haa⟩ := hs.sessions
  · rw [ha] at hsome
    cases hsome
  · have hdelay : s'.config.idleDelay = s.config.idleDelay := by rw [hs.config_eq]
    rw [Course.run_modify, Course.run_modify, hdelay]
    simp only [changeTraffic_of_some ha, changeTraffic_of_some ha']
    exact .answered (hs.setIdle ha ha' haa (hidle a ha) _) trivial

/-- What is known of the network is the same, but for the timer. -/
lemma Similar.traffic (h : K.Similar r r') {α : Type} {f : Traffic → α} (hf : ∀ t, f t.unnumbered = f t) :
    r.active.map (fun a => f a.traffic) = r'.active.map fun a => f a.traffic := by
  obtain ⟨ha, ha'⟩ | ⟨a, a', ha, ha', haa⟩ := h.sessions
  · rw [ha, ha']
  · rw [ha, ha', Option.map_some, Option.map_some, ← hf, haa.traffic, hf]

/-- What is known of the network is changed in the same way, but for the timer. -/
lemma modifyTraffic_abreast (f : Recorder → Traffic → Traffic) (hf : ∀ r t, (f r t).idleTimer = t.idleTimer)
    (hfr : ∀ r r', K.Twin r r' → f r = f r') (hft : ∀ r t, (f r t).unnumbered = f r t.unnumbered) :
    Abreast K.Twin (fun _ _ => True) (modify fun r => r.changeTraffic (f r) : Act Unit)
      (modify fun r => r.changeTraffic (f r)) :=
  .modify fun r r' h => h.changeTraffic (hf r) (hf r') fun t t' ht => by rw [← hfr r r' h, hft, hft, ht]

lemma requestBegun_abreast : Abreast K.Twin (fun _ _ => True) requestBegun requestBegun :=
  (modifyTraffic_abreast (fun r t => { t with inFlight := t.inFlight + 1, lastActivity := r.clock.now })
    (fun _ _ => rfl) (fun r r' h => by rw [h.time]) fun _ _ => rfl).bind fun _ _ _ => cancelIdle_abreast

lemma requestEnded_abreast (url method : String) (status : Int) :
    Abreast K.Twin (fun _ _ => True) (requestEnded url method status) (requestEnded url method status) := by
  have hlast : Abreast K.Twin (fun _ _ => True)
      (get >>= fun s : Recorder => if s.active.any (·.traffic.inFlight == 0) then awaitIdle else pure ())
      (get >>= fun s : Recorder => if s.active.any (·.traffic.inFlight == 0) then awaitIdle else pure ()) := by
    intro r r' h
    have hnone : r.active.any (·.traffic.inFlight == 0) = r'.active.any (·.traffic.inFlight == 0) := by
      have hflight := h.traffic (f := fun t => t.inFlight == 0) fun _ => rfl
      have hany := congrArg (Option.any id) hflight
      rwa [Option.any_map, Option.any_map] at hany
    rw [Course.run_bind, Course.run_bind, Course.run_get, Course.run_get]
    dsimp only
    rw [← hnone]
    split
    · exact awaitIdle_twin h (Option.isSome_of_any ‹_›)
    · exact .answered h trivial
  refine (modifyTraffic_abreast (fun _ t => { t with inFlight := t.inFlight - 1 }) (fun _ _ => rfl) (fun _ _ _ => rfl)
    fun _ _ => rfl).bind fun _ _ _ => .bind_get fun r r' h => ?_
  rw [← h.isRecording]
  refine .ite Iff.rfl (fun _ => .pure trivial) fun _ => ?_
  dsimp only
  rw [← h.config_eq, ← h.now, ← h.time]
  refine .bind (.set (h.changeTraffic (fun _ => rfl) (fun _ => rfl) fun t t' ht => ?_)) fun _ _ _ => ?_
  · exact congrArg (fun t : Traffic => { t with
      lastActivity := r.clock.now, settledSinceIdle := true
      responses := t.responses ++ [(⟨url, method, status, r.now⟩ : Response)] }) ht
  · exact .ite Iff.rfl (fun _ => (add_abreast rfl).discard.bind fun _ _ _ => hlast) fun _ => hlast

/-- The same session is active, if one is. -/
lemma Similar.serial (h : K.Similar r r') (serial : Nat) :
    r.active.any (·.serial == serial) = r'.active.any (·.serial == serial) := by
  obtain ⟨ha, ha'⟩ | ⟨a, a', ha, ha', haa⟩ := h.sessions
  · rw [ha, ha']
  · rw [ha, ha', Option.any_some, Option.any_some, haa.serial]

lemma requestEndedIn_abreast (serial : Nat) (url method : String) (status : Int) :
    Abreast K.Twin (fun _ _ => True) (requestEndedIn serial url method status)
      (requestEndedIn serial url method status) :=
  .bind_get fun r r' h => by
    rw [h.serial]
    exact .ite Iff.rfl (fun _ => requestEnded_abreast url method status) fun _ => .pure trivial

lemma requestOpened_abreast (number : Nat) (url method : String) :
    Abreast K.Twin (fun _ _ => True) (requestOpened number url method) (requestOpened number url method) :=
  modifyTraffic_abreast (fun _ t => { t with opened := (number, url, method) :: t.opened.filter (·.1 != number) })
    (fun _ _ => rfl) (fun _ _ _ => rfl) fun _ _ => rfl

lemma requestSent?_abreast (number : Nat) :
    Abreast K.Twin (fun _ _ => True) (requestSent? number) (requestSent? number) := by
  refine .bind_get fun r r' h => ?_
  obtain ⟨ha, ha'⟩ | ⟨a, a', ha, ha', haa⟩ := h.sessions
  · rw [ha, ha']
    exact .pure trivial
  · have hopened : a.traffic.opened = a'.traffic.opened := (congrArg Traffic.opened haa.traffic :)
    rw [ha, ha', ← h.isRecording]
    dsimp only
    rw [hopened]
    split
    · exact .ite Iff.rfl (fun _ => requestBegun_abreast.bind fun _ _ _ => .pure trivial) fun _ => .pure trivial
    · exact .pure trivial

lemma requestDone_abreast (number serial : Nat) (url method : String) (status : Int) :
    Abreast K.Twin (fun _ _ => True) (requestDone number serial url method status)
      (requestDone number serial url method status) := by
  refine .bind_get fun r r' h => ?_
  rw [h.serial]
  refine .ite Iff.rfl (fun _ => ?_) fun _ => .pure trivial
  exact (modifyTraffic_abreast (fun _ t => { t with opened := t.opened.filter (·.1 != number) }) (fun _ _ => rfl)
    (fun _ _ _ => rfl) fun _ _ => rfl).bind fun _ _ _ => requestEnded_abreast url method status

lemma noteUnsettled_abreast : Abreast K.Twin (fun _ _ => True) noteUnsettled noteUnsettled := by
  refine .bind_get fun r r' h => ?_
  obtain ⟨ha, ha'⟩ | ⟨a, a', ha, ha', haa⟩ := h.sessions
  · rw [ha, ha']
    exact .pure trivial
  · have hidle : a.traffic.idleTimer.isSome = a'.traffic.idleTimer.isSome := by
      have hmap : a.traffic.idleTimer.map (fun _ => 0) = a'.traffic.idleTimer.map fun _ => 0 :=
        (congrArg Traffic.idleTimer haa.traffic :)
      rw [← Option.isSome_map (f := fun _ => 0), hmap, Option.isSome_map]
    have hflight : a.traffic.inFlight = a'.traffic.inFlight := (congrArg Traffic.inFlight haa.traffic :)
    have hrecent : ∀ now window, a.traffic.isRecent now window = a'.traffic.isRecent now window := fun now window =>
      (congrArg (Traffic.isRecent · now window) haa.traffic :)
    rw [ha, ha']
    dsimp only
    rw [hidle, hflight, hrecent, h.time, h.config_eq]
    exact .ite Iff.rfl (fun _ => cancelIdle_abreast.bind fun _ _ _ => noteIdle_abreast) fun _ => .pure trivial

/-! ### Changes of the page -/

/-- A recorder that keeps changes has them wait behind those that wait already. -/
lemma heed_run (hl : r.Linked) (h : r.active = some a) (hrec : r.isRecording = true) (changes : List Page.Mutation) :
    ∃ before, K.pageChanges before = K.awaitedChanges a ∧ r.obey (.heed changes) = { r with
      clock := (a.mutations.schedule r.clock r.clock.now .mutations () (before ++ changes)).2
      active := some { a with
        mutations := (a.mutations.schedule r.clock r.clock.now .mutations () (before ++ changes)).1 } } := by
  refine ⟨((a.mutations.find? ()).map (·.payload)).getD [], ?_, ?_⟩
  · cases hfind : a.mutations.find? () with
    | none =>
      have hwaiting : a.mutations.waiting = [] := List.eq_nil_iff_forall_not_mem.2 fun w hw =>
        Debouncer.find?_eq_none.1 hfind w hw rfl
      simp [awaitedChanges, hwaiting]
    | some w => exact (awaitedChanges_eq hl h (Debouncer.mem_of_find? hfind).1).symm
  · show ((Recorder.heed changes).run r).2 = _
    unfold Recorder.heed
    rw [Course.run_modify]
    dsimp only
    rw [h]
    dsimp only
    rw [if_pos hrec]

lemma heed_idle (h : r.isRecording = false) (changes : List Page.Mutation) : r.obey (.heed changes) = r := by
  show ((Recorder.heed changes).run r).2 = r
  unfold Recorder.heed
  rw [Course.run_modify]
  dsimp only
  split
  · rfl
  · rw [if_neg (by simp [h])]

lemma pageChanges_append (changes changes' : List Page.Mutation) :
    K.pageChanges (changes ++ changes') = K.pageChanges changes ++ K.pageChanges changes' := List.filter_append ..

/-- **Changes of the tool alone** are kept by one recorder, where no others wait to be looked at. -/
lemma Twin.heedOwn (h : K.Twin r r') (hown : K.pageChanges changes = []) (hnone : K.waitingChanges r = []) :
    K.Twin (r.obey (.heed changes)) r' := by
  cases hrec : r.isRecording with
  | false => rwa [heed_idle hrec]
  | true =>
    obtain ⟨a, ha, -⟩ := isRecording_iff.1 hrec
    obtain ⟨hb, -⟩ | ⟨b, a', hb, ha', haa⟩ := h.sessions
    · cases ha.symm.trans hb
    · obtain rfl := Option.some.inj (ha.symm.trans hb)
      rw [waitingChanges_of_some ha] at hnone
      obtain ⟨before, hbefore, hobey⟩ := heed_run (K := K) h.neat.linked ha hrec changes
      rw [hobey]
      exact h.keepOwnChanges ha ha' haa hnone (by rw [pageChanges_append, hbefore, hnone, hown]; rfl)

/-- **Changes of the page**, the same but for those of the tool, are kept by both. -/
lemma Twin.heed (h : K.Twin r r') (hsame : K.pageChanges changes = K.pageChanges changes')
    (hknows : ∀ m ∈ K.pageChanges changes, K.Knows m) : K.Twin (r.obey (.heed changes)) (r'.obey (.heed changes')) := by
  cases hrec : r.isRecording with
  | false => rwa [heed_idle hrec, heed_idle (h.isRecording ▸ hrec)]
  | true =>
    obtain ⟨a, ha, -⟩ := isRecording_iff.1 hrec
    obtain ⟨hb, -⟩ | ⟨b, a', hb, ha', haa⟩ := h.sessions
    · cases ha.symm.trans hb
    · obtain rfl := Option.some.inj (ha.symm.trans hb)
      by_cases hnone : K.awaitedChanges a = [] ∧ K.pageChanges changes = []
      · -- there are none but those of the tool, in either
        have hleft := h.heedOwn hnone.2 (by rw [waitingChanges_of_some ha, hnone.1])
        refine (hleft.symm.heedOwn (hsame ▸ hnone.2) ?_).symm
        rw [waitingChanges_of_some ha', ← haa.changes, hnone.1]
      · obtain ⟨before, hbefore, hobey⟩ := heed_run (K := K) h.neat.linked ha hrec changes
        obtain ⟨before', hbefore', hobey'⟩ := heed_run (K := K) h.neat'.linked ha' (h.isRecording ▸ hrec) changes'
        rw [hobey, hobey']
        refine h.keepChanges ha ha' haa ?_ ?_ ?_
        · rw [pageChanges_append, pageChanges_append, hbefore, hbefore', haa.changes, hsame]
        · rw [pageChanges_append, hbefore]
          simpa using hnone
        · rw [pageChanges_append, hbefore]
          exact List.forall_mem_append.2 ⟨haa.knows, hknows⟩

/-! ### Asked of the recorder -/

/-- The state of the session is set in both. -/
lemma Twin.setStatus (h : K.Twin r r') {status : Status}
    (hstatus : ∀ {s : Recorder} {b : Active}, s = r ∨ s = r' → s.active = some b →
      Path anything s { s with active := some (b.withStatus status) }) :
    K.Twin (r.setStatus status) (r'.setStatus status) := by
  unfold Recorder.setStatus
  obtain ⟨ha, ha'⟩ | ⟨a, a', ha, ha', haa⟩ := h.sessions
  · rwa [changeActive_of_none ha, changeActive_of_none ha']
  · rw [changeActive_of_some ha, changeActive_of_some ha']
    have hsession := congrArg (fun s : Session => { s with status }) haa.session
    have hseen : seen (K.awaitedChanges a) r.clock.plan = seen (K.awaitedChanges a') r'.clock.plan := h.seen_eq ha ha'
    exact ⟨h.put ⟨(hstatus (.inl rfl) ha).linked h.neat.linked, h.neat.sorted⟩
      ⟨(hstatus (.inr rfl) ha').linked h.neat'.linked, h.neat'.sorted⟩ { haa with session := hsession } hseen, h.time⟩

lemma pause_abreast (hp : K.Alike p p') : Abreast K.Twin (fun _ _ => True) (pause p) (pause p') := by
  refine .bind_get fun r r' h => ?_
  rw [← h.isRecording]
  refine .ite Iff.rfl (fun _ => fun s s' hs => ?_) fun _ => .pure trivial
  refine (recordAllWaiting_abreast hp s s' hs).bind_ok fun u u' t t' hrun hrun' _ ht => ?_
  have hcalm := (recordAllWaiting_runs (C := course anything) p s hs.neat.linked trivial).2 u
  have hcalm' := (recordAllWaiting_runs (C := course anything) p' s' hs.neat'.linked trivial).2 u'
  rw [hrun] at hcalm
  rw [hrun'] at hcalm'
  refine .answered (ht.setStatus ?_) trivial
  rintro v b (rfl | rfl) hb
  · exact .single (.paused hb (hcalm rfl b hb))
  · exact .single (.paused hb (hcalm' rfl b hb))

lemma Similar.status (h : K.Similar r r') : r.status = r'.status := by
  unfold Recorder.status
  obtain ⟨ha, ha'⟩ | ⟨a, a', ha, ha', haa⟩ := h.sessions
  · have hstopped : r.stopped.isSome = r'.stopped.isSome := by
      rw [← Option.isSome_map (f := Session.plain), h.stopped, Option.isSome_map]
    rw [ha, ha']
    dsimp only
    rw [hstopped]
  · rw [ha, ha']
    exact (congrArg Session.status haa.session :)

lemma resume_abreast : Abreast K.Twin (fun _ _ => True) resume resume := by
  intro r r' h
  unfold resume
  rw [Course.run_bind, Course.run_bind, Course.run_get, Course.run_get]
  dsimp only
  rw [h.status]
  by_cases hs : r'.status = .paused
  · rw [hs]
    have hpaused : ∀ {s : Recorder} {b : Active}, s = r ∨ s = r' → s.active = some b → b.session.status = .paused := by
      rintro s b (rfl | rfl) hb
      · have := h.status.trans hs
        simpa [Recorder.status, hb] using this
      · simpa [Recorder.status, hb] using hs
    exact .answered (h.setStatus fun hsr hb => .single (.resumed hb (hpaused hsr hb))) trivial
  · rw [if_neg (by simpa using hs)]
    exact .answered h trivial

/-! ### Sessions that begin and end -/

/-- Both sessions are dropped, and something else is changed. -/
lemma Twin.drop (h : K.Twin r r') {s s' : Recorder} (hclock : s.clock = r.drop.clock) (hclock' : s'.clock = r'.drop.clock)
    (hactive : s.active = none) (hactive' : s'.active = none) (hrest : s.rest = s'.rest) (hconfig : s.config = r.config)
    (hstopped : s.stopped.map Session.plain = s'.stopped.map Session.plain) : K.Twin s s' := by
  have hneat := h.neat.drop.congr hclock (hactive.trans (drop_active r).symm)
  have hneat' := h.neat'.drop.congr hclock' (hactive'.trans (drop_active r').symm)
  refine ⟨⟨hneat, hneat', hconfig.trans h.config, hrest, hstopped, ?_, ?_⟩, ?_⟩
  · rw [hactive, hactive']
    exact .none
  · rw [shown_of_none hneat hactive, shown_of_none hneat' hactive']
  · rw [hclock, hclock', drop_now, drop_now, h.time]

lemma Twin.conclude (h : K.Twin r r') : K.Twin r.conclude r'.conclude := by
  obtain ⟨ha, ha'⟩ | ⟨a, a', ha, ha', haa⟩ := h.sessions
  · rwa [show r.conclude = r by simp [Recorder.conclude, ha], show r'.conclude = r' by simp [Recorder.conclude, ha']]
  · have hresponses : a.traffic.responses = a'.traffic.responses := (congrArg Traffic.responses haa.traffic :)
    have hsession := congrArg (fun s : Session => { s with status := .stopped }) haa.session
    refine h.drop (conclude_clock r) (conclude_clock r') (conclude_active r) (conclude_active r') ?_
      (conclude_config r) ?_
    · have hrest : ∀ {s : Recorder} {b : Active}, s.active = some b → s.conclude.rest =
          { s.rest with stoppedResponses := b.traffic.responses, lastUserActionAt := 0 } := fun {s b} hb => by
        rw [← rest_drop s]
        simp only [Recorder.conclude, hb]
        rfl
      rw [hrest ha, hrest ha', h.rest, hresponses]
    · simp only [Recorder.conclude, ha, ha', Option.map_some, Option.some.injEq]
      exact hsession

lemma Twin.begun (h : K.Twin r r') (hn : r.active = none) (hp : K.Alike p p') : K.Twin (r.begun p) (r'.begun p') := by
  have hn' : r'.active = none := by
    obtain ⟨-, ha'⟩ | ⟨a, a', ha, -, -⟩ := h.sessions
    · exact ha'
    · cases hn.symm.trans ha
  have hneat : ∀ {s : Recorder} (q : Page), s.Neat → s.active = none → (s.begun q).Neat := fun q hs hnone =>
    ⟨hs.linked.begun hnone q, hs.sorted⟩
  have hserial : r.nextSerial = r'.nextSerial := (congrArg Recorder.nextSerial h.rest :)
  have hnow := h.now
  refine ⟨⟨hneat p h.neat hn, hneat p' h.neat' hn', h.config, ?_, rfl, .some ?_, ?_⟩, h.time⟩
  · show ({ r.rest with stoppedResponses := [], lastUserActionAt := r.now, nextSerial := r.nextSerial + 1 } : Recorder) =
      { r'.rest with stoppedResponses := [], lastUserActionAt := r'.now, nextSerial := r'.nextSerial + 1 }
    rw [h.rest, hnow, hserial]
  · exact ⟨hserial, by rw [freshSession, freshSession, hp.url, hp.title, hnow], by rw [h.config_eq], rfl,
      by rw [h.config_eq], rfl, rfl, nofun, nofun⟩
  · have hnone : ∀ {s : Recorder} (q : Page), s.Neat → s.active = none → K.shown (s.begun q) = [] := fun q hs hn => by
      have hplan : (Recorder.begun _ q).clock.plan = [] := List.map_eq_nil_iff.2 (hs.linked.free hn)
      rw [shown, hplan]
      rfl
    rw [hnone p h.neat hn, hnone p' h.neat' hn']

/-- What waits is recorded before the sessions end. -/
lemma stop_abreast (hp : K.Alike p p') : Abreast K.Twin (fun _ _ => True) (stop p) (stop p') := by
  refine .bind_get fun r r' h => ?_
  obtain ⟨ha, ha'⟩ | ⟨a, a', ha, ha', -⟩ := h.sessions
  · rw [ha, ha']
    exact .pure trivial
  · rw [ha, ha']
    refine (recordAllWaiting_abreast hp).bind fun _ _ _ => noteUnsettled_abreast.bind fun _ _ _ => ?_
    exact (Abreast.modify fun r r' h => h.conclude).bind fun _ _ _ => .bind_get fun _ _ _ => .pure trivial

/-- No session is active once one was stopped. -/
lemma stop_ended {session : Option Session} {s : Recorder} (h : (stop p).run r = (.ok session, s)) : s.active = none := by
  cases ha : r.active with
  | none =>
    rw [stop_of_none ha] at h
    cases h
    exact ha
  | some a =>
    rw [stop_run ha] at h
    split at h <;> cases h
    exact conclude_active _

/-- Sessions begin once the ones before have ended. -/
lemma restart_abreast (hp : K.Alike p p') :
    Abreast K.Twin (fun _ _ => True) (Signal.restart p) (Signal.restart p') := by
  refine .bind_get fun r r' h => ?_
  have hbound : r.isBound = r'.isBound := (congrArg Recorder.isBound h.rest :)
  rw [hbound]
  refine .ite Iff.rfl (fun _ => .throw) fun _ s s' hs => ?_
  refine ((stop_abreast hp).discard s s' hs).bind_ok fun _ _ t t' hrun _ _ ht => .answered (ht.begun ?_ hp) trivial
  rw [Course.run_discard] at hrun
  rcases hstop : (stop p).run s with ⟨_ | session, u⟩ <;> rw [hstop] at hrun <;> cases hrun
  exact stop_ended hstop

lemma clear_abreast : Abreast K.Twin (fun _ _ => True) clear clear :=
  .modify fun r r' h => by
    have hconfig : r.drop.config = r.config := by
      unfold Recorder.drop
      cases r.active <;> rfl
    refine h.drop rfl rfl (drop_active r) (drop_active r') ?_ hconfig rfl
    show ({ r.drop.rest with stoppedResponses := [], lastUserActionAt := 0 } : Recorder) =
      { r'.drop.rest with stoppedResponses := [], lastUserActionAt := 0 }
    rw [rest_drop, rest_drop, h.rest]

/-! ### By hand -/

lemma addByHand_abreast (hp : K.Alike p p') (d : Datum) :
    Abreast K.Twin (fun _ _ => True) (addByHand p d) (addByHand p' d) := by
  refine .bind_get fun r r' h => ?_
  rw [h.isRecording]
  refine .ite Iff.rfl (fun _ => .pure trivial) fun _ => ?_
  cases Step.check d with
  | bad issues => exact .throw
  | good step =>
    exact (recordAllWaiting_abreast hp).bind fun _ _ _ => (addUserStep_abreast rfl).weaken fun _ _ _ => trivial

/-- A number stands for the same step in both. -/
lemma Similar.position? (h : K.Similar r r') (index : Int) :
    Option.Rel (fun x y => x.1 = y.1 ∧ x.2.plain = y.2.plain) (r.position? index) (r'.position? index) := by
  unfold Recorder.position?
  cases index with
  | negSucc _ => exact .none
  | ofNat n =>
    have hstep : r.steps[n]?.map Step.plain = r'.steps[n]?.map Step.plain := by
      rw [← List.getElem?_map, ← List.getElem?_map, h.plain_steps]
    dsimp only
    cases hs : r.steps[n]? <;> cases hs' : r'.steps[n]? <;> rw [hs, hs'] at hstep
    · exact .none
    · cases hstep
    · cases hstep
    · exact .some ⟨rfl, Option.some.inj hstep⟩

lemma removeStep_abreast (index : Int) : Abreast K.Twin (fun _ _ => True) (removeStep index) (removeStep index) := by
  refine .bind_get fun r r' h => ?_
  have hposition := h.position? index
  generalize r.position? index = x at hposition ⊢
  generalize r'.position? index = y at hposition ⊢
  cases hposition with
  | none => exact .pure trivial
  | some hxy =>
    rename_i x y
    obtain ⟨n, step⟩ := x
    obtain ⟨n', step'⟩ := y
    obtain rfl : n = n' := hxy.1
    have hremoved : Abreast K.Twin (fun _ _ => True) (modify fun r => r.changeSteps (·.eraseIdx n) : Act Unit)
        (modify fun r => r.changeSteps (·.eraseIdx n)) :=
      .modify fun r r' (h : K.Twin r r') => h.changeSteps fun l l' hl => by
        rw [← List.eraseIdx_map, ← List.eraseIdx_map, hl]
    exact hremoved.bind fun _ _ _ => (tell_abreast _ _ _ _ _).bind fun _ _ _ => .pure trivial

lemma updateStep_abreast (index : Int) (value : Option String) (waitTimeout : Option Int) :
    Abreast K.Twin (fun _ _ => True) (updateStep index value waitTimeout) (updateStep index value waitTimeout) := by
  refine .bind_get fun r r' h => ?_
  have hposition := h.position? index
  generalize r.position? index = x at hposition ⊢
  generalize r'.position? index = y at hposition ⊢
  cases hposition with
  | none => exact .pure trivial
  | some hxy =>
    rename_i x y
    obtain ⟨n, step⟩ := x
    obtain ⟨n', step'⟩ := y
    obtain rfl : n = n' := hxy.1
    refine (change_abreast n fun s s' hs => ?_).bind fun _ _ _ => .pure trivial
    exact congrArg (fun s : Step => { s with
      value := value.orElse fun _ => s.value, waitTimeout := waitTimeout.orElse fun _ => s.waitTimeout }) hs

end PageTape.Recorder.Stage
