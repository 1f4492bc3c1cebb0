import PageTape.Proofs.Recorder.Signal

/-!
# The requests that a recorder counts

An `Account` is what a session knows of its requests: how many are under way, what the responses were, and which
request objects are open.  `Recorder.Accounts` says that there is a session with a given account, and for every signal
of a request it is told here what becomes of that account, whether a callback fails or not; all other signals leave it
as it is (`Accounts.obey`).
-/

namespace PageTape

/-- The requests of a session: how many are under way, the address, the method and the status of each response, and
the request objects that are open, with the addresses and the methods they were opened with. -/
structure Account where
  inFlight : Nat := 0
  answered : List (String × String × Int) := []
  opened : List (Nat × String × String) := []

namespace Account

/-- A request has begun. -/
def begun (A : Account) : Account := { A with inFlight := A.inFlight + 1 }

/-- A request has ended; its response counts while recording. -/
def ended (A : Account) (recording : Bool) (url method : String) (status : Int) : Account :=
  { A with
    inFlight := A.inFlight - 1
    answered := if recording = true then A.answered ++ [(url, method, status)] else A.answered }

/-- A request object is not open any more. -/
def closed (A : Account) (number : Nat) : Account := { A with opened := A.opened.filter (·.1 != number) }

/-- A request object is opened. -/
def withOpened (A : Account) (number : Nat) (url method : String) : Account :=
  { A with opened := (number, url, method) :: (A.closed number).opened }

end Account

namespace Recorder

variable {may : Leave} {r r' : Recorder} {serial : Nat} {A : Account}

/-- The account of what is known of the network. -/
def Traffic.account (t : Traffic) : Account where
  inFlight := t.inFlight
  answered := t.responses.map fun response => (response.url, response.method, response.status)
  opened := t.opened

/-- The recorder has a session of this number, with this account. -/
def Accounts (r : Recorder) (serial : Nat) (A : Account) : Prop :=
  ∃ a, r.active = some a ∧ a.serial = serial ∧ a.traffic.account = A

lemma Accounts.unique {A' : Account} (h : r.Accounts serial A) (h' : r.Accounts serial A') : A = A' := by
  obtain ⟨a, ha, -, rfl⟩ := h
  obtain ⟨b, hb, -, rfl⟩ := h'
  obtain rfl : a = b := Option.some.inj (ha.symm.trans hb)
  rfl

lemma not_accounts (h : r.active = none) : ¬ r.Accounts serial A := by
  rintro ⟨a, ha, -⟩
  rw [h] at ha
  cases ha

/-- The session had an account before. -/
lemma SameSession.accounts (hs : SameSession r r') (h : r'.Accounts serial A) : ∃ A', r.Accounts serial A' := by
  obtain ⟨b, hb, rfl, -⟩ := h
  obtain ⟨a, ha, hab⟩ := hs.before hb
  exact ⟨_, a, ha, hab, rfl⟩

/-! ### What is no request -/

lemma Path.accounts (hp : Path may r r') (hc : may.counts = false) (h : r.Accounts serial A) :
    r'.Accounts serial A := by
  obtain ⟨a, ha, hs, rfl⟩ := h
  obtain ⟨b, hb, hbs⟩ := hp.sameSession.after ha
  have hledger := hp.ledger hc
  rw [ha, hb] at hledger
  refine ⟨b, hb, hbs.trans hs, ?_⟩
  exact congrArg (fun l : Nat × List Response × List (Nat × String × String) =>
    (⟨l.1, l.2.1.map fun response => (response.url, response.method, response.status), l.2.2⟩ : Account))
    (Option.some.inj hledger)

/-- **A signal that tells of no request leaves the account as it is.** -/
theorem Accounts.obey {s : Signal} (h : r.Accounts serial A) (hl : r.Linked) (hin : s.isInner = true)
    (hc : s.counts = false) : (r.obey s).Accounts serial A := by
  have hw : s.Within ⟨true, true, false⟩ := ⟨hin, fun _ => rfl, fun _ => rfl, fun hs => by simp [hc] at hs⟩
  obtain ⟨selector, typed, ht, hs⟩ | ⟨-, hp⟩ := hl.obey hw
  · obtain ⟨a, ha, hserial, hA⟩ := h
    rw [hs, keepText_eq ha]
    exact ⟨_, rfl, hserial, hA⟩
  · exact hp.accounts rfl h

/-! ### Requests -/

lemma Accounts.changeTraffic (h : r.Accounts serial A) {f : Traffic → Traffic} {g : Account → Account}
    (hf : ∀ t, (f t).account = g t.account) : (r.changeTraffic f).Accounts serial (g A) := by
  obtain ⟨a, ha, hs, rfl⟩ := h
  rw [changeTraffic_of_some ha]
  exact ⟨_, rfl, hs, hf _⟩

lemma Linked.changeTraffic (hl : r.Linked) (f : Traffic → Traffic) (hi : ∀ t, (f t).idleTimer = t.idleTimer) :
    (r.changeTraffic f).Linked :=
  have hp : Path ⟨false, false, true⟩ r (r.changeTraffic f) := changeTraffic_path r f hi (.inl rfl)
  hp.linked hl

lemma isRecording_changeTraffic (r : Recorder) (f : Traffic → Traffic) :
    (r.changeTraffic f).isRecording = r.isRecording := by
  cases ha : r.active with
  | none => rw [changeTraffic_of_none ha]
  | some a => simp [changeTraffic_of_some ha, isRecording, ha]

lemma Accounts.active_any (h : r.Accounts serial A) (n : Nat) :
    r.active.any (·.serial == n) = decide (n = serial) := by
  obtain ⟨a, ha, rfl, -⟩ := h
  simp [ha, eq_comm, beq_eq_decide]

/-- A request has begun. -/
lemma Accounts.requestBegun (h : r.Accounts serial A) :
    (Recorder.requestBegun.run r).1 = .ok ⟨⟩ ∧ (Recorder.requestBegun.run r).2.isRecording = r.isRecording ∧
      (Recorder.requestBegun.run r).2.Accounts serial A.begun := by
  obtain ⟨a, ha, hs, rfl⟩ := h
  unfold Recorder.requestBegun
  rw [Course.run_bind, Course.run_modify, changeTraffic_of_some ha]
  unfold cancelIdle
  dsimp only
  rw [Course.run_modify]
  cases hi : a.traffic.idleTimer with
  | none =>
    simp only [Option.bind_some]
    exact ⟨trivial, by simp [isRecording, ha], _, rfl, hs, rfl⟩
  | some n =>
    simp only [Option.bind_some, Recorder.changeTraffic, changeActive, Option.map_some]
    exact ⟨trivial, by simp [isRecording, ha], _, rfl, hs, rfl⟩

/-- A request has ended. -/
lemma Accounts.requestEnded (h : r.Accounts serial A) (hl : r.Linked) (url method : String) (status : Int) :
    ((Recorder.requestEnded url method status).run r).2.Accounts serial
      (A.ended r.isRecording url method status) := by
  have hdec : (r.changeTraffic fun t => { t with inFlight := t.inFlight - 1 }).Accounts serial
      (A.ended false url method status) := h.changeTraffic (g := (·.ended false url method status)) fun _ => rfl
  have hl' : (r.changeTraffic fun t => { t with inFlight := t.inFlight - 1 }).Linked :=
    hl.changeTraffic _ fun _ => rfl
  unfold Recorder.requestEnded
  rw [Course.run_bind, Course.run_modify]
  dsimp only
  rw [Course.run_bind, Course.run_get]
  dsimp only
  rw [isRecording_changeTraffic]
  cases hr : r.isRecording with
  | false => exact hdec
  | true =>
    simp only [Bool.not_true, Bool.false_eq_true, if_false]
    rw [Course.run_bind, Course.run_set]
    refine Path.accounts ((afterResponse_runs _ ⟨url, method, status, r.now⟩).leads ?_ rfl)
      (rfl : ({} : Leave).counts = false) ?_
    · exact hl'.changeTraffic _ fun _ => rfl
    · exact hdec.changeTraffic (g := fun A => { A with answered := A.answered ++ [(url, method, status)] }) fun t => by
        simp [Traffic.account]

/-- A request has ended that was counted for a session. -/
lemma Accounts.requestEndedIn (h : r.Accounts serial A) (hl : r.Linked) (n : Nat) (url method : String)
    (status : Int) : ((Recorder.requestEndedIn n url method status).run r).2.Accounts serial
      (if n = serial then A.ended r.isRecording url method status else A) := by
  unfold Recorder.requestEndedIn
  rw [Course.run_bind, Course.run_get]
  dsimp only
  rw [h.active_any]
  by_cases hn : n = serial
  · simpa [hn] using h.requestEnded hl url method status
  · simpa [hn] using h

lemma Accounts.requestEndedIn_other (h : r.Accounts serial A) {n : Nat} (hn : n ≠ serial) (url method : String)
    (status : Int) : (Recorder.requestEndedIn n url method status).run r = (.ok ⟨⟩, r) := by
  unfold Recorder.requestEndedIn
  rw [Course.run_bind, Course.run_get]
  simp [h.active_any, hn]

/-- A request object is opened. -/
lemma Accounts.requestOpened (h : r.Accounts serial A) (number : Nat) (url method : String) :
    ((Recorder.requestOpened number url method).run r).2.Accounts serial (A.withOpened number url method) :=
  h.changeTraffic (g := (·.withOpened number url method)) fun _ => rfl

/-- A request object is sent: it is counted if it is open and the recorder is recording. -/
lemma Accounts.requestSent? (h : r.Accounts serial A) (number : Nat) :
    ((Recorder.requestSent? number).run r).1 = .ok (if r.isRecording = true then
        (A.opened.lookup number).map fun info => (serial, info.1, info.2) else none) ∧
      ((Recorder.requestSent? number).run r).2.Accounts serial
        (if r.isRecording = true ∧ (A.opened.lookup number).isSome = true then A.begun else A) := by
  obtain ⟨a, ha, hs, hA⟩ := id h
  have ho : a.traffic.opened = A.opened := by rw [← hA]; rfl
  unfold Recorder.requestSent?
  rw [Course.run_bind, Course.run_get]
  simp only [ha, ho]
  cases hlookup : A.opened.lookup number with
  | none => simpa using h
  | some info =>
    cases hr : r.isRecording with
    | false => simpa using h
    | true =>
      obtain ⟨hok, -, hacc⟩ := h.requestBegun
      simp only [if_true]
      rw [Course.run_bind]
      rcases hrun : Recorder.requestBegun.run r with ⟨_ | u, s⟩ <;> rw [hrun] at hok hacc
      · cases hok
      · exact ⟨by simp [hs], by simpa using hacc⟩

/-- A request object that was sent while a session was recorded has ended. -/
lemma Accounts.requestDone (h : r.Accounts serial A) (hl : r.Linked) (number n : Nat) (url method : String)
    (status : Int) : ((Recorder.requestDone number n url method status).run r).2.Accounts serial
      (if n = serial then (A.closed number).ended r.isRecording url method status else A) := by
  unfold Recorder.requestDone
  rw [Course.run_bind, Course.run_get]
  dsimp only
  rw [h.active_any]
  by_cases hn : n = serial
  · simp only [hn, decide_true, if_true]
    rw [Course.run_bind, Course.run_modify]
    have hclosed : (r.changeTraffic fun t => { t with opened := t.opened.filter (·.1 != number) }).Accounts serial
        (A.closed number) := h.changeTraffic (g := (·.closed number)) fun _ => rfl
    have hended := hclosed.requestEnded (hl.changeTraffic _ fun _ => rfl) url method status
    rw [isRecording_changeTraffic] at hended
    exact hended
  · simpa [hn] using h

/-- **An end that was counted for another session is no concern of this one.** -/
lemma Accounts.requestDone_other (h : r.Accounts serial A) (number : Nat) {n : Nat} (hn : n ≠ serial)
    (url method : String) (status : Int) : (Recorder.requestDone number n url method status).run r = (.ok ⟨⟩, r) := by
  unfold Recorder.requestDone
  rw [Course.run_bind, Course.run_get]
  simp [h.active_any, hn]

/-- Only a session counts a request object. -/
lemma requestSent?_serial {number : Nat} {sent : Nat × String × String}
    (h : ((Recorder.requestSent? number).run r).1 = .ok (some sent)) : ∃ a, r.active = some a ∧ a.serial = sent.1 := by
  unfold Recorder.requestSent? at h
  rw [Course.run_bind, Course.run_get] at h
  cases ha : r.active with
  | none => simp [ha] at h
  | some a =>
    refine ⟨a, rfl, ?_⟩
    simp only [ha] at h
    split at h
    · split at h
      · rw [Course.run_bind] at h
        split at h
        · simp only [Course.run_pure, Except.ok.injEq, Option.some.injEq] at h
          rw [← h]
        · cases h
      · simp at h
    · simp at h

end Recorder

end PageTape
