import PageTape.Proofs.Scene.Requests

/-!
# What a browser reports of its requests

A `Register` is what an onlooker writes down who sees what a linked browser reports, over any number of sessions: the
requests that were counted and have not ended, each with the session that counted it, and those that have ended, each
with the session that was active then.  `Tracks` ties it to the browser's own table and to the books of the active
session, and everything that happens keeps that tie (`Tracks.step`).

The table outlives a session, and an end is told to the session that is active then.  So a session counts the ends of
requests that another one has counted (`late_end_misplaced`), and its count of those under way is that of its own
requests only as far as no such stranger has ended in it (`reported_requests_counted`).
-/

namespace PageTape.Scene

open Page (Network)
open Recorder (SameSession)

/-! ### The register -/

/-- The number of the active session. -/
def serial? (s : Scene) : Option ℕ := s.recorder.active.map (·.serial)

/-- A request that was counted: its name, the session that counted it, its address and its method. -/
structure Counted where
  key : String
  serial : ℕ
  url : String
  method : String
  deriving DecidableEq, Repr

/-- What is counted of a reported request, if it is counted.  A name that was reported before stands for the same
request again. -/
def counted? (s : Scene) (key : String) (reported : Reported) : Option Counted :=
  let known := (s.browser.reported.lookup key).getD reported
  if s.browser.isLinked && s.recorder.isRecording && countedResources.contains known.resource then
    s.serial?.map (⟨key, ·, known.url, Text.upper known.method⟩)
  else none

/-- A counted request that has ended: with which status, and which session was active then and whether it recorded. -/
structure Ended where
  request : Counted
  status : ℤ
  during : Option ℕ
  recording : Bool
  deriving DecidableEq, Repr

/-- **What an onlooker writes down of the requests that a browser reports**: those that are under way, those that were
reported again while they were under way for the same session, and those that have ended. -/
structure Register where
  underWay : List Counted := []
  again : List Counted := []
  ended : List Ended := []
  deriving DecidableEq, Repr

namespace Register

/-- A request is counted. -/
def enter (R : Register) (c : Counted) : Register :=
  { R with
    underWay := c :: R.underWay.filter (·.key != c.key)
    again := R.again ++ R.underWay.filter fun d => d.key == c.key && d.serial == c.serial }

/-- A request ends, if there is one of this name. -/
def settle (R : Register) (key : String) (status : ℤ) (during : Option ℕ) (recording : Bool) : Register :=
  { R with
    underWay := R.underWay.filter (·.key != key)
    ended := R.ended ++ (R.underWay.filter (·.key == key)).map fun c => ⟨c, status, during, recording⟩ }

/-- **What is written down of an action**, from the scene before it. -/
def next (R : Register) (s : Scene) : Action → Register
  | .requestReported key reported => match s.counted? key reported with
    | some c => R.enter c
    | none => R
  | .endReported key status => R.settle key status s.serial? s.recorder.isRecording
  | _ => R

/-- What is written down of actions one after another. -/
def run (R : Register) (s : Scene) : List Action → Register
  | [] => R
  | a :: rest => (R.next s a).run (s.step a).scene rest

/-- The requests of a session that are under way. -/
def own (R : Register) (n : ℕ) : List Counted := R.underWay.filter (·.serial == n)

/-- The requests of a session that were reported again. -/
def repeats (R : Register) (n : ℕ) : List Counted := R.again.filter (·.serial == n)

/-- The requests that have ended in a session and were counted for another one. -/
def strangers (R : Register) (n : ℕ) : List Ended := R.ended.filter fun e => e.during == some n && e.request.serial != n

/-- The requests that have ended in a session while it was recorded. -/
def answered (R : Register) (n : ℕ) : List Ended := R.ended.filter fun e => e.during == some n && e.recording

variable {R : Register} {n bound : ℕ} {A : Account} {c : Counted} {key : String} {status : ℤ} {recording : Bool}

/-! ### What the active session counts -/

/-- **What a session knows of its requests**: not more are under way for it than were reported and have not ended, and
less only by the strangers that have ended in it; and its responses are those of all ends. -/
structure Counts (R : Register) (n : ℕ) (A : Account) : Prop where
  le_own : A.inFlight ≤ (R.own n).length + (R.repeats n).length
  own_le : (R.own n).length ≤ A.inFlight + (R.strangers n).length
  answered : A.answered = (R.answered n).map fun e => (e.request.url, e.request.method, e.status)

/-- All that is written down is of sessions before a bound. -/
structure Past (R : Register) (bound : ℕ) : Prop where
  underWay : ∀ c ∈ R.underWay, c.serial < bound
  again : ∀ c ∈ R.again, c.serial < bound
  ended : ∀ e ∈ R.ended, ∀ n, e.during = some n → n < bound

lemma Past.mono {bound' : ℕ} (h : R.Past bound) (hb : bound ≤ bound') : R.Past bound' where
  underWay c hc := (h.underWay c hc).trans_le hb
  again c hc := (h.again c hc).trans_le hb
  ended e he n hn := (h.ended e he n hn).trans_le hb

/-- A session that begins has no requests yet. -/
lemma Past.counts (h : R.Past bound) : R.Counts bound {} := by
  have hown : R.own bound = [] := List.filter_eq_nil_iff.2 fun c hc => by
    simpa using (h.underWay c hc).ne
  have hrepeats : R.repeats bound = [] := List.filter_eq_nil_iff.2 fun c hc => by
    simpa using (h.again c hc).ne
  have hduring : ∀ e ∈ R.ended, (e.during == some bound) = false := by
    intro e he
    rw [beq_eq_false_iff_ne]
    intro hd
    exact lt_irrefl _ (h.ended e he bound hd)
  have hanswered : R.answered bound = [] := List.filter_eq_nil_iff.2 fun e he => by
    simp [hduring e he]
  constructor
  · exact Nat.zero_le _
  · rw [hown]
    exact Nat.zero_le _
  · rw [hanswered]
    rfl

lemma Past.enter (h : R.Past bound) (hc : c.serial < bound) : (R.enter c).Past bound where
  underWay d hd := by
    rcases List.mem_cons.1 hd with rfl | hd
    · exact hc
    · exact h.underWay d (List.mem_filter.1 hd).1
  again d hd := by
    rcases List.mem_append.1 hd with hd | hd
    · exact h.again d hd
    · exact h.underWay d (List.mem_filter.1 hd).1
  ended := h.ended

lemma Past.settle (h : R.Past bound) {during : Option ℕ} (hd : ∀ n, during = some n → n < bound) :
    (R.settle key status during recording).Past bound where
  underWay c hc := h.underWay c (List.mem_filter.1 hc).1
  again := h.again
  ended e he n hn := by
    rcases List.mem_append.1 he with he | he
    · exact h.ended e he n hn
    · obtain ⟨c, -, rfl⟩ := List.mem_map.1 he
      exact hd n hn

/-- The requests of a session but for one name, and those of that name. -/
lemma length_own (R : Register) (n : ℕ) (key : String) :
    (R.own n).length = ((R.own n).filter (·.key == key)).length + ((R.own n).filter (·.key != key)).length :=
  List.length_eq_length_filter_add _

lemma filter_own (R : Register) (n : ℕ) (p : Counted → Bool) :
    (R.own n).filter p = (R.underWay.filter p).filter (·.serial == n) := List.filter_comm _ _ _

/-- A request begins in the session that is active. -/
lemma Counts.enter (h : R.Counts n A) (hc : c.serial = n) : (R.enter c).Counts n A.begun := by
  subst hc
  have hown : (R.enter c).own c.serial = c :: (R.own c.serial).filter (·.key != c.key) := by
    rw [filter_own]
    exact List.filter_cons_of_pos (by simp)
  have hrepeats : (R.enter c).repeats c.serial = R.repeats c.serial ++ (R.own c.serial).filter (·.key == c.key) := by
    have hagain : (R.underWay.filter fun d => d.key == c.key && d.serial == c.serial).filter (·.serial == c.serial) =
        (R.own c.serial).filter (·.key == c.key) := by
      simp only [Register.own, List.filter_filter, Bool.and_comm, Bool.and_self_left]
    unfold repeats Register.enter
    rw [List.filter_append, hagain]
  have hsplit := R.length_own c.serial c.key
  have hle := h.le_own
  have hge := h.own_le
  constructor
  · rw [hown, hrepeats, List.length_cons, List.length_append]
    show A.inFlight + 1 ≤ _
    omega
  · rw [hown, List.length_cons]
    show _ ≤ A.inFlight + 1 + (R.strangers c.serial).length
    omega
  · exact h.answered

/-- A request that is counted ends while a session is active. -/
lemma Counts.settle (h : R.Counts n A) (hc : R.underWay.filter (·.key == key) = [c]) :
    (R.settle key status (some n) recording).Counts n (A.ended recording c.url c.method status) := by
  have hended : (R.settle key status (some n) recording).ended = R.ended ++ [⟨c, status, some n, recording⟩] := by
    unfold Register.settle
    rw [hc]
    rfl
  have hown : (R.settle key status (some n) recording).own n = (R.own n).filter (·.key != key) := (filter_own ..).symm
  have hsplit := R.length_own n key
  rw [filter_own, hc] at hsplit
  -- one request fewer of its own, or one stranger more
  have hbalance : ((R.settle key status (some n) recording).strangers n).length + ([c].filter (·.serial == n)).length =
      (R.strangers n).length + 1 := by
    unfold strangers
    rw [hended, List.filter_append, List.length_append]
    by_cases hserial : c.serial = n <;> simp [hserial]
  have hone : ([c].filter (·.serial == n)).length ≤ 1 := List.length_filter_le _ _
  have hle := h.le_own
  have hge := h.own_le
  constructor
  · rw [hown]
    show A.inFlight - 1 ≤ _ + (R.repeats n).length
    omega
  · rw [hown]
    show _ ≤ A.inFlight - 1 + _
    omega
  · have hanswered : (R.settle key status (some n) recording).answered n =
        R.answered n ++ if recording = true then [⟨c, status, some n, recording⟩] else [] := by
      unfold Register.answered
      rw [hended, List.filter_append]
      cases recording <;> simp
    rw [hanswered, List.map_append, ← h.answered]
    cases recording with
    | false => exact (List.append_nil _).symm
    | true => rfl

/-! ### The table of the browser -/

/-- **The register is what the browser's table holds, and what the active session counts.** -/
structure Tracks (R : Register) (s : Scene) : Prop where
  table : s.browser.counted = R.underWay.map fun c => (c.key, c.url, c.method)
  keys : (R.underWay.map (·.key)).Nodup
  past : R.Past s.recorder.nextSerial
  account : ∀ n A, s.recorder.Accounts n A → R.Counts n A

namespace Tracks

variable {s t : Scene}

lemma withLog (h : R.Tracks s) (log : List Entry) : R.Tracks { s with log } := ⟨h.table, h.keys, h.past, h.account⟩

/-- The session goes on, or there is none any more; the table stays. -/
lemma onward (h : R.Tracks s) (hb : t.browser.counted = s.browser.counted)
    (hn : t.recorder.nextSerial = s.recorder.nextSerial)
    (ha : ∀ n A, t.recorder.Accounts n A → s.recorder.Accounts n A) : R.Tracks t where
  table := hb.trans h.table
  keys := h.keys
  past := hn ▸ h.past
  account n A hA := h.account n A (ha n A hA)

/-- What is no request. -/
lemma quiet (h : R.Tracks s) (hs : s.Attached) (hp : Path false s t) (hb : t.browser.counted = s.browser.counted) :
    R.Tracks t := by
  have hsame := hp.sameSession hs.toOrderly
  refine h.onward hb hsame.nextSerial ?_
  intro n A hA
  obtain ⟨A', hA'⟩ := hsame.accounts hA
  obtain rfl := hA.unique (hp.books (hs.books hA')).account
  exact hA'

/-- The table without one name. -/
lemma table_filter (h : R.Tracks s) (key : String) : s.browser.counted.filter (·.1 != key) =
    (R.underWay.filter (·.key != key)).map fun c => (c.key, c.url, c.method) := by
  rw [h.table, List.filter_map]
  rfl

/-- A name in the table. -/
lemma lookup (h : R.Tracks s) (key : String) :
    (s.browser.counted.lookup key = none ∧ R.underWay.filter (·.key == key) = []) ∨
      ∃ c, s.browser.counted.lookup key = some (c.url, c.method) ∧ R.underWay.filter (·.key == key) = [c] := by
  obtain ⟨underWay, again, ended⟩ := R
  obtain ⟨htable, hkeys, -, -⟩ := h
  rw [htable]
  clear htable
  dsimp only at hkeys ⊢
  induction underWay with
  | nil => exact .inl ⟨rfl, rfl⟩
  | cons c rest ih =>
    obtain ⟨hc, hrest⟩ := List.nodup_cons.1 hkeys
    by_cases hkey : c.key = key
    · subst hkey
      refine .inr ⟨c, by simp, ?_⟩
      rw [List.filter_cons_of_pos (by simp), List.filter_eq_nil_iff.2]
      intro d hd
      have : d.key ≠ c.key := fun e => hc (List.mem_map.2 ⟨d, hd, e⟩)
      simpa using this
    · have hne : (key == c.key) = false := by simpa using Ne.symm hkey
      rw [List.map_cons, List.lookup_cons, hne, List.filter_cons_of_neg (by simpa using hkey)]
      exact ih hrest

/-! ### What the browser reports -/

/-- The recorder is told of a request of the browser. -/
lemma of_byRecorder (hs : s.Attached) {browser : Browser} {act : Recorder.Act Unit} (signal : Recorder.Signal)
    (hact : signal.act = act) (hin : signal.isInner = true)
    (htable : browser.counted = R.underWay.map fun c => (c.key, c.url, c.method))
    (hkeys : (R.underWay.map (·.key)).Nodup) (hpast : R.Past s.recorder.nextSerial)
    (hA : ∀ n A, s.recorder.Accounts n A → ∃ A', (act.run s.recorder).2.Accounts n A' ∧ R.Counts n A') :
    R.Tracks ((Scene.byRecorder fun _ => act).run { s with browser }).2 := by
  subst hact
  have hsame := hs.linked.sameSession hin
  rw [byRecorder_run]
  refine ⟨htable, hkeys, hsame.nextSerial.symm ▸ hpast, ?_⟩
  intro n A h
  obtain ⟨A₀, h₀⟩ := hsame.accounts h
  obtain ⟨A', h', hcounts⟩ := hA n A₀ h₀
  exact h.unique h' ▸ hcounts

/-- The browser reports a request. -/
lemma requestReported (h : R.Tracks s) (hs : s.Attached) (key : String) (reported : Reported) :
    (R.next s (.requestReported key reported)).Tracks ((Scene.requestReported key reported).run s).2 := by
  unfold Scene.requestReported
  rw [Course.run_bind, Course.run_get]
  dsimp only
  rw [Course.run_bind, show (changeBrowser _).run s = (.ok ⟨⟩, _) from rfl]
  dsimp only
  rw [Course.run_bind, Course.run_get]
  dsimp only
  split
  · rename_i hc
    have hrecording : s.recorder.isRecording = true := by
      simp only [Bool.and_eq_true] at hc
      exact hc.1.2
    obtain ⟨a, ha, -⟩ := Recorder.isRecording_iff.1 hrecording
    have hcounted : s.counted? key reported = some ⟨key, a.serial,
        ((s.browser.reported.lookup key).getD reported).url,
        Text.upper ((s.browser.reported.lookup key).getD reported).method⟩ :=
      (if_pos hc).trans (by rw [serial?, ha]; rfl)
    rw [next, hcounted, Course.run_bind, show (changeBrowser _).run _ = (.ok ⟨⟩, _) from rfl]
    refine of_byRecorder hs .requestBegun rfl rfl ?_ ?_ (h.past.enter (hs.serial a ha)) ?_
    · exact congrArg (List.cons _) (h.table_filter key)
    · exact List.nodup_cons.2 ⟨by simp, h.keys.sublist (List.filter_sublist.map _)⟩
    · intro n A hA
      obtain ⟨b, hb, rfl, -⟩ := id hA
      obtain rfl : a = b := Option.some.inj (ha.symm.trans hb)
      exact ⟨_, hA.requestBegun.2.2, (h.account _ _ hA).enter rfl⟩
  · rename_i hc
    have hcounted : s.counted? key reported = none := if_neg hc
    rw [next, hcounted]
    exact ⟨h.table, h.keys, h.past, h.account⟩

/-- The browser reports the end of a request. -/
lemma endReported (h : R.Tracks s) (hs : s.Attached) (key : String) (status : ℤ) :
    (R.next s (.endReported key status)).Tracks ((Scene.endReported key status).run s).2 := by
  show (R.settle key status s.serial? s.recorder.isRecording).Tracks _
  unfold Scene.endReported
  rw [Course.run_bind, Course.run_get]
  dsimp only
  obtain ⟨hlookup, hfilter⟩ | ⟨c, hlookup, hfilter⟩ := h.lookup key
  · have hsettle : R.settle key status s.serial? s.recorder.isRecording = R := by
      have hall : R.underWay.filter (·.key != key) = R.underWay := List.filter_eq_self.2 fun c hc => by
        simpa using List.filter_eq_nil_iff.1 hfilter c hc
      simp only [settle, hfilter, hall, List.map_nil, List.append_nil]
    simp only [hlookup]
    rw [hsettle]
    exact h
  · have hkeys : ((R.underWay.filter (·.key != key)).map (·.key)).Nodup :=
      h.keys.sublist (List.filter_sublist.map _)
    have hpast : (R.settle key status s.serial? s.recorder.isRecording).Past s.recorder.nextSerial := by
      refine h.past.settle fun n hn => ?_
      obtain ⟨a, ha, rfl⟩ := Option.map_eq_some_iff.1 hn
      exact hs.serial a ha
    simp only [hlookup]
    rw [Course.run_bind, show (changeBrowser _).run s = (.ok ⟨⟩, _) from rfl]
    dsimp only
    split
    · refine of_byRecorder hs (.requestEnded c.url c.method status) rfl rfl (h.table_filter key) hkeys hpast ?_
      intro n A hA
      have hserial : s.serial? = some n := by
        obtain ⟨a, ha, rfl, -⟩ := hA
        exact congrArg (Option.map (·.serial)) ha
      rw [hserial]
      exact ⟨_, hA.requestEnded hs.linked c.url c.method status, (h.account n A hA).settle hfilter⟩
    · rename_i hactive
      have hnone : s.recorder.active = none := by simpa using hactive
      exact ⟨h.table_filter key, hkeys, hpast, fun n A hA => (Recorder.not_accounts hnone hA).elim⟩

end Tracks

/-! ### Sessions begin and end -/

/-- Programs that keep a register in order in which nothing is written down of them. -/
def tie (R : Register) : Course Scene where
  holds s := s.Attached ∧ R.Tracks s
  leads s t := s.Attached ∧ R.Tracks s → t.Attached ∧ R.Tracks t
  refl _ := id
  trans h₁ h₂ := h₂ ∘ h₁
  keeps h hs := h hs

lemma stop_tie : R.tie.Runs (fun _ => True) stop fun _ s => s.recorder.active = none := by
  rintro s ⟨hs, h⟩ -
  obtain ⟨hattached, hactive⟩ := stop_runs s hs trivial
  refine ⟨fun _ => ⟨hattached hs, ?_⟩, hactive⟩
  obtain ⟨r, hp, ⟨fault, hrun⟩ | ⟨session, hrun⟩⟩ := stop_run hs.linked <;> rw [hrun]
  · refine h.onward rfl hp.sameSession.nextSerial ?_
    intro n A (hA : r.Accounts n A)
    obtain ⟨A', hA'⟩ := hp.sameSession.accounts hA
    obtain rfl := hA.unique (hp.accounts rfl hA')
    exact hA'
  · exact h.onward rfl ((Recorder.conclude_nextSerial r).trans hp.sameSession.nextSerial) fun n A hA =>
      (Recorder.not_accounts (Recorder.conclude_active r) hA).elim

lemma clear_tie : R.tie.Runs (fun _ => True) clear fun _ _ => True := by
  rintro s ⟨hs, h⟩ -
  refine ⟨fun _ => ⟨clear_runs.leads hs trivial hs, ?_⟩, fun _ _ => trivial⟩
  rw [clear_run]
  exact h.onward rfl (Recorder.drop_nextSerial s.recorder) fun n A hA =>
    (Recorder.not_accounts (Recorder.drop_active s.recorder) hA).elim

/-- A session begins: it has no requests yet. -/
lemma begin_attach_tie (serial : ℕ) : R.tie.Runs
    (fun s => s.recorder.active = none ∧ s.recorder.nextSerial = serial)
    (byRecorder Recorder.begin >>= fun _ => changePage (attach · serial)) fun _ _ => True := by
  rintro s ⟨hs, h⟩ hfree
  refine ⟨fun _ => ⟨(begin_attach_runs serial).leads hs hfree hs, ?_⟩, fun _ _ => trivial⟩
  rw [begin_attach_run]
  refine ⟨h.table, h.keys, h.past.mono (Nat.le_succ _), ?_⟩
  rintro n A ⟨a, ha, rfl, rfl⟩
  cases ha
  exact h.past.counts

lemma start_tie : R.tie.Runs (fun _ => True) start fun _ _ => True := start_runs_of stop_tie begin_attach_tie

end Register

/-! ### Everything that can happen -/

/-- The course of a scene in which no request begins or ends, be it one of the page or of its browser. -/
def idle : Course Scene where
  holds := Orderly
  leads s t := Path false s t ∧ t.browser.counted = s.browser.counted
  refl _ := ⟨.refl, rfl⟩
  trans h h' := ⟨h.1.trans h'.1, h'.2.trans h.2⟩
  keeps h hs := (course false).keeps h.1 hs

instance : Admits idle false true true true true where
  orderly h := h
  changed page browser listeners observers log _ hr hn hb _ _ _ :=
    ⟨.single (.changed _ page browser listeners observers log hr hn), hb.resolve_left nofun⟩
  obeyed signal _ hin hc _ _ := ⟨.single (.obeyed _ signal _ hin hc), rfl⟩

/-- What happens is no request of the page, unless its browser reports it. -/
def Action.isBrowsed : Action → Bool
  | requestReported _ _ | endReported _ _ => true
  | a => !a.isRequest

lemma Action.browsed_cases {a : Action} (ha : a.isBrowsed = true) :
    (∃ key reported, a = .requestReported key reported) ∨ (∃ key status, a = .endReported key status) ∨
      a.isRequest = false := by
  cases a with
  | requestReported key reported => exact .inl ⟨key, reported, rfl⟩
  | endReported key status => exact .inr (.inl ⟨key, status, rfl⟩)
  | _ => exact .inr (.inr (by simpa [isBrowsed] using ha))

namespace Register.Tracks

variable {R : Register} {s : Scene} {a : Action}

/-- **Whatever happens, the register tells what the active session counts.** -/
theorem step (h : R.Tracks s) (hs : s.Attached) (ha : a.isBrowsed = true) :
    (R.next s a).Tracks (s.step a).scene := by
  have h' := h.withLog []
  have hs' := hs.withLog []
  suffices hperform : (R.next s a).Tracks ((perform a).run { s with log := [] }).2 from hperform.withLog []
  have lifecycle : ∀ {act : Act Answer}, R.tie.Runs (fun _ => True) act (fun _ _ => True) →
      R.Tracks (act.run { s with log := [] }).2 := fun hact => (hact.leads ⟨hs', h'⟩ trivial ⟨hs', h'⟩).2
  obtain ⟨key, reported, rfl⟩ | ⟨key, status, rfl⟩ | hr := Action.browsed_cases ha
  · unfold perform
    rw [snd_run_unanswered]
    exact h'.requestReported hs' key reported
  · unfold perform
    rw [snd_run_unanswered]
    exact h'.endReported hs' key status
  · have idly : a.isInner = true → R.Tracks ((perform a).run { s with log := [] }).2 := fun hin => by
      have hrun : Stays idle (perform a) := perform_runs a hin (fun h => hr.symm.trans h) (.inr rfl)
        (fun _ => rfl) (fun _ => rfl) fun _ => rfl
      obtain ⟨hp, hb⟩ := hrun.leads (s := { s with log := [] }) hs'.toOrderly trivial
      exact h'.quiet hs' hp hb
    cases a with
    | start => exact lifecycle (.map start_tie)
    | stop => exact lifecycle (.map (stop_tie.weaken fun _ _ _ => trivial))
    | clear => exact lifecycle (.bind clear_tie fun _ => .pure fun _ _ _ => trivial)
    | requestReported key reported => cases hr
    | endReported key status => cases hr
    | _ => exact idly rfl

lemma run {actions : List Action} (h : R.Tracks s) (hs : s.Attached) (ha : ∀ a ∈ actions, a.isBrowsed = true) :
    (R.run s actions).Tracks (s.after actions) := by
  induction actions generalizing R s with
  | nil => exact h
  | cons a rest ih =>
    obtain ⟨hfirst, hrest⟩ := List.forall_mem_cons.1 ha
    exact ih (h.step hs hfirst) (hs.step a) hrest

end Register.Tracks

/-- Nothing is written down of a scene in which nothing has happened yet. -/
lemma Fresh.tracks {s : Scene} (h : s.Fresh) (hb : s.browser.counted = []) : Register.Tracks {} s where
  table := hb
  keys := .nil
  past := ⟨nofun, nofun, nofun⟩
  account _ _ hA := (Recorder.not_accounts h.recorder.active hA).elim

/-- **What a session counts of the requests that its browser has reported**, over all sessions and whatever else has
happened: as long as no request of another session has ended in it and none was reported twice, those under way are its
own that have not ended, and all its responses are to its own requests.  A request that was counted for another session
is taken for one of its own when it ends. -/
theorem reported_requests_counted {s : Scene} (h : s.Fresh) (hb : s.browser.counted = []) {actions : List Action}
    (ha : ∀ a ∈ actions, a.isBrowsed = true) {active : Recorder.Active}
    (hactive : (s.after actions).recorder.active = some active) :
    let R := Register.run {} s actions
    let n := active.serial
    R.Counts n active.traffic.account ∧
      (R.strangers n = [] → R.repeats n = [] → active.traffic.inFlight = (R.own n).length) ∧
        (R.strangers n = [] → ∀ e ∈ R.answered n, e.request.serial = n) := by
  intro R n
  have hcounts : R.Counts n active.traffic.account :=
    ((h.tracks hb).run (Reachable.fresh h).attached ha).account n _ ⟨active, hactive, rfl, rfl⟩
  refine ⟨hcounts, fun hstrangers hrepeats => ?_, fun hstrangers e he => ?_⟩
  · have hle := hcounts.le_own
    have hge := hcounts.own_le
    rw [hrepeats] at hle
    rw [hstrangers] at hge
    exact le_antisymm hle hge
  · obtain ⟨hmem, hduring⟩ := List.mem_filter.1 he
    have hown := List.filter_eq_nil_iff.1 hstrangers e hmem
    simp only [Bool.and_eq_true, beq_iff_eq] at hduring
    simpa [hduring.1] using hown

/-- A session goes on while a request of the one before it is under way. -/
def nextSessionRun : List Action := [
  .link,
  .start,
  .requestReported "a" { url := "/api/a" },
  .stop,
  .start,
  .requestReported "b" { url := "/api/b" },
  .requestReported "c" { url := "/api/c", method := "post" },
  .endReported "c" 201]

theorem nextSessionRun_counted : ∃ active, (emptyScene.after nextSessionRun).recorder.active = some active ∧
    active.serial = 1 ∧ active.traffic.inFlight = 1 ∧
      active.traffic.account.answered = [("/api/c", "POST", 201)] := by
  obtain ⟨active, hactive⟩ : ∃ active, (emptyScene.after nextSessionRun).recorder.active = some active :=
    Option.isSome_iff_exists.1 (by decide +kernel)
  have hserial : active.serial = 1 := by
    have : (emptyScene.after nextSessionRun).serial? = some 1 := by decide +kernel
    rw [serial?, hactive] at this
    exact Option.some.inj this
  have hbrowsed : ∀ a ∈ nextSessionRun, a.isBrowsed = true := by decide
  have hcounted := reported_requests_counted emptyScene_fresh rfl hbrowsed hactive
  rw [hserial] at hcounted
  obtain ⟨hcounts, hflight, -⟩ := hcounted
  refine ⟨active, hactive, hserial, ?_, ?_⟩
  · rw [hflight (by decide +kernel) (by decide +kernel)]
    decide +kernel
  · rw [hcounts.answered]
    decide +kernel

/-- A request of the session before ends while another one of this session is under way. -/
def lateEndRun : List Action := [
  .link,
  .start,
  .requestReported "a" { url := "/api/a" },
  .stop,
  .start,
  .requestReported "b" { url := "/api/b" },
  .endReported "a" 200]

/-- The request of the session before is taken for one of the session that is active: its response is there, and the
session has no request under way any more, though its own one has not ended. -/
theorem late_end_misplaced :
    (emptyScene.after lateEndRun).serial? = some 1 ∧
      ((Register.run {} emptyScene lateEndRun).own 1).map (·.url) = ["/api/b"] ∧
        ((Register.run {} emptyScene lateEndRun).strangers 1).map (·.request.serial) = [0] ∧
          (emptyScene.after lateEndRun).recorder.active.map (·.traffic.inFlight) = some 0 ∧
            (emptyScene.after lateEndRun).recorder.responses.map (·.url) = ["/api/a"] := by
  decide +kernel

end PageTape.Scene
