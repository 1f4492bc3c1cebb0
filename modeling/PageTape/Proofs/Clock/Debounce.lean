import PageTape.Proofs.Clock.Step

/-!
# Debouncing

What is pending in the debouncer of a program is told by its history (`History.madeAt`): a call to schedule a key is
pending as long as nothing else has happened to the key, and calls are pending in the order in which they were made.

* `debouncer_keeps_step` — the pending keys and the live timers of the debouncer correspond one to one; every callback
  that the debouncer runs is the one of a call with nothing in between, and no call is run twice; a callback that is run
  by a timer has waited for the delay; all keys are flushed in the order in which they were scheduled.
-/

namespace PageTape.ClockProgram

/-! ### What happens to a key -/

/-- A call to schedule a key: when the debouncer thought it was, and with which callback. -/
structure Call where
  key : String
  since : Rat
  callback : Callback

/-- The key of the debouncer that a timer is set for. -/
def Alarm.key? : Alarm → Option String
  | .wake key _ _ => some key
  | .call _ => none

namespace Moment

/-- The call that is made. -/
def made? (m : Moment) : Option Call :=
  match m.event with
  | .performs (.schedule key callback) => some ⟨key, m.state.seen, callback⟩
  | _ => none

/-- The callback that the debouncer runs, and its key. -/
def run? (m : Moment) : Option (String × Callback) :=
  match m.event with
  | .flushes key (some callback) => some (key, callback)
  | .rings t (some callback) => t.alarm.key?.map (·, callback)
  | _ => none

/-- A key is scheduled, cancelled or flushed, or its callback is run. -/
def touches (m : Moment) (key : String) : Bool :=
  match m.event with
  | .performs (.schedule k _) | .performs (.drop k) | .flushes k _ => k == key
  | .performs .dropAll => true
  | .rings t (some _) => t.alarm.key? == some key
  | _ => false

lemma touches_of_made {m : Moment} {c : Call} (h : m.made? = some c) : m.touches c.key = true := by
  unfold made? at h
  split at h
  · rename_i he
    cases h
    simp [touches, he]
  · cases h

lemma touches_of_run {m : Moment} {key : String} {cb : Callback} (h : m.run? = some (key, cb)) :
    m.touches key = true := by
  unfold run? at h
  split at h
  · rename_i he
    cases h
    simp [touches, he]
  · rename_i t cb' he
    obtain ⟨k, hk, h⟩ := Option.map_eq_some_iff.1 h
    cases h
    simp [touches, he, hk]
  · cases h

end Moment

/-- The callback of the call made at one moment is the one that is run at another one: in between, nothing has happened to
the key. -/
def IsRunOf (ms : List Moment) (i j : ℕ) : Prop :=
  i < j ∧ ∃ m n c, ms[i]? = some m ∧ ms[j]? = some n ∧ m.made? = some c ∧ n.run? = some (c.key, c.callback) ∧
    ∀ l x, i < l → l < j → ms[l]? = some x → x.touches c.key = false

/-- A key has last been scheduled at a moment. -/
def LastMade (ms : List Moment) (key : String) (i : ℕ) : Prop :=
  (∃ m c, ms[i]? = some m ∧ m.made? = some c ∧ c.key = key) ∧
    ∀ l x c, i < l → ms[l]? = some x → x.made? = some c → c.key ≠ key

variable {start delay : Rat} {ms ns : List Moment} {s s' : State} {e : Event} {c c' : Call} {m : Moment} {i j : ℕ}

/-! ### What is pending -/

/-- The calls that are pending, in the order in which they are. -/
def State.calls (s : State) : List Call := s.debouncer.waiting.map fun w => ⟨w.key, w.since, w.payload⟩

@[simp] lemma call_calls (s : State) (cb : Callback) : (s.call cb).calls = s.calls := by
  rw [State.calls, call_debouncer]
  rfl

/-- The calls that are pending without a key. -/
lemma calls_drop (d : Debouncer String Callback) (key : String) :
    ((d.drop key).waiting.map fun w => (⟨w.key, w.since, w.payload⟩ : Call)) =
      (d.waiting.map fun w => (⟨w.key, w.since, w.payload⟩ : Call)).filter (!key == ·.key) := by
  rw [Debouncer.drop, List.filter_map]
  refine congrArg _ (List.filter_congr fun w _ => ?_)
  simp only [Function.comp_apply, Bool.beq_comm]

/-- **What an event does to the pending calls**: those whose key it touches are pending no longer, and the one that it
makes is pending behind all others. -/
theorem Step.pending (hs : Step s e s') (h : s.Sound) :
    s'.calls = s.calls.filter (!(Moment.mk s e).touches ·.key) ++ (Moment.mk s e).made?.toList := by
  have hkept : ∀ l : List Call, l = l.filter (fun _ => true) ++ [] := fun l => by simp
  cases hs with
  | performs c ht =>
    cases c with
    | schedule key cb =>
      show ((s.debouncer.schedule s.clock s.seen (.wake key s.seen cb) key cb).1.waiting.map _) = _
      rw [Debouncer.waiting_schedule, List.map_append, calls_drop]
      rfl
    | drop key =>
      show ((s.debouncer.cancel _ _).1.waiting.map _) = _
      rw [Debouncer.cancel_fst, calls_drop]
      exact (List.append_nil _).symm
    | dropAll =>
      show [] = _
      simp [Moment.touches, Moment.made?]
    | cancel name =>
      refine Eq.trans ?_ (hkept _)
      unfold State.perform
      dsimp only
      split <;> rfl
    | later | advance | runAll | flush | flushAll | isPending | skew | fail => exact hkept _
  | @flushes key keys rest w ht hw =>
    rw [call_calls, State.calls, calls_drop]
    exact (List.append_nil _).symm
  | @skips key keys rest ht hw =>
    show s.calls = _
    refine Eq.trans ?_ (List.append_nil _).symm
    refine (List.filter_eq_self.2 fun c hc => ?_).symm
    obtain ⟨w, hm, rfl⟩ := List.mem_map.1 hc
    have := Debouncer.find?_eq_none.1 hw w hm
    simpa [Moment.touches] using fun e => this e.symm
  | calls hr ha =>
    rw [call_calls]
    refine (hkept _).trans ?_
    simp [Moment.touches, Moment.made?, ha, Alarm.key?, State.calls]
  | wakes hr ha =>
    rw [call_calls, State.calls, calls_drop]
    simp [Moment.touches, Moment.made?, ha, Alarm.key?, State.calls]
  | @renews t tasks key since cb hr ha hp =>
    have hw := Tidy.isOwn h t hr.mem key since cb ha
    refine Eq.trans ?_ (hkept _)
    rw [State.calls, Debouncer.renew_waiting hw ⟨key, since, s.clock.nextSeq, cb⟩ rfl, List.map_map]
    refine List.map_congr_left fun v hv => ?_
    simp only [Function.comp_apply, beq_iff_eq]
    split
    · rename_i hk
      rw [Tidy.eq_of_key h hv hw hk]
    · rfl
  | arrives | flushed | ranAll => exact hkept _

/-- What is run has been pending. -/
lemma Step.run_mem (hs : Step s e s') (h : s.Sound) {key : String} {cb : Callback}
    (hr : (Moment.mk s e).run? = some (key, cb)) :
    ∃ since, ⟨key, since, cb⟩ ∈ s.calls ∧
      ∀ t called, e = .rings t called → hasPassed since (t.due - s.skew) s.debouncer.delay = true := by
  cases hs with
  | flushes ht hw =>
    obtain ⟨hm, hk⟩ := Debouncer.mem_of_find? hw
    cases hr
    exact ⟨_, List.mem_map.2 ⟨_, hm, by rw [hk]⟩, nofun⟩
  | calls hring ha => simp [Moment.run?, ha, Alarm.key?] at hr
  | @wakes t tasks key' since cb' hring ha hp =>
    obtain ⟨rfl, rfl⟩ : key' = key ∧ cb' = cb := by simpa [Moment.run?, ha, Alarm.key?] using hr
    refine ⟨since, List.mem_map.2 ⟨_, Tidy.isOwn h t hring.mem _ _ _ ha, rfl⟩, ?_⟩
    rintro _ _ ⟨⟩
    exact hp
  | performs | skips | renews | arrives | flushed | ranAll => cases hr

/-! ### Pending calls and the history -/

/-- A call was made at a moment, and nothing has happened to its key since. -/
def MadeAt (ms : List Moment) (i : ℕ) (c : Call) : Prop :=
  (∃ m, ms[i]? = some m ∧ m.made? = some c) ∧ ∀ l x, i < l → ms[l]? = some x → x.touches c.key = false

lemma getElem?_snoc {x : Moment} : (ms ++ [m])[i]? = some x ↔ ms[i]? = some x ∨ i = ms.length ∧ x = m := by
  rcases lt_trichotomy i ms.length with hi | rfl | hi
  · rw [List.getElem?_append_left hi]
    exact (or_iff_left fun h => hi.ne h.1).symm
  · simp [eq_comm]
  · rw [List.getElem?_append_right hi.le, List.getElem?_eq_none hi.le]
    simp [hi.ne', Nat.sub_ne_zero_of_lt hi]

namespace MadeAt

lemma lt (h : MadeAt ms i c) : i < ms.length := by
  obtain ⟨⟨m, hm, -⟩, -⟩ := h
  exact (List.getElem?_eq_some_iff.1 hm).1

/-- A call stays untouched where something else happens, -/
lemma snoc (h : MadeAt ms i c) (ht : m.touches c.key = false) : MadeAt (ms ++ [m]) i c := by
  obtain ⟨⟨x, hx, hc⟩, hrest⟩ := h
  refine ⟨⟨x, getElem?_snoc.2 (.inl hx), hc⟩, fun l y hl hy => ?_⟩
  rcases getElem?_snoc.1 hy with hy | ⟨-, rfl⟩
  · exact hrest l y hl hy
  · exact ht

/-- was untouched before, -/
lemma of_snoc (h : MadeAt (ms ++ [m]) i c) (ht : m.touches c.key = false) : MadeAt ms i c := by
  obtain ⟨⟨x, hx, hc⟩, hrest⟩ := h
  rcases getElem?_snoc.1 hx with hx | ⟨-, rfl⟩
  · exact ⟨⟨x, hx, hc⟩, fun l y hl hy => hrest l y hl (getElem?_snoc.2 (.inl hy))⟩
  · rw [Moment.touches_of_made hc] at ht
    cases ht

/-- and is the newest moment where it is made. -/
lemma made (h : m.made? = some c) : MadeAt (ms ++ [m]) ms.length c := by
  refine ⟨⟨m, getElem?_snoc.2 (.inr ⟨rfl, rfl⟩), h⟩, fun l y hl hy => ?_⟩
  rcases getElem?_snoc.1 hy with hy | ⟨rfl, -⟩
  · exact absurd (List.getElem?_eq_some_iff.1 hy).1 hl.not_gt
  · exact absurd hl (lt_irrefl _)

lemma unique (h : MadeAt ms i c) (h' : MadeAt ms j c') (hk : c.key = c'.key) : i = j := by
  obtain ⟨⟨x, hx, hc⟩, hrest⟩ := h
  obtain ⟨⟨y, hy, hc'⟩, hrest'⟩ := h'
  rcases lt_trichotomy i j with hij | hij | hij
  · have := hrest j y hij hy
    rw [hk, Moment.touches_of_made hc'] at this
    cases this
  · exact hij
  · have := hrest' i x hij hx
    rw [← hk, Moment.touches_of_made hc] at this
    cases this

lemma lastMade (h : MadeAt ms i c) : LastMade ms c.key i := by
  obtain ⟨⟨x, hx, hc⟩, hrest⟩ := h
  refine ⟨⟨x, c, hx, hc, rfl⟩, fun l y c' hl hy hc' hk => ?_⟩
  have := hrest l y hl hy
  rw [← hk, Moment.touches_of_made hc'] at this
  cases this

end MadeAt

lemma LastMade.unique {key : String} (h : LastMade ms key i) (h' : LastMade ms key j) : i = j := by
  obtain ⟨⟨x, c, hx, hc, hk⟩, hrest⟩ := h
  obtain ⟨⟨y, c', hy, hc', hk'⟩, hrest'⟩ := h'
  rcases lt_trichotomy i j with hij | hij | hij
  · exact absurd hk' (hrest j y c' hij hy hc')
  · exact hij
  · exact absurd hk (hrest' i x c hij hx hc)

/-- The delay of the debouncer never changes. -/
lemma Step.delay_eq (hs : Step s e s') : s'.debouncer.delay = s.debouncer.delay := by
  cases hs with
  | performs c ht =>
    cases c with
    | schedule key cb => exact s.debouncer.cancel_delay s.clock key
    | drop key => exact s.debouncer.cancel_delay s.clock key
    | cancel name =>
      unfold State.perform
      dsimp only
      split <;> rfl
    | later | dropAll | advance | runAll | flush | flushAll | isPending | skew | fail => rfl
  | calls => rw [call_debouncer]
  | flushes | wakes =>
    rw [call_debouncer]
    rfl
  | skips | renews | arrives | flushed | ranAll => rfl

lemma History.delay_eq (h : History start delay ms s) : s.debouncer.delay = delay := by
  induction h with
  | begin => rfl
  | order _ _ _ ih | drift _ _ ih => exact ih
  | snoc _ hs ih => exact (step?_eq_some hs).delay_eq.trans ih

/-- **What is pending is told by the history**: each pending call was made at some moment, and its key has been left alone
since; calls are pending in the order in which they were made. -/
theorem History.madeAt (h : History start delay ms s) :
    (∀ c ∈ s.calls, ∃ i, MadeAt ms i c) ∧
      s.calls.Pairwise fun c c' => ∀ i j, MadeAt ms i c → MadeAt ms j c' → i < j := by
  induction h with
  | begin => exact ⟨nofun, .nil⟩
  | order _ _ _ ih | drift _ _ ih => exact ih
  | @snoc ms s s' e h hs ih =>
    obtain ⟨hmade, hord⟩ := ih
    rw [(step?_eq_some hs).pending h.sound]
    have hkept : ∀ c ∈ s.calls.filter (!(Moment.mk s e).touches ·.key),
        c ∈ s.calls ∧ (Moment.mk s e).touches c.key = false := by simp
    constructor
    · intro c hc
      rcases List.mem_append.1 hc with hc | hc
      · obtain ⟨hc, ht⟩ := hkept c hc
        obtain ⟨i, hi⟩ := hmade c hc
        exact ⟨i, hi.snoc ht⟩
      · exact ⟨_, .made (Option.mem_toList.1 hc)⟩
    · refine List.pairwise_append.2 ⟨(hord.filter _).imp_of_mem fun hc hc' hij i j hi hj => ?_, ?_, ?_⟩
      · exact hij i j (hi.of_snoc (hkept _ hc).2) (hj.of_snoc (hkept _ hc').2)
      · cases (Moment.mk s e).made? <;> simp
      · intro c hc c' hc' i j hi hj
        obtain rfl := hj.unique (.made (Option.mem_toList.1 hc')) rfl
        exact (hi.of_snoc (hkept c hc).2).lt

/-! ### All keys are flushed -/

/-- The keys flushed by a command with so many tasks left, its own included. -/
def visits (depth : ℕ) (ms : List Moment) : List String :=
  ms.filterMap fun m => match m.event with
    | .flushes key _ => if m.state.tasks.length = depth then some key else none
    | _ => none

lemma visits_snoc (depth : ℕ) (ms : List Moment) (m : Moment) :
    visits depth (ms ++ [m]) = visits depth ms ++ visits depth [m] := List.filterMap_append

/-- A callback puts its commands before what is to be done. -/
lemma call_tasks (s : State) (cb : Callback) : ∃ above, (s.call cb).tasks = above ++ s.tasks := by
  cases cb with
  | calling name commands => exact ⟨_, rfl⟩

/-- A command ends everything, or puts something before what is to be done. -/
lemma perform_tasks (s : State) (c : Command) : ((s.perform c).tasks = [] ∧ (s.perform c).failure ≠ none) ∨
    ∃ above, (s.perform c).tasks = above ++ s.tasks := by
  cases c with
  | cancel name =>
    unfold State.perform
    dsimp only
    split <;> exact .inr ⟨[], rfl⟩
  | advance | runAll | flush | flushAll => exact .inr ⟨[_], rfl⟩
  | later | schedule | drop | dropAll | isPending | skew => exact .inr ⟨[], rfl⟩
  | fail message => exact .inl ⟨rfl, nofun⟩

/-- What is to be done later waits until what comes before it is done. -/
lemma Step.below (hs : Step s e s') {task : Task} {above below : List Task}
    (ht : s.tasks = task :: (above ++ below)) :
    (s'.tasks = [] ∧ s'.failure ≠ none) ∨ ∃ above', s'.tasks = above' ++ below := by
  have hcall : ∀ (s : State) (cb : Callback) (above : List Task), s.tasks = above ++ below →
      ∃ above', (s.call cb).tasks = above' ++ below := by
    intro s cb above hs
    obtain ⟨new, h⟩ := call_tasks s cb
    exact ⟨new ++ above, by rw [h, hs, List.append_assoc]⟩
  have hring : ∀ {t tasks}, Ringing s t tasks → ∃ above', tasks = above' ++ below := by
    rintro t tasks ⟨-, -, ⟨_, _, _, _, rfl⟩ | ⟨_, _, rfl⟩⟩
    · exact ⟨task :: above, ht⟩
    · exact ⟨_ :: task :: above, by rw [ht]; rfl⟩
  cases hs with
  | performs c h =>
    obtain ⟨-, rfl⟩ := List.cons.inj (h.symm.trans ht)
    refine (perform_tasks { s with tasks := above ++ below } c).imp_right ?_
    rintro ⟨new, h⟩
    exact ⟨new ++ above, by rw [h, List.append_assoc]⟩
  | @flushes key keys _ w h _ =>
    obtain ⟨-, rfl⟩ := List.cons.inj (h.symm.trans ht)
    exact .inr (hcall _ _ (.flush keys :: above) rfl)
  | @skips key keys _ h _ =>
    obtain ⟨-, rfl⟩ := List.cons.inj (h.symm.trans ht)
    exact .inr ⟨.flush keys :: above, rfl⟩
  | calls hr _ =>
    obtain ⟨above', h⟩ := hring hr
    exact .inr (hcall _ _ above' h)
  | wakes hr _ _ =>
    obtain ⟨above', h⟩ := hring hr
    exact .inr (hcall _ _ above' h)
  | renews hr _ _ => exact .inr (hring hr)
  | arrives h _ | flushed h | ranAll h _ =>
    obtain ⟨-, rfl⟩ := List.cons.inj (h.symm.trans ht)
    exact .inr ⟨above, rfl⟩

/-- The next of some keys is flushed, or all of them have been. -/
lemma Step.flush_next (hs : Step s e s') {keys : List String} {rest : List Task} (ht : s.tasks = .flush keys :: rest) :
    (∃ key keys' called, keys = key :: keys' ∧ e = .flushes key called ∧
      ∃ above, s'.tasks = above ++ .flush keys' :: rest) ∨
    keys = [] ∧ e = .ends ∧ s'.tasks = rest := by
  cases hs with
  | @flushes key keys' _ w h _ =>
    cases h.symm.trans ht
    exact .inl ⟨key, keys', _, rfl, rfl, call_tasks _ _⟩
  | @skips key keys' _ h _ =>
    cases h.symm.trans ht
    exact .inl ⟨key, keys', _, rfl, rfl, [], rfl⟩
  | flushed h =>
    cases h.symm.trans ht
    exact .inr ⟨rfl, rfl, rfl⟩
  | performs _ h | arrives h _ | ranAll h _ => cases h.symm.trans ht
  | calls hr _ | wakes hr _ _ | renews hr _ _ =>
    obtain ⟨-, -, ⟨_, _, h, -⟩ | ⟨_, h, -⟩⟩ := hr <;> cases h.symm.trans ht

/-- Keys are flushed one after the other, until all are or something fails. -/
lemma Leads.visited {keys : List String} {rest : List Task} (hl : Leads s ms s') (ht : s.tasks = .flush keys :: rest)
    (hin : ∀ x ∈ ms, rest.length < x.state.tasks.length) :
    (∃ above n, s'.tasks = above ++ .flush (keys.drop n) :: rest ∧ visits (rest.length + 1) ms = keys.take n) ∨
      s'.tasks.length ≤ rest.length ∧ visits (rest.length + 1) ms <+: keys ∧
        (s'.failure = none → visits (rest.length + 1) ms = keys) := by
  induction hl with
  | refl => exact .inl ⟨[], 0, ht, rfl⟩
  | drift _ _ ih => exact ih hin
  | @snoc ms t s' e _ hs ih =>
    have hlt := hin _ (List.mem_append_right _ List.mem_cons_self)
    obtain ⟨above, n, htasks, hv⟩ | ⟨hle, -⟩ := ih fun x hx => hin x (List.mem_append_left _ hx)
    swap
    · exact absurd hlt hle.not_gt
    rw [visits_snoc, hv]
    cases above with
    | cons task above =>
      -- something is done before the next key
      have hnone : visits (rest.length + 1) [⟨t, e⟩] = [] := by
        unfold visits
        cases e <;> simp [htasks]
        omega
      rw [hnone, List.append_nil]
      rcases (step?_eq_some hs).below htasks with ⟨h, hf⟩ | ⟨above', h⟩
      · exact .inr ⟨by simp [h], List.take_prefix _ _, fun hn => absurd hn hf⟩
      · exact .inl ⟨above', n, h, rfl⟩
    | nil =>
      rcases (step?_eq_some hs).flush_next htasks with ⟨key, keys', called, hk, rfl, above', h⟩ | ⟨hk, rfl, h⟩
      · have hone : visits (rest.length + 1) [⟨t, .flushes key called⟩] = [key] := by
          simp [visits, htasks]
        have htake : keys.take n ++ [key] = keys.take (n + 1) := by
          rw [List.take_add_one, ← List.head?_drop, hk]
          rfl
        rw [hone, htake]
        refine .inl ⟨above', n + 1, ?_, rfl⟩
        rw [h, ← List.drop_drop, hk]
        rfl
      · have hone : visits (rest.length + 1) [⟨t, .ends⟩] = [] := rfl
        have hall : keys.take n = keys := List.take_of_length_le (List.drop_eq_nil_iff.1 hk)
        rw [hone, List.append_nil, hall]
        exact .inr ⟨by rw [h], List.prefix_rfl, fun _ => rfl⟩

/-! ### The debouncer and the clock -/

/-- The pending keys with the numbers of their timers, and the live timers that are set for a key, are the same; no key is
pending twice, and no timer is set twice. -/
structure State.OneToOne (s : State) : Prop where
  same : (s.debouncer.waiting.map fun w => (w.key, w.timer)).Perm
    (s.clock.timers.filterMap fun t => t.alarm.key?.map (·, t.seq))
  keys : (s.debouncer.waiting.map (·.key)).Nodup
  numbers : (s.clock.timers.map (·.seq)).Nodup

lemma State.Sound.oneToOne (h : s.Sound) : s.OneToOne where
  same := by
    refine (List.perm_ext_iff_of_nodup (.of_map Prod.fst ?_) ?_).2 fun p => ?_
    · rw [List.map_map]
      exact Tidy.keys h
    · refine List.pairwise_filterMap.2 (List.Pairwise.imp ?_ (Tidy.sorted h))
      intro t u hlt p hp q hq e
      obtain ⟨k, -, rfl⟩ := Option.map_eq_some_iff.1 hp
      obtain ⟨k', -, rfl⟩ := Option.map_eq_some_iff.1 hq
      exact hlt.ne' (congrArg Prod.snd e)
    · simp only [List.mem_map, List.mem_filterMap, Option.map_eq_some_iff]
      constructor
      · rintro ⟨w, hw, rfl⟩
        obtain ⟨t, ht, hn, ha⟩ := Tidy.exists_timer h hw
        exact ⟨t, ht, w.key, by rw [ha]; rfl, by rw [hn]⟩
      · rintro ⟨t, ht, k, hk, rfl⟩
        cases ha : t.alarm with
        | call cb =>
          rw [ha] at hk
          cases hk
        | wake key since cb =>
          rw [ha] at hk
          obtain rfl := Option.some.inj hk
          exact ⟨_, Tidy.isOwn h t ht _ _ _ ha, rfl⟩
  keys := Tidy.keys h
  numbers := (Tidy.sorted h).nodup

/-- Every moment of a history has a history of its own. -/
lemma History.before (h : History start delay ms s) (hm : ms[j]? = some m) :
    History start delay (ms.take j) m.state ∧ ∃ s', m.state.step? = some (m.event, s') := by
  induction h with
  | begin => simp at hm
  | order _ _ _ ih | drift _ _ ih => exact ih hm
  | @snoc ms s s' e h hs ih =>
    rcases getElem?_snoc.1 hm with hm | ⟨rfl, rfl⟩
    · rw [List.take_append_of_le_length (List.getElem?_eq_some_iff.1 hm).1.le]
      exact ih hm
    · rw [List.take_left]
      exact ⟨h, s', hs⟩

/-- A call that was made before a moment and left alone until then. -/
lemma madeAt_take (hc : ∃ x, ms[i]? = some x ∧ x.made? = some c)
    (ht : ∀ l x, i < l → l < j → ms[l]? = some x → x.touches c.key = false) (hij : i < j) : MadeAt (ms.take j) i c := by
  obtain ⟨x, hx, hm⟩ := hc
  refine ⟨⟨x, by rwa [List.getElem?_take_of_lt hij], hm⟩, fun l y hl hy => ?_⟩
  have hlj : l < j := by
    have := (List.getElem?_eq_some_iff.1 hy).1
    rw [List.length_take] at this
    omega
  rw [List.getElem?_take_of_lt hlj] at hy
  exact ht l y hl hlj hy

/-- What the debouncer runs is the callback of a call, which had been left alone, and where a timer runs it, the delay has
passed since. -/
lemma History.run_made (h : History start delay ms s) {key : String} {cb : Callback} (hm : ms[j]? = some m)
    (hr : m.run? = some (key, cb)) : ∃ i c, IsRunOf ms i j ∧ MadeAt (ms.take j) i c ∧ c.key = key ∧
      ∀ t called, m.event = .rings t called → delay ≤ t.due - m.state.skew - c.since := by
  obtain ⟨hb, s', hs⟩ := h.before hm
  obtain ⟨since, hc, hp⟩ := (step?_eq_some hs).run_mem hb.sound hr
  obtain ⟨i, hi⟩ := hb.madeAt.1 _ hc
  have hij : i < j := hi.lt.trans_le (List.length_take_le _ _)
  refine ⟨i, _, ?_, hi, rfl, fun t called he => ?_⟩
  · obtain ⟨⟨x, hx, hmade⟩, hrest⟩ := hi
    refine ⟨hij, x, m, _, ?_, hm, hmade, hr, fun l y hl hlj hy => hrest l y hl ?_⟩
    · rwa [List.getElem?_take_of_lt hij] at hx
    · rwa [List.getElem?_take_of_lt hlj]
  · have := hp t called he
    rw [hb.delay_eq] at this
    simpa [hasPassed] using this

/-- No two runs are of the same call: the earlier one would be between the call and the later one. -/
lemma IsRunOf.unique {j' : ℕ} (h : IsRunOf ms i j) (h' : IsRunOf ms i j') : j = j' := by
  have hle : ∀ {j j'}, IsRunOf ms i j → IsRunOf ms i j' → j ≤ j' := by
    rintro j j' ⟨-, m, n, c, hm, hn, hmade, hrun, hrest⟩ ⟨hij', m', n', c', hm', hn', hmade', hrun', -⟩
    obtain rfl := Option.some.inj (hm.symm.trans hm')
    obtain rfl := Option.some.inj (hmade.symm.trans hmade')
    by_contra hlt
    have := hrest j' n' hij' (not_le.1 hlt) hn'
    rw [Moment.touches_of_run hrun'] at this
    cases this
  exact (hle h h').antisymm (hle h' h)

lemma Moment.since_of_made (h : m.made? = some c) : c.since = m.state.seen := by
  unfold made? at h
  split at h <;> cases h
  rfl

/-- Where a timer runs the callback of a call, the delay has passed since the call. -/
lemma History.waited (h : History start delay ms s) (hij : IsRunOf ms i j) {n : Moment} (hm : ms[i]? = some m)
    (hn : ms[j]? = some n) {t : Timer Alarm} {called : Option Callback} (he : n.event = .rings t called) :
    delay ≤ t.due - n.state.skew - m.state.seen := by
  obtain ⟨hlt, m', n', c, hm', hn', hmade, hrun, hrest⟩ := hij
  obtain rfl := Option.some.inj (hm.symm.trans hm')
  obtain rfl := Option.some.inj (hn.symm.trans hn')
  obtain ⟨i', c', -, hi', hk, hd⟩ := h.run_made hn hrun
  -- what was pending is this call, as it has been left alone
  obtain rfl := (madeAt_take ⟨m, hm, hmade⟩ hrest hlt).unique hi' hk.symm
  obtain ⟨⟨x, hx, hmade'⟩, -⟩ := hi'
  rw [List.getElem?_take_of_lt hlt] at hx
  obtain rfl := Option.some.inj (hm.symm.trans hx)
  obtain rfl := Option.some.inj (hmade.symm.trans hmade')
  exact Moment.since_of_made hmade ▸ hd t called he

/-- The pending keys are those of calls. -/
lemma History.exists_lastMade (h : History start delay ms s) {key : String}
    (hkey : key ∈ s.debouncer.waiting.map (·.key)) : ∃ i, LastMade ms key i := by
  obtain ⟨w, hw, rfl⟩ := List.mem_map.1 hkey
  obtain ⟨i, hi⟩ := h.madeAt.1 _ (List.mem_map_of_mem hw)
  exact ⟨i, hi.lastMade⟩

/-- Keys are pending in the order of their last calls. -/
lemma History.keys_inOrder (h : History start delay ms s) : (s.debouncer.waiting.map (·.key)).Pairwise
    fun key key' => ∀ i j, LastMade ms key i → LastMade ms key' j → i < j := by
  refine List.pairwise_map.2 ((List.pairwise_map.1 h.madeAt.2).imp_of_mem fun {w v} hw hv hlt i j hi hj => ?_)
  obtain ⟨i', hi'⟩ := h.madeAt.1 _ (List.mem_map_of_mem hw)
  obtain ⟨j', hj'⟩ := h.madeAt.1 _ (List.mem_map_of_mem hv)
  rw [hi.unique hi'.lastMade, hj.unique hj'.lastMade]
  exact hlt i' j' hi' hj'

/-- When all keys are flushed, they are visited in the order in which they are pending. -/
lemma Leads.flushed {s₁ t : State} (hs : s.step? = some (.performs .flushAll, s₁)) (hl : Leads s₁ ns t)
    (hin : ∀ x ∈ ns, s.tasks.length ≤ x.state.tasks.length) :
    visits s.tasks.length ns <+: s.debouncer.waiting.map (·.key) ∧
      (t.tasks.length < s.tasks.length → t.failure = none →
        visits s.tasks.length ns = s.debouncer.waiting.map (·.key)) := by
  obtain ⟨rest, ht, rfl⟩ : ∃ rest, s.tasks = .perform .flushAll :: rest ∧
      s₁ = { s with tasks := .flush (s.debouncer.waiting.map (·.key)) :: rest } := by
    cases step?_eq_some hs with
    | performs c ht => exact ⟨_, ht, rfl⟩
  rw [ht, List.length_cons] at hin ⊢
  rcases hl.visited rfl fun x hx => hin x hx with ⟨above, n, htasks, hv⟩ | ⟨-, hp, hall⟩
  · rw [hv]
    refine ⟨List.take_prefix _ _, fun hlt _ => ?_⟩
    rw [htasks, List.length_append, List.length_cons] at hlt
    omega
  · exact ⟨hp, fun _ => hall⟩

/-- **The debouncer and the clock stay in step**, whatever commands are given, whatever the callbacks do and however the
debouncer's view of the time changes: the pending keys and the live timers for keys correspond one to one; every callback
that the debouncer runs is the one of a call whose key has not been scheduled, cancelled, flushed or run in between, and
no two runs are of the same call; where a timer runs it, the delay has passed by the debouncer's own time; and all keys
are flushed in the order in which they were last scheduled, up to one whose callback fails. -/
theorem debouncer_keeps_step (h : History start delay ms s) :
    s.OneToOne ∧
    (∀ j m, ms[j]? = some m → m.run? ≠ none → ∃ i, IsRunOf ms i j) ∧
    (∀ i j j', IsRunOf ms i j → IsRunOf ms i j' → j = j') ∧
    (∀ i j m n t called, IsRunOf ms i j → ms[i]? = some m → ms[j]? = some n → n.event = .rings t called →
      delay ≤ t.due - n.state.skew - m.state.seen) ∧
    ∀ s₁, s.step? = some (.performs .flushAll, s₁) → ∀ keys, keys = s.debouncer.waiting.map (·.key) →
      (∀ key ∈ keys, ∃ i, LastMade ms key i) ∧
      keys.Pairwise (fun key key' => ∀ i j, LastMade ms key i → LastMade ms key' j → i < j) ∧
      ∀ ns t, Leads s₁ ns t → (∀ x ∈ ns, s.tasks.length ≤ x.state.tasks.length) →
        visits s.tasks.length ns <+: keys ∧
          (t.tasks.length < s.tasks.length → t.failure = none → visits s.tasks.length ns = keys) := by
  refine ⟨h.sound.oneToOne, fun j m hm hrun => ?_, fun i j j' hj hj' => hj.unique hj',
    fun i j m n t called hij hm hn he => h.waited hij hm hn he, ?_⟩
  · obtain ⟨⟨key, cb⟩, hrun⟩ := Option.ne_none_iff_exists'.1 hrun
    obtain ⟨i, c, hi, -⟩ := h.run_made hm hrun
    exact ⟨i, hi⟩
  · rintro s₁ hs keys rfl
    exact ⟨fun key hkey => h.exists_lastMade hkey, h.keys_inOrder, fun ns t hl hin => hl.flushed hs hin⟩

/-! ### Timers that go off too early -/

/-- Three keys are scheduled, and the first one once more at last; the callback of the second one flushes what is left. -/
def typing : List Command := [
  .schedule "name" (.calling "half a name" []),
  .schedule "city" (.calling "city" [.flushAll]),
  .schedule "street" (.calling "street" []),
  .schedule "name" (.calling "name" [])]

/-- The debouncer's time then lags behind, so that all timers go off too early. -/
def lagging : State := ({ typing.foldl State.obey (begin 0 100) with skew := 30 } : State).order (.advance 200)

lemma lagging_history : ∃ ms, ms.length = 4 ∧ History 0 100 ms lagging := by
  have h₀ : History 0 100 [] (begin 0 100) := .begin
  have h₁ := h₀.obey rfl (.schedule "name" (.calling "half a name" []))
  have h₂ := h₁.obey (by decide +kernel) (.schedule "city" (.calling "city" [.flushAll]))
  have h₃ := h₂.obey (by decide +kernel) (.schedule "street" (.calling "street" []))
  have h₄ := h₃.obey (by decide +kernel) (.schedule "name" (.calling "name" []))
  exact ⟨_, by decide +kernel, (h₄.drift 30).order (by decide +kernel) (.advance 200)⟩

lemma lagging_next :
    (match (lagging.after 5).tasks with | .perform .flushAll :: _ => true | _ => false) = true := by decide +kernel

/-- The timer of the second key runs its callback at last, and this one flushes the other keys, in the order in which they
were last scheduled. -/
theorem lagging_keeps_step :
    (lagging.after 5).OneToOne ∧ (∃ ms i, History 0 100 ms (lagging.after 5) ∧ IsRunOf ms i 8) ∧
      ∃ s, (lagging.after 5).step? = some (.performs .flushAll, s) ∧ visits 2 (s.moments 3) = ["street", "name"] := by
  obtain ⟨ms, hlen, h⟩ := lagging_history
  have hlater := h.leads (leads_after lagging 5)
  obtain ⟨hone, hrun, -, -, hflush⟩ := debouncer_keeps_step hlater
  refine ⟨hone, ?_, ?_⟩
  · have h₈ : (ms ++ lagging.moments 5)[8]? = (lagging.moments 5)[4]? := by
      rw [List.getElem?_append_right (by omega), hlen]
    have hsome : (((lagging.moments 5)[4]?).bind Moment.run?).isSome = true := by decide +kernel
    obtain ⟨⟨key, callback⟩, hr⟩ := Option.isSome_iff_exists.1 hsome
    obtain ⟨m, hm, hr⟩ := Option.bind_eq_some_iff.1 hr
    obtain ⟨i, hi⟩ := hrun 8 m (h₈.trans hm) (by simp [hr])
    exact ⟨_, i, hlater, hi⟩
  · have hnext := lagging_next
    have htasks : (lagging.after 5).tasks.length = 2 := by decide +kernel
    obtain ⟨s, hs⟩ : ∃ s, (lagging.after 5).step? = some (.performs .flushAll, s) := by
      split at hnext
      · rename_i ht
        rw [State.step?, ht]
        exact ⟨_, rfl⟩
      · cases hnext
    have hmoments : (lagging.after 5).moments 4 = ⟨lagging.after 5, .performs .flushAll⟩ :: s.moments 3 := by
      rw [State.moments, hs]
    have hafter : (lagging.after 5).after 4 = s.after 3 := by rw [State.after, hs]
    have hin : ∀ x ∈ (lagging.after 5).moments 4, 2 ≤ x.state.tasks.length := by decide +kernel
    have hend : ((lagging.after 5).after 4).tasks.length < 2 ∧ ((lagging.after 5).after 4).failure = none := by
      decide +kernel
    rw [hmoments] at hin
    rw [hafter] at hend
    obtain ⟨-, -, hvisits⟩ := hflush s hs ["street", "name"] (by decide +kernel)
    rw [htasks] at hvisits
    exact ⟨s, hs, (hvisits _ _ (leads_after s 3) (List.forall_mem_cons.1 hin).2).2 hend.1 hend.2⟩

end PageTape.ClockProgram
