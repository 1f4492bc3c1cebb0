import PageTape.Proofs.Course
import PageTape.Proofs.Clock.Timers
import PageTape.Recorder.Session
import Mathlib.Logic.Relation

/-!
# The moves of a recorder

* `Linked r` — what a recorder keeps straight: all that a session waits for has its timer on the clock, no timer is
  for anything else, and no text waits while the session is paused;
* `Move may r r'` — one thing that a recorder does to its state, with all that must hold for it: a text is recorded, a
  step is added for the user or by the recorder itself, a timer is set or goes off, time passes;
* `Move.linked` — every move keeps a recorder linked, so that `Path`, any number of moves, is a `Course`;
* `Deed` — the moves that leave the network as it is.  A course that allows these (`Admits`) is kept to by all that is
  recorded of page and user.

What a recorder does is told here once; the invariants of a recording are shown for each move.
-/

namespace PageTape

/-- A step that the recorder adds by itself, for what the page or the network did. -/
def StepKind.isSynthetic : StepKind → Bool
  | .waitForElement | .waitForHidden | .waitForNetworkIdle | .assert => true
  | _ => false

namespace Recorder

/-! ### What a recorder keeps straight -/

/-- All that a session waits for has its timer on the clock, and every timer is for that. -/
structure Active.Linked (a : Active) (c : Clock Alarm) : Prop where
  inputs : a.inputs.Tied Alarm.input c
  mutations : a.mutations.Tied (fun _ => Alarm.mutations) c
  idle : ∀ n, a.traffic.idleTimer = some n → ∃ t ∈ c.timers, t.seq = n ∧ t.alarm = .idle
  isIdle : ∀ t ∈ c.timers, t.alarm = .idle → a.traffic.idleTimer = some t.seq
  since : ∀ w ∈ a.inputs.waiting, w.payload.since = w.since
  status : a.session.status = .recording ∨ a.session.status = .paused
  quiet : a.session.status = .paused → a.inputs.waiting = []

/-- **What a recorder keeps straight.** -/
structure Linked (r : Recorder) : Prop where
  sound : r.clock.Sound
  free : r.active = none → r.clock.timers = []
  active : ∀ a, r.active = some a → a.Linked r.clock

lemma input_injective : Function.Injective Alarm.input := fun _ _ h => by injection h

lemma mutations_injective : Function.Injective fun _ : Unit => Alarm.mutations := fun _ _ _ => rfl

/-! ### Steps -/

/-- The step fills the field of a text with it, at the time of its last event. -/
def Fills (step : Step) (w : Waiting String Typed) : Prop :=
  step.kind = .fill ∧ step.selector = some w.key ∧ step.value = some w.payload.value ∧
    step.timestamp = stampOf w.payload.since

/-- The steps once a text is recorded: the newest one takes it if it has filled the same field, else there is one
more. -/
inductive Takes (w : Waiting String Typed) : List Step → List Step → Prop
  | update (steps : List Step) (last : Step) (h : isAbout .fill w.key last = true) :
      Takes w (steps ++ [last])
        (steps ++ [{ last with value := some w.payload.value, timestamp := stampOf w.payload.since }])
  | append (steps : List Step) (step : Step) (h : Fills step w)
      (hnew : ∀ last ∈ steps.getLast?, isAbout .fill w.key last = false) : Takes w steps (steps ++ [step])

/-- The session with other steps. -/
def Active.withSteps (a : Active) (steps : List Step) : Active := { a with session := { a.session with steps } }

/-- The session with another state. -/
def Active.withStatus (a : Active) (status : Status) : Active := { a with session := { a.session with status } }

/-- The requests that are counted. -/
def Traffic.ledger (t : Traffic) : Nat × List Response × List (Nat × String × String) :=
  (t.inFlight, t.responses, t.opened)

/-- What a recorder may do besides recording: its clock go back, its steps be edited by hand, its requests be
counted. -/
structure Leave where
  back : Bool := false
  edits : Bool := false
  counts : Bool := false

/-! ### Moves -/

/-- **One thing that a recorder does to its state.** -/
inductive Move (may : Leave) : Recorder → Recorder → Prop
  /-- the notices change -/
  | told (r : Recorder) (notices : List Notice) : Move may r { r with notices }
  /-- other callbacks -/
  | attended (r : Recorder) (onAdded onUpdated : Reaction) : Move may r { r with onAdded, onUpdated }
  /-- the text that has waited longest is recorded before its time -/
  | flushed {r : Recorder} {a : Active} {w : Waiting String Typed} {rest : List (Waiting String Typed)}
      {steps : List Step} (notices : List Notice) (h : r.active = some a) (hr : a.session.status = .recording)
      (hw : a.inputs.waiting = w :: rest) (hs : Takes w a.session.steps steps) :
      Move may r { r with
        clock := r.clock.cancel w.timer
        active := some { a.withSteps steps with inputs := a.inputs.drop w.key }
        lastUserActionAt := stampOf w.payload.since, notices }
  /-- the timer of a text goes off -/
  | rung {r : Recorder} {a : Active} {w : Waiting String Typed} {steps : List Step} (notices : List Notice)
      (h : r.active = some a) (hr : a.session.status = .recording) (hw : w ∈ a.inputs.waiting)
      (hfirst : ∀ u ∈ r.clock.timers, (a.inputs.timerOf Alarm.input w).Ahead u)
      (hs : Takes w a.session.steps steps) :
      Move may r { r with
        clock := r.clock.ring (a.inputs.timerOf Alarm.input w)
        active := some { a.withSteps steps with inputs := a.inputs.drop w.key }
        lastUserActionAt := stampOf w.payload.since, notices }
  /-- a step is added for what the user does now -/
  | acted {r : Recorder} {a : Active} {step : Step} (notices : List Notice) (h : r.active = some a)
      (hr : a.session.status = .recording) (hw : a.inputs.waiting = []) (hk : step.kind.isSynthetic = false)
      (ht : step.timestamp = r.now)
      (hf : step.kind = .fill → ∀ s ∈ a.session.steps, s.kind = .fill → s.selector ≠ step.selector)
      (hc : step.kind = .select → ∀ last ∈ a.session.steps.getLast?, last.kind = .select →
        last.selector ≠ step.selector) :
      Move may r { r with
        active := some (a.withSteps (a.session.steps ++ [step]))
        lastUserActionAt := step.timestamp, notices }
  /-- the newest step takes another choice -/
  | rechosen {r : Recorder} {a : Active} {steps : List Step} {last : Step} (notices : List Notice)
      (value : Option String) (h : r.active = some a) (hw : a.inputs.waiting = [])
      (hs : a.session.steps = steps ++ [last]) (hk : last.kind = .select) :
      Move may r { r with active := some (a.withSteps (steps ++ [{ last with value }])), notices }
  /-- a step is added by the recorder itself -/
  | noted {r : Recorder} {a : Active} {step : Step} (notices : List Notice) (h : r.active = some a)
      (hr : a.session.status = .recording) (hk : step.kind.isSynthetic = true) (ht : step.timestamp = r.now) :
      Move may r { r with active := some (a.withSteps (a.session.steps ++ [step])), notices }
  /-- the steps are edited by hand -/
  | edited {r : Recorder} {a : Active} (steps : List Step) (last : Int) (notices : List Notice)
      (h : r.active = some a) (he : may.edits = true) :
      Move may r { r with active := some (a.withSteps steps), lastUserActionAt := last, notices }
  /-- changes of the page are kept for later -/
  | heeded {r : Recorder} {a : Active} (payload : List Page.Mutation) (h : r.active = some a) :
      Move may r { r with
        clock := (a.mutations.schedule r.clock r.clock.now .mutations () payload).2
        active := some { a with
          mutations := (a.mutations.schedule r.clock r.clock.now .mutations () payload).1 } }
  /-- the timer for the changes of the page goes off -/
  | settled {r : Recorder} {a : Active} {w : Waiting Unit (List Page.Mutation)} (h : r.active = some a)
      (hw : w ∈ a.mutations.waiting)
      (hfirst : ∀ u ∈ r.clock.timers, (a.mutations.timerOf (fun _ => Alarm.mutations) w).Ahead u) :
      Move may r { r with
        clock := r.clock.ring (a.mutations.timerOf (fun _ => Alarm.mutations) w)
        active := some { a with mutations := a.mutations.drop w.key } }
  /-- more is known of the network -/
  | counted {r : Recorder} {a : Active} {traffic : Traffic} (h : r.active = some a)
      (hi : traffic.idleTimer = a.traffic.idleTimer)
      (hc : may.counts = true ∨ traffic.ledger = a.traffic.ledger) :
      Move may r { r with active := some { a with traffic } }
  /-- a timer is set for an idle network -/
  | idleSet {r : Recorder} {a : Active} (delay : Rat) (h : r.active = some a) (hn : a.traffic.idleTimer = none) :
      Move may r { r with
        clock := (r.clock.setTimer delay .idle).2
        active := some { a with traffic := { a.traffic with idleTimer := some r.clock.nextSeq } } }
  /-- the timer for an idle network is cancelled -/
  | idleCancelled {r : Recorder} {a : Active} {n : Nat} (h : r.active = some a)
      (hn : a.traffic.idleTimer = some n) :
      Move may r { r with
        clock := r.clock.cancel n
        active := some { a with traffic := { a.traffic with idleTimer := none } } }
  /-- the timer for an idle network goes off -/
  | idleRung {r : Recorder} {a : Active} {t : Timer Alarm} (h : r.active = some a) (ht : t ∈ r.clock.timers)
      (ha : t.alarm = .idle) (hfirst : ∀ u ∈ r.clock.timers, t.Ahead u) :
      Move may r { r with
        clock := r.clock.ring t
        active := some { a with traffic := { a.traffic with idleTimer := none } } }
  /-- the session is paused -/
  | paused {r : Recorder} {a : Active} (h : r.active = some a) (hw : a.inputs.waiting = []) :
      Move may r { r with active := some (a.withStatus .paused) }
  /-- the session goes on -/
  | resumed {r : Recorder} {a : Active} (h : r.active = some a) (hs : a.session.status = .paused) :
      Move may r { r with active := some (a.withStatus .recording) }
  /-- time has passed, and no timer is due before -/
  | passed {r : Recorder} (time : Rat) (hdue : ∀ t ∈ r.clock.timers, time ≤ t.due)
      (hb : may.back = true ∨ r.clock.now ≤ time) : Move may r { r with clock := { r.clock with now := time } }

/-- Any number of moves. -/
abbrev Path (may : Leave) : Recorder → Recorder → Prop := Relation.ReflTransGen (Move may)

/-! ### Moves keep a recorder linked -/

namespace Active.Linked

variable {a : Active} {c c' : Clock Alarm} (h : a.Linked c) (hc : c.Sound)
include h hc

/-- A text is taken out together with its timer. -/
lemma takeText {w : Waiting String Typed} (hw : w ∈ a.inputs.waiting)
    (hc' : ∀ t, t ∈ c'.timers ↔ t ∈ c.timers ∧ t.seq ≠ w.timer) (steps : List Step) :
    Active.Linked { a.withSteps steps with inputs := a.inputs.drop w.key } c' := by
  have hset := h.inputs.isSet w hw
  have hother : ∀ t : Timer Alarm, t.alarm ≠ .input w.key → (t ∈ c'.timers ↔ t ∈ c.timers) := fun t ht =>
    (hc' t).trans (hc.and_seq_ne_iff hset ht)
  exact {
    inputs := h.inputs.remove hc input_injective hw hc'
    mutations := h.mutations.frame fun t ⟨_, ht⟩ => hother t (by rw [ht]; exact nofun)
    idle := fun n hn => by
      obtain ⟨t, ht, hs, ha⟩ := h.idle n hn
      exact ⟨t, (hother t (by rw [ha]; exact nofun)).2 ht, hs, ha⟩
    isIdle := fun t ht ha => h.isIdle t ((hother t (by rw [ha]; exact nofun)).1 ht) ha
    since := fun v hv => h.since v (Debouncer.mem_drop.1 hv).1
    status := h.status
    quiet := fun hp => by simp [Debouncer.drop, h.quiet hp] }

/-- The changes of the page are taken out together with their timer. -/
lemma takeChanges {w : Waiting Unit (List Page.Mutation)} (hw : w ∈ a.mutations.waiting)
    (hc' : ∀ t, t ∈ c'.timers ↔ t ∈ c.timers ∧ t.seq ≠ w.timer) :
    Active.Linked { a with mutations := a.mutations.drop w.key } c' := by
  have hset := h.mutations.isSet w hw
  have hother : ∀ t : Timer Alarm, t.alarm ≠ .mutations → (t ∈ c'.timers ↔ t ∈ c.timers) := fun t ht =>
    (hc' t).trans (hc.and_seq_ne_iff hset ht)
  exact {
    inputs := h.inputs.frame fun t ⟨_, ht⟩ => hother t (by rw [ht]; exact nofun)
    mutations := h.mutations.remove hc mutations_injective hw hc'
    idle := fun n hn => by
      obtain ⟨t, ht, hs, ha⟩ := h.idle n hn
      exact ⟨t, (hother t (by rw [ha]; exact nofun)).2 ht, hs, ha⟩
    isIdle := fun t ht ha => h.isIdle t ((hother t (by rw [ha]; exact nofun)).1 ht) ha
    since := h.since
    status := h.status
    quiet := h.quiet }

/-- The timer for an idle network is taken off. -/
lemma takeIdle {u : Timer Alarm} (hu : u ∈ c.timers) (ha : u.alarm = .idle)
    (hc' : ∀ t, t ∈ c'.timers ↔ t ∈ c.timers ∧ t.seq ≠ u.seq) :
    Active.Linked { a with traffic := { a.traffic with idleTimer := none } } c' := by
  have hother : ∀ t : Timer Alarm, t.alarm ≠ .idle → (t ∈ c'.timers ↔ t ∈ c.timers) := fun t ht =>
    (hc' t).trans (hc.and_seq_ne_iff hu (by rwa [ha]))
  exact {
    inputs := h.inputs.frame fun t ⟨_, ht⟩ => hother t (by rw [ht]; exact nofun)
    mutations := h.mutations.frame fun t ⟨_, ht⟩ => hother t (by rw [ht]; exact nofun)
    idle := nofun
    isIdle := fun t ht hta => by
      obtain ⟨ht, hs⟩ := (hc' t).1 ht
      have h₁ := h.isIdle t ht hta
      have h₂ := h.isIdle u hu ha
      rw [h₁, Option.some.injEq] at h₂
      exact absurd h₂ hs
    since := h.since
    status := h.status
    quiet := h.quiet }

/-- Changes of the page are kept, with a new timer for them. -/
lemma keepChanges (payload : List Page.Mutation) :
    Active.Linked { a with mutations := (a.mutations.schedule c c.now .mutations () payload).1 }
      (a.mutations.schedule c c.now .mutations () payload).2 := by
  have hother : ∀ t : Timer Alarm, t.alarm ≠ .mutations →
      (t ∈ (a.mutations.schedule c c.now .mutations () payload).2.timers ↔ t ∈ c.timers) := fun t ht =>
    h.mutations.mem_schedule hc payload ht
  exact {
    inputs := h.inputs.frame fun t ⟨_, ht⟩ => hother t (by rw [ht]; exact nofun)
    mutations := (h.mutations.schedule hc mutations_injective payload).1
    idle := fun n hn => by
      obtain ⟨t, ht, hs, ha⟩ := h.idle n hn
      exact ⟨t, (hother t (by rw [ha]; exact nofun)).2 ht, hs, ha⟩
    isIdle := fun t ht ha => h.isIdle t ((hother t (by rw [ha]; exact nofun)).1 ht) ha
    since := h.since
    status := h.status
    quiet := h.quiet }

/-- A text is kept, with a new timer for it. -/
lemma keepText (hr : a.session.status = .recording) (s : String) (typed : Typed) (ht : typed.since = c.now) :
    Active.Linked { a with inputs := (a.inputs.schedule c c.now (.input s) s typed).1 }
      (a.inputs.schedule c c.now (.input s) s typed).2 := by
  have hother : ∀ t : Timer Alarm, t.alarm ≠ .input s →
      (t ∈ (a.inputs.schedule c c.now (.input s) s typed).2.timers ↔ t ∈ c.timers) := fun t ht =>
    h.inputs.mem_schedule hc typed ht
  exact {
    inputs := (h.inputs.schedule hc input_injective typed).1
    mutations := h.mutations.frame fun t ⟨_, ht⟩ => hother t (by rw [ht]; exact nofun)
    idle := fun n hn => by
      obtain ⟨t, ht, hs, ha⟩ := h.idle n hn
      exact ⟨t, (hother t (by rw [ha]; exact nofun)).2 ht, hs, ha⟩
    isIdle := fun t ht ha => h.isIdle t ((hother t (by rw [ha]; exact nofun)).1 ht) ha
    since := fun v hv => by
      rw [Debouncer.waiting_schedule] at hv
      rcases List.mem_append.1 hv with hv | hv
      · exact h.since v (Debouncer.mem_drop.1 hv).1
      · obtain rfl := List.mem_singleton.1 hv
        exact ht
    status := h.status
    quiet := fun hp => by rw [hr] at hp; cases hp }

omit hc in
/-- A timer is set for an idle network. -/
lemma setIdle (hn : a.traffic.idleTimer = none) (delay : Rat) :
    Active.Linked { a with traffic := { a.traffic with idleTimer := some c.nextSeq } }
      (c.setTimer delay .idle).2 := by
  have hother : ∀ t : Timer Alarm, t.alarm ≠ .idle → (t ∈ (c.setTimer delay .idle).2.timers ↔ t ∈ c.timers) := by
    intro t ht
    rw [Clock.mem_setTimer]
    exact or_iff_right fun e => ht (by rw [e])
  exact {
    inputs := h.inputs.frame fun t ⟨_, ht⟩ => hother t (by rw [ht]; exact nofun)
    mutations := h.mutations.frame fun t ⟨_, ht⟩ => hother t (by rw [ht]; exact nofun)
    idle := fun n hn' => by
      obtain rfl : c.nextSeq = n := by simpa using hn'
      exact ⟨_, (Clock.mem_setTimer _ _).2 (.inl rfl), rfl, rfl⟩
    isIdle := fun t ht ha => by
      rcases (Clock.mem_setTimer _ _).1 ht with rfl | ht
      · rfl
      · rw [h.isIdle t ht ha] at hn
        cases hn
    since := h.since
    status := h.status
    quiet := h.quiet }

end Active.Linked

variable {may : Leave} {r r' : Recorder}

/-- A recorder whose active session, clock and timers are as in a linked one, whatever else it keeps. -/
lemma Linked.of_active {a : Active} (ha : r'.active = some a) (hs : r'.clock.Sound) (hl : a.Linked r'.clock) :
    r'.Linked where
  sound := hs
  free hn := by rw [ha] at hn; cases hn
  active b hb := by
    obtain rfl : a = b := by rw [ha] at hb; exact Option.some.inj hb
    exact hl

/-- **Every move keeps a recorder linked.** -/
theorem Move.linked (hm : Move may r r') (hl : r.Linked) : r'.Linked := by
  have hs := hl.sound
  cases hm with
  | told notices => exact ⟨hs, hl.free, hl.active⟩
  | attended onAdded onUpdated => exact ⟨hs, hl.free, hl.active⟩
  | flushed notices h hr hw _ =>
    exact .of_active rfl (hs.cancel _) ((hl.active _ h).takeText hs (by simp [hw]) (fun t => Clock.mem_cancel) _)
  | rung notices h hr hw hfirst _ =>
    exact .of_active rfl (hs.ring hfirst) ((hl.active _ h).takeText hs hw (fun t => Clock.mem_ring) _)
  | acted notices h hr hw hk ht hf =>
    have ha := hl.active _ h
    exact .of_active rfl hs { ha with }
  | rechosen notices value h hw hst hk =>
    have ha := hl.active _ h
    exact .of_active rfl hs { ha with }
  | noted notices h hr hk ht =>
    have ha := hl.active _ h
    exact .of_active rfl hs { ha with }
  | edited steps last notices h he =>
    have ha := hl.active _ h
    exact .of_active rfl hs { ha with }
  | heeded payload h =>
    have ha := hl.active _ h
    exact .of_active rfl (ha.mutations.schedule hs mutations_injective payload).2 (ha.keepChanges hs payload)
  | settled h hw hfirst =>
    exact .of_active rfl (hs.ring hfirst) ((hl.active _ h).takeChanges hs hw fun t => Clock.mem_ring)
  | counted h hi hc =>
    have ha := hl.active _ h
    exact .of_active rfl hs { ha with idle := by rw [hi]; exact ha.idle, isIdle := by rw [hi]; exact ha.isIdle }
  | idleSet delay h hn => exact .of_active rfl (hs.setTimer _ _) ((hl.active _ h).setIdle hn delay)
  | idleCancelled h hn =>
    have ha := hl.active _ h
    obtain ⟨t, ht, rfl, hta⟩ := ha.idle _ hn
    exact .of_active rfl (hs.cancel _) (ha.takeIdle hs ht hta fun t => Clock.mem_cancel)
  | idleRung h ht hta hfirst =>
    exact .of_active rfl (hs.ring hfirst) ((hl.active _ h).takeIdle hs ht hta fun t => Clock.mem_ring)
  | paused h hw =>
    have ha := hl.active _ h
    exact .of_active rfl hs { ha with status := .inr rfl, quiet := fun _ => hw }
  | resumed h hst =>
    have ha := hl.active _ h
    exact .of_active rfl hs { ha with status := .inl rfl, quiet := nofun }
  | passed time hdue hb =>
    refine ⟨hs.goTo hdue, hl.free, fun a h => ?_⟩
    have ha := hl.active _ h
    exact { ha with inputs := ha.inputs.frame fun t _ => Iff.rfl, mutations := ha.mutations.frame fun t _ => Iff.rfl }

lemma Path.linked (hp : Path may r r') (hl : r.Linked) : r'.Linked := by
  induction hp with
  | refl => exact hl
  | tail _ hm ih => exact hm.linked ih

/-! ### What no move changes -/

/-- The recorder is at work on the same session, or on none as before. -/
structure SameSession (r r' : Recorder) : Prop where
  serial : r'.active.map (·.serial) = r.active.map (·.serial)
  stopped : r'.stopped = r.stopped
  stoppedResponses : r'.stoppedResponses = r.stoppedResponses
  nextSerial : r'.nextSerial = r.nextSerial
  isBound : r'.isBound = r.isBound

lemma SameSession.refl (r : Recorder) : SameSession r r := ⟨rfl, rfl, rfl, rfl, rfl⟩

lemma SameSession.trans {r'' : Recorder} (h : SameSession r r') (h' : SameSession r' r'') : SameSession r r'' :=
  ⟨h'.serial.trans h.serial, h'.stopped.trans h.stopped, h'.stoppedResponses.trans h.stoppedResponses,
    h'.nextSerial.trans h.nextSerial, h'.isBound.trans h.isBound⟩

/-- The session that is active was so before. -/
lemma SameSession.before {a : Active} (h : SameSession r r') (ha : r'.active = some a) :
    ∃ b, r.active = some b ∧ b.serial = a.serial := by
  have hserial : r.active.map (·.serial) = some a.serial := by rw [← h.serial, ha]; rfl
  exact Option.map_eq_some_iff.1 hserial

/-- The session that was active still is. -/
lemma SameSession.after {a : Active} (h : SameSession r r') (ha : r.active = some a) :
    ∃ b, r'.active = some b ∧ b.serial = a.serial := by
  have hserial : r'.active.map (·.serial) = some a.serial := by rw [h.serial, ha]; rfl
  exact Option.map_eq_some_iff.1 hserial

lemma SameSession.forget (h : SameSession r r') : SameSession r { r' with notices := [] } :=
  ⟨h.serial, h.stopped, h.stoppedResponses, h.nextSerial, h.isBound⟩

/-- **No move begins or ends a session.** -/
lemma Move.sameSession (hm : Move may r r') : SameSession r r' := by
  cases hm with
  | told notices | attended onAdded onUpdated | passed time hdue hb => exact ⟨rfl, rfl, rfl, rfl, rfl⟩
  | flushed notices h hr hw hs | rung notices h hr hw hfirst hs | acted notices h hr hw hk ht hf
  | rechosen notices value h hw hs hk | noted notices h hr hk ht | edited steps last notices h he
  | heeded payload h | settled h hw hfirst | counted h hi hc | idleSet delay h hn | idleCancelled h hn
  | idleRung h ht hta hfirst | paused h hw | resumed h hs =>
    exact ⟨by rw [h]; rfl, rfl, rfl, rfl, rfl⟩

lemma Path.sameSession (hp : Path may r r') : SameSession r r' := by
  induction hp with
  | refl => exact .refl _
  | tail _ hm ih => exact ih.trans hm.sameSession

/-- **The requests that are counted change with requests only.** -/
lemma Move.ledger (hm : Move may r r') (hc : may.counts = false) :
    r'.active.map (·.traffic.ledger) = r.active.map (·.traffic.ledger) := by
  cases hm with
  | told notices | attended onAdded onUpdated | passed time hdue hb => rfl
  | counted h hi hcount =>
    rw [h]
    exact congrArg some (hcount.resolve_left fun hm => by rw [hc] at hm; cases hm)
  | flushed notices h hr hw hs | rung notices h hr hw hfirst hs | acted notices h hr hw hk ht hf
  | rechosen notices value h hw hs hk | noted notices h hr hk ht | edited steps last notices h he
  | heeded payload h | settled h hw hfirst | idleSet delay h hn | idleCancelled h hn
  | idleRung h ht hta hfirst | paused h hw | resumed h hs =>
    rw [h]
    rfl

lemma Path.ledger (hp : Path may r r') (hc : may.counts = false) :
    r'.active.map (·.traffic.ledger) = r.active.map (·.traffic.ledger) := by
  induction hp with
  | refl => rfl
  | tail _ hm ih => exact (hm.ledger hc).trans ih

/-- The course of a recorder: it stays linked, and it moves. -/
def course (may : Leave) : Course Recorder where
  holds := Linked
  leads := Path may
  refl _ := .refl
  trans := .trans
  keeps := Path.linked

/-! ### What page and user make a recorder do

Of the moves of a recorder, only those for a request and for an idle network change what it knows of the network.  All
others are deeds: they leave the requests, the timer for an idle network and the waits for one as they are.
-/

/-- The steps that wait for an idle network. -/
def idleWaits (steps : List Step) : List Step := steps.filter (·.kind == .waitForNetworkIdle)

/-- **One thing that page and user make a recorder do**: a move that no request and no idle network has a part in.  By
hand any steps may be added and removed. -/
structure Deed (may : Leave) (r r' : Recorder) : Prop where
  move : Move may r r'
  traffic : r'.active.map (·.traffic) = r.active.map (·.traffic)
  waits : may.edits = true ∨ idleWaits r'.steps = idleWaits r.steps
  now : r.clock.now ≤ r'.clock.now

/-- **A course that allows all that page and user make a recorder do.** -/
class Admits (C : Course Recorder) (may : outParam Leave) : Prop where
  linked {r : Recorder} : C.holds r → r.Linked
  deed {r r' : Recorder} : C.holds r → Deed may r r' → C.leads r r'

/-- A program stays on a course, wherever on it it is begun. -/
abbrev Stays (C : Course Recorder) {α : Type} (act : Act α) : Prop := C.Runs (fun _ => True) act fun _ _ => True

instance (may : Leave) : Admits (course may) may where
  linked h := h
  deed _ h := .single h.move

lemma idleWaits_concat {step : Step} (h : (step.kind == .waitForNetworkIdle) = false) (steps : List Step) :
    idleWaits (steps ++ [step]) = idleWaits steps := by
  simp [idleWaits, h]

lemma Takes.idleWaits {w : Waiting String Typed} {steps steps' : List Step} (h : Takes w steps steps') :
    idleWaits steps' = idleWaits steps := by
  cases h with
  | update steps last h =>
    have hkind : last.kind = .fill := by
      simp only [isAbout, Bool.and_eq_true, beq_iff_eq] at h
      exact h.1
    rw [idleWaits_concat (by simp [hkind]), idleWaits_concat (by simp [hkind])]
  | append steps step h _ => exact idleWaits_concat (by simp [h.1]) steps

lemma steps_of_active {a : Active} (h : r.active = some a) : r.steps = a.session.steps := by simp [steps, h]

end Recorder

end PageTape
