import PageTape.Proofs.Abreast
import PageTape.Proofs.Clock.Plan
import PageTape.Proofs.Recorder.Signal
import PageTape.Proofs.Recorder.View

/-!
# Recorders that differ in what a tool does

* `Stage.Similar`, `Stage.Twin` — two recorders have recorded the same, wait for the same, and know the same of the
  network: they differ in the numbers of their timers, in the alternative selectors of their steps, and in changes of
  the page that are those of a tool alone and wait to be looked at;
* `Stage.shown` — the timers of a recorder, but for one that is set for such changes only;
* `Similar.takeText`, `Similar.takeChanges`, `Similar.takeIdle`, `Twin.keepText`, `Twin.keepChanges`, `Twin.setIdle` —
  what waits is taken out and set by both, and they stay twins;
* `Similar.takeOwnChanges`, `Twin.keepOwnChanges` — one of them does so for changes of the tool alone.
-/

namespace PageTape

open Dom (Id Location)

namespace Recorder

variable {r r' : Recorder} {a a' : Active}

/-! ### One recorder -/

/-- A recorder whose timers stand in the order in which they were set. -/
structure Neat (r : Recorder) : Prop where
  linked : r.Linked
  sorted : r.clock.Sorted

namespace Neat

variable {c : Clock Alarm}

lemma of_active (ha : r'.active = some a) (hs : r'.clock.Sound) (hl : a.Linked r'.clock) (hsorted : r'.clock.Sorted) :
    r'.Neat := ⟨.of_active ha hs hl, hsorted⟩

section Active

variable (hr : r.Neat) (h : r.active = some a)
include hr h

/-- Steps may be added and changed. -/
lemma withSteps (steps : List Step) : ({ r with active := some (a.withSteps steps) } : Recorder).Neat :=
  have hm : Move anything r { r with active := some (a.withSteps steps) } :=
    .edited steps r.lastUserActionAt r.notices h rfl
  ⟨hm.linked hr.linked, hr.sorted⟩

/-- What is known of the network may change, but for the timer. -/
lemma withTraffic (t : Traffic) (ht : t.idleTimer = a.traffic.idleTimer) :
    ({ r with active := some { a with traffic := t } } : Recorder).Neat :=
  have ha := hr.linked.active a h
  .of_active rfl hr.linked.sound { ha with idle := ht ▸ ha.idle, isIdle := ht ▸ ha.isIdle } hr.sorted

/-- A text is taken out together with its timer. -/
lemma takeText {w : Waiting String Typed} (hw : w ∈ a.inputs.waiting)
    (hc : c.timers = (r.clock.cancel w.timer).timers) (hs : c.Sound) :
    ({ r with clock := c, active := some { a with inputs := a.inputs.drop w.key } } : Recorder).Neat :=
  have hl := (hr.linked.active a h).takeText hr.linked.sound hw (fun t => by rw [hc, Clock.mem_cancel]) a.session.steps
  .of_active rfl hs hl (by
    unfold Clock.Sorted
    rw [hc]
    exact hr.sorted.cancel _)

/-- Changes of the page are taken out together with their timer. -/
lemma takeChanges {w : Waiting Unit (List Page.Mutation)} (hw : w ∈ a.mutations.waiting)
    (hc : c.timers = (r.clock.cancel w.timer).timers) (hs : c.Sound) :
    ({ r with clock := c, active := some { a with mutations := a.mutations.drop w.key } } : Recorder).Neat :=
  have hl := (hr.linked.active a h).takeChanges hr.linked.sound hw fun t => by rw [hc, Clock.mem_cancel]
  .of_active rfl hs hl (by
    unfold Clock.Sorted
    rw [hc]
    exact hr.sorted.cancel _)

/-- The timer for an idle network is taken off. -/
lemma takeIdle {u : Timer Alarm} (hu : u ∈ r.clock.timers) (ha : u.alarm = .idle)
    (hc : c.timers = (r.clock.cancel u.seq).timers) (hs : c.Sound) :
    ({ r with clock := c, active := some { a with traffic := { a.traffic with idleTimer := none } } } : Recorder).Neat :=
  have hl := (hr.linked.active a h).takeIdle hr.linked.sound hu ha fun t => by rw [hc, Clock.mem_cancel]
  .of_active rfl hs hl (by
    unfold Clock.Sorted
    rw [hc]
    exact hr.sorted.cancel _)

/-- A text is kept, with a timer for it. -/
lemma keepText (hrec : a.session.status = .recording) (k : String) (typed : Typed) (ht : typed.since = r.clock.now) :
    ({ r with
      clock := (a.inputs.schedule r.clock r.clock.now (.input k) k typed).2
      active := some { a with inputs := (a.inputs.schedule r.clock r.clock.now (.input k) k typed).1 } } :
      Recorder).Neat :=
  have ha := hr.linked.active a h
  have hs := hr.linked.sound
  .of_active rfl (ha.inputs.schedule hs input_injective typed).2 (ha.keepText hs hrec k typed ht)
    (Debouncer.sorted_schedule hr.sorted hs a.inputs _ k typed)

/-- Changes of the page are kept, with a timer for them. -/
lemma keepChanges (changes : List Page.Mutation) :
    ({ r with
      clock := (a.mutations.schedule r.clock r.clock.now .mutations () changes).2
      active := some { a with mutations := (a.mutations.schedule r.clock r.clock.now .mutations () changes).1 } } :
      Recorder).Neat :=
  have ha := hr.linked.active a h
  have hs := hr.linked.sound
  .of_active rfl (ha.mutations.schedule hs mutations_injective changes).2 (ha.keepChanges hs changes)
    (Debouncer.sorted_schedule hr.sorted hs a.mutations _ () changes)

/-- A timer is set for an idle network. -/
lemma setIdle (hn : a.traffic.idleTimer = none) (delay : Rat) :
    ({ r with
      clock := (r.clock.setTimer delay .idle).2
      active := some { a with traffic := { a.traffic with idleTimer := some r.clock.nextSeq } } } : Recorder).Neat :=
  have hs := hr.linked.sound
  .of_active rfl (hs.setTimer _ _) ((hr.linked.active a h).setIdle hn delay) (hr.sorted.setTimer hs _ _)

end Active

/-- What a recorder keeps besides its clock and its session does not matter. -/
lemma congr (hr : r.Neat) (hclock : r'.clock = r.clock) (hactive : r'.active = r.active) : r'.Neat where
  linked := ⟨hclock ▸ hr.linked.sound, fun h => hclock ▸ hr.linked.free (hactive ▸ h),
    fun a h => hclock ▸ hr.linked.active a (hactive ▸ h)⟩
  sorted := hclock ▸ hr.sorted

end Neat

lemma Neat.drop (h : r.Neat) : r.drop.Neat where
  linked := .of_free (drop_active r) h.linked.drop_timers
  sorted := by
    unfold Clock.Sorted
    rw [h.linked.drop_timers]
    exact .nil

/-- What is left of a recorder without its session, its clock and its notices. -/
def rest (r : Recorder) : Recorder := { r with clock := {}, active := none, stopped := none, notices := [] }

lemma rest_drop (r : Recorder) : r.drop.rest = r.rest := by
  unfold Recorder.drop
  cases r.active <;> rfl

/-- What is known of the network, but for the number of a timer. -/
def Traffic.unnumbered (t : Traffic) : Traffic := { t with idleTimer := t.idleTimer.map fun _ => 0 }

/-- What waits of the texts, but for when and by which timer. -/
def Active.awaited (a : Active) : List (String × Typed) := a.inputs.waiting.map fun w => (w.key, w.payload)

lemma changeActive_of_none (h : r.active = none) (f : Active → Active) : r.changeActive f = r := by
  rw [changeActive, h, Option.map_none, ← h]

lemma changeActive_of_some (h : r.active = some a) (f : Active → Active) :
    r.changeActive f = { r with active := some (f a) } := by
  rw [changeActive, h, Option.map_some]

namespace Stage

/-! ### Changes of the tool -/

/-- What is set on a clock, but for the time to look at changes if there are none to be seen. -/
def seen (changes : List Page.Mutation) (plan : List (Rat × Alarm)) : List (Rat × Alarm) :=
  plan.filter fun e => e.2 != .mutations || !changes.isEmpty

section Seen

variable (changes : List Page.Mutation) (plan : List (Rat × Alarm))

lemma seen_filter (q : Rat × Alarm → Bool) : seen changes (plan.filter q) = (seen changes plan).filter q :=
  List.filter_comm _ _ _

lemma seen_cons {e : Rat × Alarm} (he : e.2 ≠ .mutations) : seen changes (e :: plan) = e :: seen changes plan :=
  List.filter_cons_of_pos (by simp [he])

/-- Whatever there is to be seen, it does not matter for the other timers. -/
lemma seen_others : seen changes (plan.filter (·.2 != .mutations)) = plan.filter (·.2 != .mutations) := by
  unfold seen
  refine List.filter_eq_self.2 fun e he => ?_
  simp [(List.mem_filter.1 he).2]

lemma others_seen : (seen changes plan).filter (·.2 != .mutations) = plan.filter (·.2 != .mutations) := by
  rw [← seen_filter, seen_others]

lemma seen_nil : seen [] plan = plan.filter (·.2 != .mutations) := by simp [seen]

lemma seen_of_ne_nil (h : changes ≠ []) : seen changes plan = plan := by
  simp [seen, h]

end Seen

variable (K : Stage)

/-- A change of the page that only adds, changes or removes elements of the tool. -/
def isOwnChange (m : Page.Mutation) : Bool :=
  match m.change with
  | .children added removed => added.all (K.own.contains ·) && removed.all (K.shed.contains ·)
  | .attr _ => K.own.contains m.target

/-- The changes that are not those of the tool alone. -/
def pageChanges (changes : List Page.Mutation) : List Page.Mutation := changes.filter (!K.isOwnChange ·)

/-- The elements that a change has brought or taken away take part in the recording. -/
structure Knows (m : Page.Mutation) : Prop where
  added : ∀ id ∈ m.added, id ∈ K.own ∨ id ∈ K.page
  removed : ∀ id ∈ m.removed, id ∈ K.shed ∨ id ∈ K.page

/-- The changes that wait and are not those of the tool alone. -/
def awaitedChanges (a : Active) : List Page.Mutation := K.pageChanges (a.mutations.waiting.flatMap (·.payload))

/-- The changes that wait and are not those of the tool alone, if a session is active. -/
def waitingChanges (r : Recorder) : List Page.Mutation := (r.active.map K.awaitedChanges).getD []

/-- **The timers of a recorder**, but for one that is set for changes of the tool only. -/
def shown (r : Recorder) : List (Rat × Alarm) := seen (K.waitingChanges r) r.clock.plan

/-! ### Two recorders -/

/-- Sessions that differ in what the tool does. -/
structure SimilarSessions (a a' : Active) : Prop where
  serial : a.serial = a'.serial
  session : a.session.plain = a'.session.plain
  inputDelay : a.inputs.delay = a'.inputs.delay
  texts : a.awaited = a'.awaited
  mutationDelay : a.mutations.delay = a'.mutations.delay
  changes : K.awaitedChanges a = K.awaitedChanges a'
  traffic : a.traffic.unnumbered = a'.traffic.unnumbered
  typed : ∀ w ∈ a.awaited, w.2.element ∈ K.page
  knows : ∀ m ∈ K.awaitedChanges a, K.Knows m

/-- Recorders that differ in what the tool does, and perhaps in their time. -/
structure Similar (r r' : Recorder) : Prop where
  neat : r.Neat
  neat' : r'.Neat
  config : r.config = K.config
  rest : r.rest = r'.rest
  stopped : r.stopped.map Session.plain = r'.stopped.map Session.plain
  active : Option.Rel K.SimilarSessions r.active r'.active
  shown : K.shown r = K.shown r'

/-- **Recorders that differ in what the tool does.** -/
structure Twin (r r' : Recorder) : Prop extends K.Similar r r' where
  time : r.clock.now = r'.clock.now

variable {K}

lemma waitingChanges_of_some (h : r.active = some a) : K.waitingChanges r = K.awaitedChanges a := by
  simp [waitingChanges, h]

lemma shown_of_some (h : r.active = some a) : K.shown r = seen (K.awaitedChanges a) r.clock.plan := by
  rw [shown, waitingChanges_of_some h]

lemma SimilarSessions.symm (h : K.SimilarSessions a a') : K.SimilarSessions a' a where
  serial := h.serial.symm
  session := h.session.symm
  inputDelay := h.inputDelay.symm
  texts := h.texts.symm
  mutationDelay := h.mutationDelay.symm
  changes := h.changes.symm
  traffic := h.traffic.symm
  typed := h.texts ▸ h.typed
  knows := h.changes ▸ h.knows

namespace Similar

variable (h : K.Similar r r')
include h

lemma sessions : (r.active = none ∧ r'.active = none) ∨
    ∃ a a', r.active = some a ∧ r'.active = some a' ∧ K.SimilarSessions a a' := by
  have hactive := h.active
  cases ha : r.active <;> cases ha' : r'.active <;> rw [ha, ha'] at hactive <;> cases hactive
  · exact .inl ⟨rfl, rfl⟩
  · exact .inr ⟨_, _, rfl, rfl, ‹_›⟩

lemma config_eq : r.config = r'.config := (congrArg Recorder.config h.rest :)

lemma config' : r'.config = K.config := h.config_eq.symm.trans h.config

protected lemma symm : K.Similar r' r where
  neat := h.neat'
  neat' := h.neat
  config := h.config'
  rest := h.rest.symm
  stopped := h.stopped.symm
  active := by
    obtain ⟨ha, ha'⟩ | ⟨a, a', ha, ha', haa⟩ := h.sessions
    · rw [ha, ha']
      exact .none
    · rw [ha, ha']
      exact .some haa.symm
  shown := h.shown.symm

lemma isRecording : r.isRecording = r'.isRecording := by
  obtain ⟨ha, ha'⟩ | ⟨a, a', ha, ha', haa⟩ := h.sessions
  · simp [Recorder.isRecording, ha, ha']
  · have hstatus : a.session.status = a'.session.status := (congrArg Session.status haa.session :)
    simp [Recorder.isRecording, ha, ha', hstatus]

lemma plain_steps : r.steps.map Step.plain = r'.steps.map Step.plain := by
  obtain ⟨ha, ha'⟩ | ⟨a, a', ha, ha', haa⟩ := h.sessions
  · simp [steps, ha, ha']
  · have hsteps : a.session.steps.map Step.plain = a'.session.steps.map Step.plain :=
      (congrArg Session.steps haa.session :)
    simpa [steps, ha, ha'] using hsteps

lemma newest? : Option.Rel (fun x y => x.1 = y.1 ∧ x.2.plain = y.2.plain) r.newest? r'.newest? := by
  have hsteps := h.plain_steps
  have hlength : r.steps.length = r'.steps.length := by simpa using congrArg List.length hsteps
  have hlast : r.steps.getLast?.map Step.plain = r'.steps.getLast?.map Step.plain := by
    rw [← List.getLast?_map, ← List.getLast?_map, hsteps]
  unfold Recorder.newest?
  cases hl : r.steps.getLast? <;> cases hl' : r'.steps.getLast? <;> rw [hl, hl'] at hlast
  · exact .none
  · cases hlast
  · cases hlast
  · exact .some ⟨by rw [hlength], Option.some.inj hlast⟩

/-- Both sessions and both clocks are changed. -/
lemma put {b b' : Active} {c c' : Clock Alarm} (hneat : ({ r with clock := c, active := some b } : Recorder).Neat)
    (hneat' : ({ r' with clock := c', active := some b' } : Recorder).Neat) (hb : K.SimilarSessions b b')
    (hshown : seen (K.awaitedChanges b) c.plan = seen (K.awaitedChanges b') c'.plan) :
    K.Similar { r with clock := c, active := some b } { r' with clock := c', active := some b' } where
  neat := hneat
  neat' := hneat'
  config := h.config
  rest := h.rest
  stopped := h.stopped
  active := .some hb
  shown := hshown

end Similar

namespace Twin

variable (h : K.Twin r r')
include h

lemma now : r.now = r'.now := by rw [Recorder.now, Recorder.now, h.time]

protected lemma symm : K.Twin r' r := ⟨h.toSimilar.symm, h.time.symm⟩

/-- Something is changed besides the sessions and the clocks, in both. -/
lemma congr {s s' : Recorder} (hclock : s.clock = r.clock) (hclock' : s'.clock = r'.clock)
    (hactive : s.active = r.active) (hactive' : s'.active = r'.active) (hrest : s.rest = s'.rest)
    (hconfig : s.config = r.config) (hstopped : s.stopped.map Session.plain = s'.stopped.map Session.plain) :
    K.Twin s s' where
  neat := h.neat.congr hclock hactive
  neat' := h.neat'.congr hclock' hactive'
  config := hconfig.trans h.config
  rest := hrest
  stopped := hstopped
  active := by rw [hactive, hactive']; exact h.active
  shown := by
    have hsame := h.shown
    unfold shown waitingChanges at *
    rwa [hactive, hactive', hclock, hclock']
  time := by rw [hclock, hclock', h.time]

lemma notices (notices notices' : List Notice) : K.Twin { r with notices } { r' with notices := notices' } :=
  h.congr rfl rfl rfl rfl h.rest rfl h.stopped

lemma lastUserAction (time : Int) :
    K.Twin { r with lastUserActionAt := time } { r' with lastUserActionAt := time } :=
  h.congr rfl rfl rfl rfl (congrArg (fun r : Recorder => { r with lastUserActionAt := time }) h.rest) rfl h.stopped

end Twin

/-! ### What waits is taken out -/

section Take

variable (h : K.Similar r r') (ha : r.active = some a) (ha' : r'.active = some a') (haa : K.SimilarSessions a a')
  {c c' : Clock Alarm}
include h ha ha' haa

omit haa in
lemma Similar.seen_eq : seen (K.awaitedChanges a) r.clock.plan = seen (K.awaitedChanges a') r'.clock.plan := by
  rw [← shown_of_some ha, ← shown_of_some ha', h.shown]

omit haa in
lemma Similar.others_eq : r.clock.plan.filter (·.2 != .mutations) = r'.clock.plan.filter (·.2 != .mutations) := by
  rw [← others_seen (K.awaitedChanges a), h.seen_eq ha ha', others_seen]

/-- The same text is taken out of both. -/
lemma Similar.takeText {w w' : Waiting String Typed} (hw : w ∈ a.inputs.waiting) (hw' : w' ∈ a'.inputs.waiting)
    (hk : w'.key = w.key) (hc : c.timers = (r.clock.cancel w.timer).timers)
    (hc' : c'.timers = (r'.clock.cancel w'.timer).timers) (hs : c.Sound) (hs' : c'.Sound) :
    K.Similar { r with clock := c, active := some { a with inputs := a.inputs.drop w.key } }
      { r' with clock := c', active := some { a' with inputs := a'.inputs.drop w'.key } } := by
  have hawaited : ∀ b : Active, ({ b with inputs := b.inputs.drop w.key } : Active).awaited =
      b.awaited.filter (!·.1 == w.key) := fun b => by
    simp [Active.awaited, Debouncer.drop, List.filter_map, Function.comp_def]
  have hplan : c.plan = r.clock.plan.filter (·.2 != .input w.key) := by
    have := (h.neat.linked.active a ha).inputs.plan_remove h.neat.linked.sound hw
    rwa [Clock.plan, ← hc] at this
  have hplan' : c'.plan = r'.clock.plan.filter (·.2 != .input w'.key) := by
    have := (h.neat'.linked.active a' ha').inputs.plan_remove h.neat'.linked.sound hw'
    rwa [Clock.plan, ← hc'] at this
  refine h.put (h.neat.takeText ha hw hc hs) (h.neat'.takeText ha' hw' hc' hs') { haa with
    texts := by rw [hk, hawaited, hawaited, haa.texts]
    typed := fun v hv => haa.typed v (by rw [hawaited] at hv; exact (List.mem_filter.1 hv).1) } ?_
  show seen (K.awaitedChanges a) c.plan = seen (K.awaitedChanges a') c'.plan
  rw [hplan, hplan', hk, seen_filter, seen_filter, h.seen_eq ha ha']

/-- The timer for an idle network is taken off both. -/
lemma Similar.takeIdle {u u' : Timer Alarm} (hu : u ∈ r.clock.timers) (hu' : u' ∈ r'.clock.timers)
    (hua : u.alarm = .idle) (hua' : u'.alarm = .idle) (hc : c.timers = (r.clock.cancel u.seq).timers)
    (hc' : c'.timers = (r'.clock.cancel u'.seq).timers) (hs : c.Sound) (hs' : c'.Sound) :
    K.Similar { r with clock := c, active := some { a with traffic := { a.traffic with idleTimer := none } } }
      { r' with clock := c', active := some { a' with traffic := { a'.traffic with idleTimer := none } } } := by
  have hplan : ∀ {s : Recorder} {b : Active} {u : Timer Alarm} {d : Clock Alarm}, s.Neat → s.active = some b →
      u ∈ s.clock.timers → u.alarm = .idle → d.timers = (s.clock.cancel u.seq).timers →
      d.plan = s.clock.plan.filter (·.2 != .idle) := by
    intro s b u d hs hb hu hua hd
    have hl := hs.linked.active b hb
    have := Clock.plan_cancel hu hs.linked.sound fun v hv hva => by
      have hseq := (hl.isIdle v hv (hva.trans hua)).symm.trans (hl.isIdle u hu hua)
      exact hs.linked.sound.apart v hv u hu (Option.some.inj hseq)
    rwa [hua, Clock.plan, ← hd] at this
  refine h.put (h.neat.takeIdle ha hu hua hc hs) (h.neat'.takeIdle ha' hu' hua' hc' hs') { haa with
    traffic := congrArg (fun t : Traffic => { t with idleTimer := none }) haa.traffic } ?_
  show seen (K.awaitedChanges a) c.plan = seen (K.awaitedChanges a') c'.plan
  rw [hplan h.neat ha hu hua hc, hplan h.neat' ha' hu' hua' hc', seen_filter, seen_filter, h.seen_eq ha ha']

end Take

/-- Once the changes are taken out, none wait. -/
lemma awaitedChanges_drop (a : Active) (u : Unit) :
    K.awaitedChanges { a with mutations := a.mutations.drop u } = [] := by
  have hnone : (a.mutations.drop u).waiting = [] := List.eq_nil_iff_forall_not_mem.2 fun w hw =>
    (Debouncer.mem_drop.1 hw).2 rfl
  simp [awaitedChanges, pageChanges, hnone]

lemma plan_takeChanges (hr : r.Neat) (ha : r.active = some a) {w : Waiting Unit (List Page.Mutation)}
    (hw : w ∈ a.mutations.waiting) {c : Clock Alarm} (hc : c.timers = (r.clock.cancel w.timer).timers) :
    c.plan = r.clock.plan.filter (·.2 != .mutations) := by
  have := (hr.linked.active a ha).mutations.plan_remove hr.linked.sound hw
  rwa [Clock.plan, ← hc] at this

section Take

variable (h : K.Similar r r') (ha : r.active = some a) (ha' : r'.active = some a') (haa : K.SimilarSessions a a')
  {c c' : Clock Alarm} {w w' : Waiting Unit (List Page.Mutation)} (hw : w ∈ a.mutations.waiting)
  (hc : c.timers = (r.clock.cancel w.timer).timers) (hs : c.Sound)
include h ha ha' haa hw hc hs

/-- The changes are taken out of both. -/
lemma Similar.takeChanges (hw' : w' ∈ a'.mutations.waiting) (hc' : c'.timers = (r'.clock.cancel w'.timer).timers)
    (hs' : c'.Sound) : K.Similar { r with clock := c, active := some { a with mutations := a.mutations.drop w.key } }
      { r' with clock := c', active := some { a' with mutations := a'.mutations.drop w'.key } } := by
  have hnone := awaitedChanges_drop (K := K) a w.key
  have hnone' := awaitedChanges_drop (K := K) a' w'.key
  refine h.put (h.neat.takeChanges ha hw hc hs) (h.neat'.takeChanges ha' hw' hc' hs') { haa with
    changes := hnone.trans hnone'.symm
    knows := by rw [hnone]; exact nofun } ?_
  rw [hnone, hnone', plan_takeChanges h.neat ha hw hc, plan_takeChanges h.neat' ha' hw' hc', h.others_eq ha ha']

/-- Changes of the tool alone are taken out of one. -/
lemma Similar.takeOwnChanges (hown : K.awaitedChanges a = []) :
    K.Similar { r with clock := c, active := some { a with mutations := a.mutations.drop w.key } } r' := by
  have hnone := awaitedChanges_drop (K := K) a w.key
  have hput := h.put (h.neat.takeChanges ha hw hc hs)
    (h.neat'.congr rfl ha'.symm : ({ r' with clock := r'.clock, active := some a' } : Recorder).Neat) { haa with
    changes := hnone.trans (hown.symm.trans haa.changes)
    knows := by rw [hnone]; exact nofun } ?_
  · rwa [← ha'] at hput
  · rw [hnone, plan_takeChanges h.neat ha hw hc, seen_others, ← seen_nil, ← h.seen_eq ha ha', hown]

end Take

/-! ### What is set -/

section Keep

variable (h : K.Twin r r') (ha : r.active = some a) (ha' : r'.active = some a') (haa : K.SimilarSessions a a')
include h ha ha' haa

/-- The same text is kept by both. -/
lemma Twin.keepText (hrec : a.session.status = .recording) (k : String) {typed : Typed}
    (ht : typed.since = r.clock.now) (hpage : typed.element ∈ K.page) :
    K.Twin { r with
        clock := (a.inputs.schedule r.clock r.clock.now (.input k) k typed).2
        active := some { a with inputs := (a.inputs.schedule r.clock r.clock.now (.input k) k typed).1 } }
      { r' with
        clock := (a'.inputs.schedule r'.clock r'.clock.now (.input k) k typed).2
        active := some { a' with inputs := (a'.inputs.schedule r'.clock r'.clock.now (.input k) k typed).1 } } := by
  have hawaited : ∀ (b : Active) (c : Clock Alarm),
      ({ b with inputs := (b.inputs.schedule c c.now (.input k) k typed).1 } : Active).awaited =
        b.awaited.filter (!·.1 == k) ++ [(k, typed)] := fun b c => by
    simp [Active.awaited, Debouncer.waiting_schedule, Debouncer.drop, List.filter_map, Function.comp_def]
  have hrec' : a'.session.status = .recording := (congrArg Session.status haa.session :).symm.trans hrec
  have hplan := (h.neat.linked.active a ha).inputs.plan_schedule (k := k) h.neat.linked.sound typed
  have hplan' := (h.neat'.linked.active a' ha').inputs.plan_schedule (k := k) h.neat'.linked.sound typed
  have hpatience : a.inputs.patience = a'.inputs.patience := by
    unfold Debouncer.patience
    rw [haa.inputDelay]
  refine ⟨h.put (h.neat.keepText ha hrec k typed ht) (h.neat'.keepText ha' hrec' k typed (ht.trans h.time)) { haa with
    inputDelay := by rw [Debouncer.schedule_delay, Debouncer.schedule_delay, haa.inputDelay]
    texts := by rw [hawaited, hawaited, haa.texts]
    typed := fun v hv => by
      rw [hawaited] at hv
      rcases List.mem_append.1 hv with hv | hv
      · exact haa.typed v (List.mem_filter.1 hv).1
      · obtain rfl := List.mem_singleton.1 hv
        exact hpage } ?_, ?_⟩
  · show seen (K.awaitedChanges a) _ = seen (K.awaitedChanges a') _
    rw [hplan, hplan', seen_cons (e := (_, .input k)) _ _ (by simp), seen_cons (e := (_, .input k)) _ _ (by simp),
      seen_filter, seen_filter, h.toSimilar.seen_eq ha ha', h.time, hpatience]
  · simp only [Debouncer.schedule_now, h.time]

/-- The timer for an idle network is set by both. -/
lemma Twin.setIdle (hn : a.traffic.idleTimer = none) (delay : Rat) :
    K.Twin { r with
        clock := (r.clock.setTimer delay .idle).2
        active := some { a with traffic := { a.traffic with idleTimer := some r.clock.nextSeq } } }
      { r' with
        clock := (r'.clock.setTimer delay .idle).2
        active := some { a' with traffic := { a'.traffic with idleTimer := some r'.clock.nextSeq } } } := by
  have hn' : a'.traffic.idleTimer = none := by
    have := (congrArg Traffic.idleTimer haa.traffic :)
    simpa [Traffic.unnumbered, hn] using this.symm
  refine ⟨h.put (h.neat.setIdle ha hn delay) (h.neat'.setIdle ha' hn' delay) { haa with
    traffic := congrArg (fun t : Traffic => { t with idleTimer := some 0 }) haa.traffic } ?_, h.time⟩
  have hset : ∀ c : Clock Alarm, (c.setTimer delay .idle).2.plan =
      (c.now + (if delay < 0 then 0 else delay), .idle) :: c.plan := fun _ => rfl
  show seen (K.awaitedChanges a) _ = seen (K.awaitedChanges a') _
  rw [hset, hset, seen_cons (e := (_, .idle)) _ _ nofun, seen_cons (e := (_, .idle)) _ _ nofun,
    h.toSimilar.seen_eq ha ha', h.time]

end Keep

/-- What waits once changes are kept. -/
lemma awaitedChanges_schedule (a : Active) (c : Clock Alarm) (changes : List Page.Mutation) :
    K.awaitedChanges { a with mutations := (a.mutations.schedule c c.now .mutations () changes).1 } =
      K.pageChanges changes := by
  have hnone : (a.mutations.drop ()).waiting = [] := List.eq_nil_iff_forall_not_mem.2 fun w hw =>
    (Debouncer.mem_drop.1 hw).2 rfl
  simp [awaitedChanges, Debouncer.waiting_schedule, hnone]

section Keep

variable (h : K.Twin r r') (ha : r.active = some a) (ha' : r'.active = some a') (haa : K.SimilarSessions a a')
  {changes changes' : List Page.Mutation}
include h ha ha' haa

/-- Changes are kept by both, of which those of the page are the same. -/
lemma Twin.keepChanges (hsame : K.pageChanges changes = K.pageChanges changes') (hne : K.pageChanges changes ≠ [])
    (hknows : ∀ m ∈ K.pageChanges changes, K.Knows m) :
    K.Twin { r with
        clock := (a.mutations.schedule r.clock r.clock.now .mutations () changes).2
        active := some { a with mutations := (a.mutations.schedule r.clock r.clock.now .mutations () changes).1 } }
      { r' with
        clock := (a'.mutations.schedule r'.clock r'.clock.now .mutations () changes').2
        active := some { a' with mutations := (a'.mutations.schedule r'.clock r'.clock.now .mutations () changes').1 } } := by
  have hplan := (h.neat.linked.active a ha).mutations.plan_schedule (k := ()) h.neat.linked.sound changes
  have hplan' := (h.neat'.linked.active a' ha').mutations.plan_schedule (k := ()) h.neat'.linked.sound changes'
  have hpatience : a.mutations.patience = a'.mutations.patience := by
    unfold Debouncer.patience
    rw [haa.mutationDelay]
  refine ⟨h.put (h.neat.keepChanges ha changes) (h.neat'.keepChanges ha' changes') { haa with
    mutationDelay := by rw [Debouncer.schedule_delay, Debouncer.schedule_delay, haa.mutationDelay]
    changes := by rw [awaitedChanges_schedule, awaitedChanges_schedule, hsame]
    knows := by rwa [awaitedChanges_schedule] } ?_, ?_⟩
  · rw [awaitedChanges_schedule, awaitedChanges_schedule, seen_of_ne_nil _ _ hne, seen_of_ne_nil _ _ (hsame ▸ hne),
      hplan, hplan', h.toSimilar.others_eq ha ha', h.time, hpatience]
  · simp only [Debouncer.schedule_now, h.time]

/-- Changes of the tool alone are kept by one, of which no others wait to be looked at. -/
lemma Twin.keepOwnChanges (hnone : K.awaitedChanges a = []) (hown : K.pageChanges changes = []) :
    K.Twin { r with
        clock := (a.mutations.schedule r.clock r.clock.now .mutations () changes).2
        active := some { a with mutations := (a.mutations.schedule r.clock r.clock.now .mutations () changes).1 } } r' := by
  have hplan := (h.neat.linked.active a ha).mutations.plan_schedule (k := ()) h.neat.linked.sound changes
  have hput := h.put (h.neat.keepChanges ha changes)
    (h.neat'.congr rfl ha'.symm : ({ r' with clock := r'.clock, active := some a' } : Recorder).Neat) { haa with
    mutationDelay := by rw [Debouncer.schedule_delay, haa.mutationDelay]
    changes := by rw [awaitedChanges_schedule, hown, ← haa.changes, hnone]
    knows := by rw [awaitedChanges_schedule, hown]; exact nofun } ?_
  · rw [← ha'] at hput
    exact ⟨hput, by simp only [Debouncer.schedule_now, h.time]⟩
  · have hseen := h.toSimilar.seen_eq ha ha'
    rw [hnone] at hseen
    rw [awaitedChanges_schedule, hown, hplan, ← hseen, seen_nil, seen_nil, List.filter_cons_of_neg (by simp),
      List.filter_filter]
    simp

end Keep

/-! ### Sessions that begin and end -/

/-- A recorder without a session has no timer. -/
lemma shown_of_none (hr : r.Neat) (h : r.active = none) : K.shown r = [] := by
  simp [shown, seen, Clock.plan, hr.linked.free h]

end Stage

end Recorder

end PageTape
