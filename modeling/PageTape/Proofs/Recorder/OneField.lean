import PageTape.Proofs.Recorder.Kept

/-!
# One field is typed into

While a session records nothing but the text of one field (`OneField`), its steps are the first one and at most one that
fills the field, and the newest text either waits or is in that step.  A new text is kept in this way
(`OneField.keepText`), the text is recorded as time passes (`OneField.advance`, `OneField.runAll`), and when the session
is stopped the one step has it (`OneField.stop`).
-/

namespace PageTape.Recorder

variable {r : Recorder} {a : Active} {p : Page} {first : Step} {selector : String} {value? : Option String}
  {config : Config}

/-! ### Texts are recorded and nothing fails -/

/-- No callback fails. -/
structure Unfailing (r : Recorder) : Prop where
  onAdded : r.onAdded ≠ .fail
  onUpdated : r.onUpdated ≠ .fail

/-- A program that fails only where a callback does. -/
def Ends {α : Type} (x : Act α) : Prop :=
  ∀ r, r.Unfailing → (x.run r).2.Unfailing ∧ ∃ a, (x.run r).1 = .ok a

namespace Ends

variable {α β : Type} {x : Act α}

protected lemma pure (a : α) : Ends (pure a) := fun _ h => ⟨h, a, rfl⟩

protected lemma bind {f : α → Act β} (hx : Ends x) (hf : ∀ a, Ends (f a)) : Ends (x >>= f) := fun r h => by
  obtain ⟨hs, a, ha⟩ := hx r h
  rw [Course.run_bind]
  rcases hr : x.run r with ⟨e | b, s⟩ <;> rw [hr] at hs ha
  · cases ha
  · exact hf b s hs

protected lemma get {f : Recorder → Act β} (hf : ∀ r, r.Unfailing → Ends (f r)) : Ends (get >>= f) := fun r h =>
  hf r h r h

protected lemma modifyGet {g : Recorder → α × Recorder} (hg : ∀ r, r.Unfailing → (g r).2.Unfailing) :
    Ends (modifyGet g) := fun r h => ⟨hg r h, _, rfl⟩

protected lemma modify {g : Recorder → Recorder} (hg : ∀ r, r.Unfailing → (g r).Unfailing) : Ends (modify g) :=
  fun r h => ⟨hg r h, _, rfl⟩

protected lemma discard (hx : Ends x) : Ends (discard x) := hx.bind fun _ => .pure _

protected lemma forM {ls : List β} {f : β → Act PUnit} (hf : ∀ b, Ends (f b)) : Ends (ls.forM f) := by
  induction ls with
  | nil => exact .pure _
  | cons b rest ih => exact .bind (hf b) fun _ => ih

end Ends

lemma tell_ends (callback : Callback) (position : Nat) (step : Step) : Ends (tell callback position step) := by
  refine .get fun r h => ?_
  split
  · exact .pure _
  · exact .modify fun s hs => ⟨hs.onAdded, hs.onUpdated⟩
  · rename_i hfail
    cases callback
    · exact absurd hfail h.onAdded
    · exact absurd hfail h.onUpdated

lemma change_ends (position : Nat) (f : Step → Step) : Ends (change position f) := by
  refine .get fun r _ => ?_
  split
  · exact .pure _
  · exact .bind (.modify fun s hs => ⟨hs.onAdded, hs.onUpdated⟩) fun _ => tell_ends _ _ _

lemma add_ends (step : Step) : Ends (add step) := by
  refine .get fun r h => ?_
  split
  · refine .bind (fun s _ => ⟨⟨h.onAdded, h.onUpdated⟩, _, rfl⟩) fun _ => .bind (tell_ends _ _ _) fun _ => .pure _
  · exact .pure _

lemma addUserStep_ends (step : Step) : Ends (addUserStep step) := by
  refine .get fun r _ => ?_
  dsimp only
  split
  · exact .bind (.modify fun s hs => ⟨hs.onAdded, hs.onUpdated⟩) fun _ => add_ends step
  · exact add_ends step

lemma recordText_ends (p : Page) (selector : String) (typed : Typed) : Ends (recordText p selector typed) := by
  refine .get fun r _ => ?_
  split
  · exact .pure _
  · split
    · exact .bind (.modify fun s hs => ⟨hs.onAdded, hs.onUpdated⟩) fun _ => change_ends _ _
    · exact (addUserStep_ends _).discard

lemma recordWaiting_ends (p : Page) (selector : String) : Ends (recordWaiting p selector) := by
  refine .bind (.modifyGet fun s hs => ?_) fun typed => ?_
  · split
    · exact hs
    · split <;> exact ⟨hs.onAdded, hs.onUpdated⟩
  · split
    · exact recordText_ends p _ _
    · exact .pure _

/-- **All texts that wait are recorded**, and only a callback can fail at that. -/
lemma recordAllWaiting_ends (p : Page) : Ends (recordAllWaiting p) := by
  refine .get fun r _ => ?_
  split
  · exact .forM fun w => recordWaiting_ends p w.key
  · exact .pure _

lemma wakeText_ends (p : Page) (selector : String) : Ends (wakeText p selector) := by
  refine .bind (.modifyGet fun s hs => ?_) fun typed => ?_
  · split <;> exact ⟨hs.onAdded, hs.onUpdated⟩
  · split
    · exact recordText_ends p _ _
    · exact .pure _

/-! ### The steps and what waits -/

/-- The steps while one field is typed into, and the texts that wait: the text of the field waits, or is in the step that
fills it, if it has been typed into at all. -/
inductive Keeping (first : Step) (selector : String) : Option String → List Step → List (Waiting String Typed) → Prop
  | untouched : Keeping first selector none [first] []
  | waits (fill? : Option Step) (w : Waiting String Typed) (hf : ∀ fill ∈ fill?, isAbout .fill selector fill = true)
      (hk : w.key = selector) : Keeping first selector (some w.payload.value) (first :: fill?.toList) [w]
  | recorded (fill : Step) (value : String) (hf : isAbout .fill selector fill = true) (hv : fill.value = some value) :
      Keeping first selector (some value) [first, fill] []

/-- The text that waits is recorded. -/
lemma Keeping.takes {w : Waiting String Typed} {steps steps' : List Step}
    (h : Keeping first selector value? steps [w]) (hfirst : first.kind ≠ .fill) (ht : Takes w steps steps') :
    Keeping first selector value? steps' [] := by
  cases h with | waits fill? _ hf hk =>
  subst hk
  have hother : isAbout .fill w.key first = false := by simp [isAbout, hfirst]
  have hlast : ∀ {before : List Step} {last : Step}, before ++ [last] = first :: fill?.toList →
      isAbout .fill w.key last = true → before = [first] := by
    intro before last hsteps habout
    cases before with
    | nil =>
      obtain ⟨rfl, -⟩ := List.cons.inj hsteps
      rw [hother] at habout
      cases habout
    | cons s before =>
      obtain ⟨rfl, hrest⟩ := List.cons.inj hsteps
      cases fill? with
      | none => simp at hrest
      | some fill =>
        obtain rfl : before = [] := by simpa using congrArg List.length hrest
        rfl
  generalize hsteps : first :: fill?.toList = steps at ht
  cases ht with
  | update before last habout =>
    obtain rfl := hlast hsteps.symm habout
    exact .recorded _ _ habout rfl
  | append _ step hfills hnew =>
    subst hsteps
    cases fill? with
    | none => exact .recorded _ _ (isAbout_iff.2 ⟨hfills.1, hfills.2.1⟩) hfills.2.2.1
    | some fill =>
      have habout := hnew fill rfl
      rw [hf fill rfl] at habout
      cases habout

lemma Keeping.eq_singleton {w : Waiting String Typed} {steps : List Step} {waiting : List (Waiting String Typed)}
    (h : Keeping first selector value? steps waiting) (hw : w ∈ waiting) : waiting = [w] := by
  cases h with
  | waits => rw [List.mem_singleton.1 hw]
  | untouched | recorded => cases hw

/-- A new text waits. -/
lemma Keeping.again {steps : List Step} {waiting : List (Waiting String Typed)}
    (h : Keeping first selector value? steps waiting) (w : Waiting String Typed) (hk : w.key = selector) :
    Keeping first selector (some w.payload.value) steps (waiting.filter (!·.key == selector) ++ [w]) := by
  cases h with
  | untouched => exact .waits none w (fun _ h => by cases h) hk
  | waits fill? v hf hv =>
    have hgone : [v].filter (!·.key == selector) = [] := by simp [hv]
    rw [hgone]
    exact .waits fill? w hf hk
  | recorded fill value hf hv => exact .waits (some fill) w (fun _ e => Option.some.inj e ▸ hf) hk

/-! ### The session -/

/-- A session in which one field is typed into, and nothing else happens. -/
structure Active.OneField (a : Active) (first : Step) (selector : String) (value? : Option String) : Prop where
  recording : a.session.status = .recording
  mutations : a.mutations.waiting = []
  traffic : a.traffic = {}
  keeping : Keeping first selector value? a.session.steps a.inputs.waiting

/-- **A recorder that records the text of one field**, and nothing else. -/
structure OneField (config : Config) (first : Step) (selector : String) (value? : Option String) (r : Recorder) :
    Prop extends Unfailing r where
  linked : r.Linked
  config : r.config = config
  active : ∃ a, r.active = some a ∧ a.OneField first selector value?

namespace OneField

/-- A session has begun, with the step that opens the page. -/
lemma begun (hl : r.Linked) (hn : r.active = none) (hu : r.Unfailing) (p : Page) (selector : String) :
    ∃ first, first.kind ≠ .fill ∧ (r.begun p).OneField r.config first selector none := by
  refine ⟨_, ?_, ⟨hu.onAdded, hu.onUpdated⟩, hl.begun hn p, rfl, _, rfl, rfl, rfl, rfl, .untouched⟩
  exact nofun

/-- **A new text is kept**, be it the first one or not. -/
lemma keepText (h : r.OneField config first selector value?) {typed : Typed} (ht : typed.since = r.clock.now) :
    (Recorder.keepText r selector typed).OneField config first selector (some typed.value) := by
  obtain ⟨a, ha, hone⟩ := h.active
  have hlinked : (Recorder.keepText r selector typed).Linked := h.linked.keepText ha hone.recording ht
  have hkeeping := hone.keeping.again ⟨selector, r.clock.now, r.clock.nextSeq, typed⟩ rfl
  have hwaiting : (a.inputs.schedule r.clock r.clock.now (.input selector) selector typed).1.waiting =
      a.inputs.waiting.filter (!·.key == selector) ++ [⟨selector, r.clock.now, r.clock.nextSeq, typed⟩] :=
    Debouncer.waiting_schedule _ _ _ _
  rw [keepText_eq ha] at hlinked ⊢
  refine ⟨⟨h.onAdded, h.onUpdated⟩, hlinked, h.config, _, rfl, hone.recording, hone.mutations, hone.traffic, ?_⟩
  rw [← hwaiting] at hkeeping
  exact hkeeping

variable (hfirst : first.kind ≠ .fill)
include hfirst

/-- A timer goes off: that of the text. -/
lemma goOff (h : r.OneField config first selector value?) (p : Page) {t : Timer Alarm} (ht : t ∈ r.clock.timers)
    (hahead : ∀ u ∈ r.clock.timers, t.Ahead u) :
    ∃ r', (Recorder.goOff p t.alarm).run { r with clock := r.clock.ring t } = (.ok ⟨⟩, r') ∧
      r'.OneField config first selector value? := by
  obtain ⟨b, hb, hone⟩ := h.active
  have hlb := h.linked.active b hb
  cases halarm : t.alarm with
  | input s =>
    obtain ⟨a, w, steps, notices, ha, hw, rfl, -, hr, hsteps, hrun⟩ := wakeText_run p h.linked ht halarm
    obtain rfl : b = a := Option.some.inj (hb.symm.trans ha)
    have hwaiting := hone.keeping.eq_singleton hw
    have hkeeping := hone.keeping
    rw [hwaiting] at hkeeping
    obtain ⟨hu, ⟨⟩, hok⟩ := wakeText_ends p w.key { r with clock := r.clock.ring t } ⟨h.onAdded, h.onUpdated⟩
    have hlinked := (course anything).keeps (wakeText_leads (C := course anything) p h.linked ht hahead halarm).1 h.linked
    refine ⟨_, Prod.ext hok rfl, hu, hlinked, ?_, ?_⟩
    · exact (congrArg Recorder.config hrun).trans h.config
    · refine ⟨_, congrArg Recorder.active hrun, hr, hone.mutations, hone.traffic, ?_⟩
      have hdrop : (b.inputs.drop w.key).waiting = [] := by simp [Debouncer.drop, hwaiting]
      show Keeping first selector value? steps (b.inputs.drop w.key).waiting
      rw [hdrop]
      exact hkeeping.takes hfirst hsteps
  | mutations =>
    obtain ⟨w, hw, -⟩ := hlb.mutations.timer_eq (k := ()) h.linked.sound ht halarm
    rw [hone.mutations] at hw
    cases hw
  | idle =>
    have hidle := hlb.isIdle t ht halarm
    rw [hone.traffic] at hidle
    cases hidle

/-- All timers that are due go off. -/
lemma runDue (h : r.OneField config first selector value?) (p : Page) (target : Rat) (n : Nat) :
    ∃ r', (Recorder.runDue p target n).run r = (.ok ⟨⟩, r') ∧ r'.OneField config first selector value? := by
  induction n generalizing r with
  | zero => exact ⟨r, rfl, h⟩
  | succ n ih =>
    unfold Recorder.runDue
    rw [Course.run_bind, Course.run_get]
    dsimp only
    split
    · exact ⟨r, rfl, h⟩
    · rename_i t c hp
      obtain ⟨ht, hahead, -, rfl⟩ := Clock.popDue?_eq_some hp
      obtain ⟨s, hs, hone⟩ := h.goOff hfirst p ht hahead
      rw [Course.run_bind, Course.run_modify]
      dsimp only
      rw [Course.run_bind, hs]
      exact ih hone

/-- Time passes until a time. -/
lemma advanceTo (h : r.OneField config first selector value?) (p : Page) (target : Rat) :
    ∃ r', (Recorder.advanceTo p target).run r = (.ok ⟨⟩, r') ∧ r'.OneField config first selector value? := by
  have hlinked := (course anything).keeps ((advanceTo_runs p target).leads h.linked (.inl rfl)) h.linked
  obtain ⟨s, hs, hone⟩ := h.runDue hfirst p target r.clock.pending
  have hrun : (Recorder.advanceTo p target).run r =
      (.ok ⟨⟩, { s with clock := { s.clock with now := target } }) := by
    unfold Recorder.advanceTo
    rw [Course.run_bind, Course.run_get]
    dsimp only
    rw [Course.run_bind, hs]
    rfl
  rw [hrun] at hlinked
  exact ⟨_, hrun, ⟨hone.onAdded, hone.onUpdated⟩, hlinked, hone.config, hone.active⟩

/-- **Time passes.** -/
lemma advance (h : r.OneField config first selector value?) (p : Page) (ms : Rat) :
    ∃ r', (Recorder.advance p ms).run r = (.ok ⟨⟩, r') ∧ r'.OneField config first selector value? :=
  h.advanceTo hfirst p _

lemma runTimers (h : r.OneField config first selector value?) (p : Page) (n : Nat) :
    ∃ r', (Recorder.runTimers p n).run r = (.ok ⟨⟩, r') ∧ r'.OneField config first selector value? := by
  induction n generalizing r with
  | zero => exact ⟨r, rfl, h⟩
  | succ n ih =>
    unfold Recorder.runTimers
    rw [Course.run_bind, Course.run_get]
    dsimp only
    split
    · exact ⟨r, rfl, h⟩
    · rename_i timer _
      obtain ⟨s, hs, hone⟩ := h.advanceTo hfirst p (max r.clock.now timer.due)
      rw [Course.run_bind, hs]
      exact ih hone

/-- **Time passes until no timer is set.** -/
lemma runAll (h : r.OneField config first selector value?) (p : Page) :
    ∃ r', (Recorder.runAll p).run r = (.ok ⟨⟩, r') ∧ r'.OneField config first selector value? :=
  h.runTimers hfirst p _

/-- The text is recorded before its time, if it waits. -/
lemma recordAllWaiting (h : r.OneField config first selector value?) (p : Page) :
    ∃ a s, (Recorder.recordAllWaiting p).run r = (.ok ⟨⟩, s) ∧ s.active = some a ∧ a.traffic = {} ∧
      Keeping first selector value? a.session.steps [] := by
  obtain ⟨a, ha, hone⟩ := h.active
  obtain ⟨-, ⟨⟩, hok⟩ := recordAllWaiting_ends p r h.toUnfailing
  have hrun : (Recorder.recordAllWaiting p).run r =
      (a.inputs.waiting.forM fun w => recordWaiting p w.key).run r := by
    unfold Recorder.recordAllWaiting
    rw [Course.run_bind, Course.run_get]
    simp only [ha]
  cases hw : a.inputs.waiting with
  | nil =>
    refine ⟨a, r, ?_, ha, hone.traffic, hw ▸ hone.keeping⟩
    rw [hrun, hw]
    rfl
  | cons w rest =>
    have hwaiting := hone.keeping.eq_singleton (hw ▸ List.mem_cons_self)
    have hkeeping := hone.keeping
    rw [hwaiting] at hkeeping
    obtain ⟨-, steps, notices, hsteps, hafter⟩ := recordWaiting_run p h.linked ha hw
    have hsame : ((Recorder.recordAllWaiting p).run r).2 = ((recordWaiting p w.key).run r).2 := by
      rw [hrun, hwaiting]
      show ((recordWaiting p w.key >>= fun _ => pure ⟨⟩ : Act PUnit).run r).2 = _
      rw [Course.run_bind]
      rcases (recordWaiting p w.key).run r with ⟨_ | _, _⟩ <;> rfl
    refine ⟨{ a.withSteps steps with inputs := a.inputs.drop w.key }, _, Prod.ext hok rfl, ?_, hone.traffic,
      hkeeping.takes hfirst hsteps⟩
    exact congrArg Recorder.active (hsame.trans hafter)

/-- **The session is stopped**, and one step has the text. -/
lemma stop {value : String} (h : r.OneField config first selector (some value)) (p : Page) :
    ∃ session fill s, (Recorder.stop p).run r = (.ok (some session), s) ∧ s.session? = some session ∧
      session.steps = [first, fill] ∧ isAbout .fill selector fill = true ∧ fill.value = some value := by
  obtain ⟨a, ha, -⟩ := h.active
  obtain ⟨b, s, hs, hb, htraffic, hkeeping⟩ := h.recordAllWaiting hfirst p
  have hsettled : (Recorder.recordAllWaiting p >>= fun _ => noteUnsettled : Act Unit).run r = (.ok ⟨⟩, s) := by
    rw [Course.run_bind, hs]
    dsimp only
    unfold noteUnsettled
    rw [Course.run_bind, Course.run_get]
    simp only [hb, htraffic]
    simp [Traffic.isRecent]
  have hstopped : s.conclude.stopped = some { b.session with status := .stopped } := by simp [conclude, hb]
  generalize hsteps : b.session.steps = steps at hkeeping
  cases hkeeping with
  | recorded fill _ hf hv =>
    refine ⟨{ b.session with status := .stopped }, fill, s.conclude, ?_, ?_, hsteps, hf, hv⟩
    · rw [stop_run ha, hsettled]
      dsimp only
      rw [hstopped]
    · unfold session?
      rw [conclude_active, hstopped]

end OneField

end PageTape.Recorder
