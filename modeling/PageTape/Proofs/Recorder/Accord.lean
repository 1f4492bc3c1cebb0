import PageTape.Proofs.Recorder.Account

/-!
# The moments of a session

A `Moment` of a session is one in which a request starts or settles, or a step is added that waits for an idle network.
Of the moments of a session, newest first, `Justified` says what they must be for every such step to have a reason, and
`Accords` how they are tied to what the recorder keeps: a timer for an idle network is set only as long as the newest
moment is the end of the last request, and it is due when the network has been idle from then on.

* `Accords.beside` — what page and user make a recorder do changes nothing of that;
* `Accords.requestBegun`, `Accords.requestEnded` — nor does a request, which is one more moment; nor what becomes of the
  request objects of the page.
-/

namespace PageTape.Recorder

variable {may : Leave} {p : Page} {r r' r'' : Recorder}

/-! ### Moments -/

/-- A moment of a session: a request starts or settles, or a step is added that waits for an idle network, because it
has been idle or because the session is stopped.  Of such a step it is known whether the callbacks failed on it, and, if
the network was idle, when the last action of the user was. -/
inductive Moment where
  | started (time : ℚ)
  | settled (time : ℚ)
  | waited (time : ℚ) (lastAction : ℤ) (failed : Bool)
  | closed (time : ℚ) (failed : Bool)
  deriving DecidableEq, Repr

namespace Moment

/-- When it is. -/
def time : Moment → ℚ
  | started time | settled time | waited time _ _ | closed time _ => time

/-- A step is added. -/
def isWait : Moment → Bool
  | waited _ _ _ | closed _ _ => true
  | _ => false

/-- A step is added, and the callbacks do not fail on it. -/
def isToldWait : Moment → Bool
  | waited _ _ failed | closed _ failed => !failed
  | _ => false

end Moment

/-- **Every step that waits for an idle network has a reason**, in the moments of a session, newest first: it is added
when the last request has settled and the network has been idle from then on, with an action of the user shortly before,
or the session is stopped and there has been a request since the last such step. -/
def Justified (config : Config) : List Moment → Prop
  | [] => True
  | .waited time lastAction _ :: older =>
    older.head? = some (.settled (time - config.idleDelay)) ∧ time - lastAction < config.actionWindow ∧
      Justified config older
  | .closed _ _ :: older => (∀ m ∈ older.head?, m.isToldWait = false) ∧ Justified config older
  | .started _ :: older | .settled _ :: older => Justified config older

namespace Justified

variable {config : Config} {newer older : List Moment}

lemma tail {m : Moment} (h : Justified config (m :: older)) : Justified config older := by
  cases m with
  | waited time lastAction failed => exact h.2.2
  | closed time failed => exact h.2
  | started time | settled time => exact h

lemma of_append (h : Justified config (newer ++ older)) : Justified config older := by
  induction newer with
  | nil => exact h
  | cons m rest ih => exact ih h.tail

/-- Of two steps that wait for an idle network there has been a request before the later one and after the other, unless
the callbacks fail on that. -/
lemma exists_between {m m' : Moment} {between : List Moment} (h : Justified config (m :: (between ++ m' :: older)))
    (hm : m.isWait = true) (hm' : m'.isToldWait = true) : ∃ k ∈ between, k.isWait = false := by
  induction between generalizing m with
  | nil =>
    cases m with
    | started time | settled time => cases hm
    | waited time lastAction failed =>
      obtain rfl := Option.some.inj h.1
      cases hm'
    | closed time failed =>
      have hnone := h.1 m' rfl
      rw [hm'] at hnone
      cases hnone
  | cons k rest ih =>
    cases hk : k.isWait with
    | false => exact ⟨k, List.mem_cons_self, hk⟩
    | true =>
      -- the callbacks have failed on this one, and the request is further back
      obtain ⟨l, hl, hlk⟩ := ih h.tail hk
      exact ⟨l, List.mem_cons_of_mem _ hl, hlk⟩

end Justified

/-- What is known of the network of the active session. -/
def traffic? (r : Recorder) : Option Traffic := r.active.map (·.traffic)

lemma traffic?_eq {a : Active} (h : r.active = some a) : r.traffic? = some a.traffic := by simp [traffic?, h]

/-- When the steps were added that wait for an idle network. -/
def idleStamps (steps : List Step) : List ℤ := (idleWaits steps).map (·.timestamp)

/-- **The moments of a session with these steps**, up to a time: they are in order, every wait for an idle network has a
reason, and unless steps are edited by hand, the steps that are one are just those that are among them. -/
structure Chronicle (may : Leave) (moments : List Moment) (config : Config) (now : ℚ) (steps : List Step) : Prop where
  past : ∀ m ∈ moments, m.time ≤ now
  sorted : moments.Pairwise fun m older => older.time ≤ m.time
  justified : Justified config moments
  told : may.edits = true ∨ idleStamps steps = ((moments.filter (·.isWait)).map (stampOf ·.time)).reverse

namespace Chronicle

variable {moments : List Moment} {config : Config} {now now' : ℚ} {steps steps' : List Step} {m : Moment}

lemma onward (h : Chronicle may moments config now steps) (hnow : now ≤ now')
    (hsteps : may.edits = true ∨ idleWaits steps' = idleWaits steps) : Chronicle may moments config now' steps' where
  past m hm := (h.past m hm).trans hnow
  sorted := h.sorted
  justified := h.justified
  told := by
    rcases hsteps with he | hw
    · exact .inl he
    · exact h.told.imp_right fun hc => (congrArg _ hw).trans hc

/-- There is one more moment just now. -/
lemma add (h : Chronicle may moments config now steps) (htime : m.time = now) (hj : Justified config (m :: moments))
    (hsteps : idleStamps steps' = idleStamps steps ++ if m.isWait = true then [stampOf now] else []) :
    Chronicle may (m :: moments) config now steps' where
  past := List.forall_mem_cons.2 ⟨htime.le, h.past⟩
  sorted := List.pairwise_cons.2 ⟨fun older hold => (h.past older hold).trans_eq htime.symm, h.sorted⟩
  justified := hj
  told := h.told.imp_right fun hc => by
    rw [hsteps, hc]
    cases hw : m.isWait <;> simp [hw, htime]

end Chronicle

/-- **The recorder accords with the moments of its session.** -/
structure Accords (may : Leave) (moments : List Moment) (r : Recorder) : Prop where
  linked : r.Linked
  isActive : r.active.isSome = true
  delay : 0 ≤ r.config.idleDelay
  chronicle : Chronicle may moments r.config r.clock.now r.steps
  live : ∀ t ∈ r.clock.timers, t.alarm = .idle → moments.head? = some (.settled (t.due - r.config.idleDelay)) ∧
    ∀ traffic, r.traffic? = some traffic → traffic.inFlight = 0
  spent : ∀ m ∈ moments.head?, m.isToldWait = true → ∀ traffic, r.traffic? = some traffic →
    traffic.inFlight = 0 ∧ traffic.settledSinceIdle = false

/-! ### What page and user make a recorder do -/

/-- What a recorder knows of the network is the same, with the timer and with the waits for an idle one. -/
structure Beside (may : Leave) (r r' : Recorder) : Prop where
  linked : r.Linked → r'.Linked
  config : r'.config = r.config
  traffic : r'.traffic? = r.traffic?
  timers : ∀ t, t.alarm = .idle → (t ∈ r'.clock.timers ↔ t ∈ r.clock.timers)
  waits : may.edits = true ∨ idleWaits r'.steps = idleWaits r.steps
  now : r.clock.now ≤ r'.clock.now

lemma Beside.refl (r : Recorder) : Beside may r r := ⟨id, rfl, rfl, fun _ _ => Iff.rfl, .inr rfl, le_rfl⟩

lemma Beside.trans (h : Beside may r r') (h' : Beside may r' r'') : Beside may r r'' where
  linked := h'.linked ∘ h.linked
  config := h'.config.trans h.config
  traffic := h'.traffic.trans h.traffic
  timers t ht := (h'.timers t ht).trans (h.timers t ht)
  waits := by
    rcases h.waits with he | hw
    · exact .inl he
    · exact h'.waits.imp_right fun hw' => hw'.trans hw
  now := h.now.trans h'.now

/-- **A deed leaves the network alone.** -/
theorem Deed.beside (h : Deed may r r') (hl : r.Linked) : Beside may r r' := by
  have hlinked := h.move.linked hl
  obtain ⟨hm, htraffic, hwaits, hnow⟩ := h
  refine ⟨fun _ => hlinked, ?_, htraffic, ?_, hwaits, hnow⟩
  · cases hm <;> rfl
  intro t ht
  cases hm with
  | told notices | attended onAdded onUpdated | acted notices h hr hw hk ht hf | rechosen notices value h hw hs hk
  | noted notices h hr hk ht | edited steps last notices h he | counted h hi hc | paused h hw | resumed h hs
  | passed time hdue hb => exact Iff.rfl
  | flushed notices h hr hw hs =>
    have hset := (hl.active _ h).inputs.isSet _ (hw ▸ List.mem_cons_self)
    exact Clock.mem_cancel.trans (hl.sound.and_seq_ne_iff hset (by rw [ht]; exact nofun))
  | rung notices h hr hw hfirst hs =>
    have hset := (hl.active _ h).inputs.isSet _ hw
    exact Clock.mem_ring.trans (hl.sound.and_seq_ne_iff hset (by rw [ht]; exact nofun))
  | settled h hw hfirst =>
    have hset := (hl.active _ h).mutations.isSet _ hw
    exact Clock.mem_ring.trans (hl.sound.and_seq_ne_iff hset (by rw [ht]; exact nofun))
  | heeded payload h =>
    exact (hl.active _ h).mutations.mem_schedule hl.sound payload (by rw [ht]; exact nofun)
  -- the timer for an idle network is part of what is known of it
  | idleSet delay h hn =>
    rw [h, Option.map_some, Option.map_some, Option.some.injEq] at htraffic
    rw [← htraffic] at hn
    cases hn
  | idleCancelled h hn =>
    rw [h, Option.map_some, Option.map_some, Option.some.injEq] at htraffic
    rw [← htraffic] at hn
    cases hn
  | idleRung h hu hua hfirst =>
    have hn := (hl.active _ h).isIdle _ hu hua
    rw [h, Option.map_some, Option.map_some, Option.some.injEq] at htraffic
    rw [← htraffic] at hn
    cases hn

/-- The course on which the network is left alone. -/
def aside (may : Leave) : Course Recorder where
  holds := Linked
  leads := Beside may
  refl := .refl
  trans := .trans
  keeps h := h.linked

instance (may : Leave) : Admits (aside may) may where
  linked h := h
  deed hl h := h.beside hl

/-- **A signal that tells of no request and lets no time pass leaves the network alone.** -/
theorem Linked.obey_beside {s : Signal} (hl : r.Linked) (h : s.isAside = true)
    (he : s.edits = true → may.edits = true) : Beside may r (r.obey s) := by
  cases ht : s.text? r with
  | none => exact (Signal.runs_aside (C := aside may) h he).leads hl ht
  | some text =>
    obtain ⟨selector, typed⟩ := text
    obtain ⟨a, ha, hr, hsince⟩ := Signal.text?_eq_some ht
    have hobey : r.obey s = Recorder.keepText r selector typed := congrArg Prod.snd (Signal.act_text ht)
    have hlinked : (Recorder.keepText r selector typed).Linked := hl.keepText ha hr hsince
    rw [hobey, keepText_eq ha]
    rw [keepText_eq ha] at hlinked
    refine ⟨fun _ => hlinked, rfl, by rw [traffic?_eq ha]; rfl, fun t hta => ?_, .inr ?_, ?_⟩
    · exact (hl.active a ha).inputs.mem_schedule hl.sound typed (by rw [hta]; exact nofun)
    · rw [steps_of_active ha]
      rfl
    · exact (Debouncer.schedule_now r.clock r.clock.now (.input selector) typed).ge

/-- **What page and user make a recorder do adds no moment**, and the recorder accords with those there are. -/
theorem Accords.beside {moments : List Moment} (h : Accords may moments r) (hb : Beside may r r') :
    Accords may moments r' where
  linked := hb.linked h.linked
  isActive := by
    have hmap : r'.traffic?.isSome = r.traffic?.isSome := by rw [hb.traffic]
    simpa [traffic?] using hmap.trans (by simpa [traffic?] using h.isActive)
  delay := hb.config ▸ h.delay
  chronicle := hb.config ▸ h.chronicle.onward hb.now hb.waits
  live t ht hta := by
    rw [hb.config, hb.traffic]
    exact h.live t ((hb.timers t hta).1 ht) hta
  spent m hm htold := by
    rw [hb.traffic]
    exact h.spent m hm htold

/-! ### Requests -/

/-- No timer is set for an idle network. -/
def Unset (r : Recorder) : Prop := ∀ t ∈ r.clock.timers, t.alarm ≠ .idle

/-- The recorders differ in what they know of the network and in their timers only. -/
structure Alike (r r' : Recorder) : Prop where
  isActive : r'.active.isSome = r.active.isSome
  config : r'.config = r.config
  now : r'.clock.now = r.clock.now
  onAdded : r'.onAdded = r.onAdded
  steps : r'.steps = r.steps

lemma Alike.refl (r : Recorder) : Alike r r := ⟨rfl, rfl, rfl, rfl, rfl⟩

lemma Alike.trans (h : Alike r r') (h' : Alike r' r'') : Alike r r'' :=
  ⟨h'.isActive.trans h.isActive, h'.config.trans h.config, h'.now.trans h.now, h'.onAdded.trans h.onAdded,
    h'.steps.trans h.steps⟩

lemma alike_changeTraffic (r : Recorder) (f : Traffic → Traffic) : Alike r (r.changeTraffic f) := by
  cases ha : r.active with
  | none => rw [changeTraffic_of_none ha]; exact .refl r
  | some a =>
    rw [changeTraffic_of_some ha]
    exact ⟨by simp [ha], rfl, rfl, rfl, by rw [steps_of_active ha]; rfl⟩

lemma traffic?_changeTraffic (r : Recorder) (f : Traffic → Traffic) :
    (r.changeTraffic f).traffic? = r.traffic?.map f := by
  cases ha : r.active <;> simp [traffic?, changeTraffic, changeActive, ha]

/-- The timer for an idle network is cancelled, and nothing else happens. -/
lemma Linked.cancelIdle (hl : r.Linked) : ∃ r', Recorder.cancelIdle.run r = (.ok ⟨⟩, r') ∧ r'.Linked ∧ Alike r r' ∧
    Unset r' ∧ r'.traffic? = r.traffic?.map ({ · with idleTimer := none }) := by
  have hpath : Path {} r (Recorder.cancelIdle.run r).2 := cancelIdle_runs.leads hl ⟨rfl, rfl⟩
  refine ⟨_, rfl, hpath.linked hl, ?_⟩
  dsimp only
  cases hi : r.active.bind (·.traffic.idleTimer) with
  | none =>
    refine ⟨.refl r, fun t ht hta => ?_, ?_⟩
    · obtain ⟨a, ha⟩ := hl.exists_active ht
      rw [ha, Option.bind_some, (hl.active a ha).isIdle t ht hta] at hi
      cases hi
    · cases ha : r.active with
      | none => simp [traffic?, ha]
      | some a =>
        rw [ha, Option.bind_some] at hi
        simp [traffic?, ha, ← hi]
  | some n =>
    refine ⟨?_, fun t ht hta => ?_, traffic?_changeTraffic r ({ · with idleTimer := none })⟩
    · have := alike_changeTraffic r ({ · with idleTimer := none })
      exact ⟨this.isActive, this.config, rfl, rfl, this.steps⟩
    · obtain ⟨ht, hn⟩ := Clock.mem_cancel.1 ht
      obtain ⟨a, ha⟩ := hl.exists_active ht
      rw [ha, Option.bind_some, (hl.active a ha).isIdle t ht hta, Option.some.injEq] at hi
      exact hn hi

/-- A request starts: of what is not known of the network nothing changes, and no timer is set for an idle one. -/
lemma Linked.requestBegun (hl : r.Linked) : (Recorder.requestBegun.run r).2.Linked ∧
    Alike r (Recorder.requestBegun.run r).2 ∧ Unset (Recorder.requestBegun.run r).2 := by
  have hbegun := hl.changeTraffic (fun t => { t with inFlight := t.inFlight + 1, lastActivity := r.clock.now })
    fun _ => rfl
  obtain ⟨r', hrun, hl', ha, hunset, -⟩ := hbegun.cancelIdle
  unfold Recorder.requestBegun
  rw [Course.run_bind, Course.run_modify]
  dsimp only
  rw [hrun]
  exact ⟨hl', (alike_changeTraffic r _).trans ha, hunset⟩

namespace Accords

variable {moments : List Moment} {m : Moment}

lemma exists_active (h : Accords may moments r) : ∃ a, r.active = some a := Option.isSome_iff_exists.1 h.isActive

/-- A request starts or settles, and no timer is set for an idle network. -/
lemma request (h : Accords may moments r) (hm : m = .started r.clock.now ∨ m = .settled r.clock.now)
    (hl : r'.Linked) (ha : Alike r r') (hunset : Unset r') : Accords may (m :: moments) r' where
  linked := hl
  isActive := ha.isActive.trans h.isActive
  delay := ha.config ▸ h.delay
  chronicle := by
    have htime : m.time = r.clock.now := by rcases hm with rfl | rfl <;> rfl
    have hj : Justified r.config (m :: moments) := by rcases hm with rfl | rfl <;> exact h.chronicle.justified
    have hwait : m.isWait = false := by rcases hm with rfl | rfl <;> rfl
    rw [ha.config, ha.now, ha.steps]
    exact h.chronicle.add htime hj (by simp [hwait])
  live t ht hta := absurd hta (hunset t ht)
  spent k hk htold := by
    obtain rfl : m = k := by simpa using hk
    rcases hm with rfl | rfl <;> cases htold

/-- **A request starts**, which is one more moment. -/
theorem requestBegun (h : Accords may moments r) :
    Accords may (.started r.clock.now :: moments) (Recorder.requestBegun.run r).2 :=
  have ⟨hl, ha, hunset⟩ := h.linked.requestBegun
  h.request (.inl rfl) hl ha hunset

/-- The timer for an idle network is set, once the last request has settled just now. -/
lemma awaitIdle (h : Accords may moments r) (hhead : moments.head? = some (.settled r.clock.now))
    (hzero : ∀ traffic, r.traffic? = some traffic → traffic.inFlight = 0) :
    Accords may moments (Recorder.awaitIdle.run r).2 := by
  have hpath : Path {} r (Recorder.awaitIdle.run r).2 := awaitIdle_runs.leads h.linked h.isActive
  have hlinked := hpath.linked h.linked
  obtain ⟨s, hrun, -, ha, hunset, htraffic⟩ := h.linked.cancelIdle
  unfold Recorder.awaitIdle at hlinked ⊢
  rw [Course.run_bind, hrun] at hlinked ⊢
  dsimp only at hlinked ⊢
  rw [Course.run_modify] at hlinked ⊢
  have ha' := ha.trans (alike_changeTraffic s ({ · with idleTimer := some s.clock.nextSeq }))
  have hdelay : ¬ (s.config.idleDelay : ℚ) < 0 := by
    rw [ha.config, not_lt]
    exact_mod_cast h.delay
  exact {
    linked := hlinked
    isActive := ha'.isActive.trans h.isActive
    delay := ha.config ▸ h.delay
    chronicle := ha'.config ▸ h.chronicle.onward ha.now.ge (.inr (congrArg idleWaits ha'.steps))
    live := fun t ht hta => by
      rcases (Clock.mem_setTimer _ _).1 ht with rfl | ht
      · refine ⟨?_, fun traffic htr => ?_⟩
        · show moments.head? = some (.settled (s.clock.now + (if (s.config.idleDelay : ℚ) < 0 then 0 else
            (s.config.idleDelay : ℚ)) - s.config.idleDelay))
          rw [if_neg hdelay, ha.now, add_sub_cancel_right]
          exact hhead
        · have hsame := (traffic?_changeTraffic s ({ · with idleTimer := some s.clock.nextSeq })).symm.trans htr
          rw [htraffic, Option.map_map, Option.map_eq_some_iff] at hsame
          obtain ⟨before, hbefore, rfl⟩ := hsame
          exact hzero before hbefore
      · exact absurd hta (hunset t ht)
    spent := fun m hm htold => by
      rw [hhead] at hm
      obtain rfl := Option.some.inj hm
      cases htold }

/-- The course on which a recorder accords with the moments of its session. -/
def according (may : Leave) (moments : List Moment) : Course Recorder where
  holds := Accords may moments
  leads r r' := Accords may moments r → Accords may moments r'
  refl _ := id
  trans h h' := h' ∘ h
  keeps h := h

instance (may : Leave) (moments : List Moment) : Admits (according may moments) may where
  linked h := h.linked
  deed _ hd h := h.beside (hd.beside h.linked)

/-- What follows a response, once the request has settled just now. -/
lemma afterResponse_accords (moments : List Moment) (now : ℚ) (notes : Bool) (response : Response) :
    (according may (.settled now :: moments)).Runs (fun s => s.clock.now = now ∧ response.timestamp = s.now)
      (if notes = true then discard (add (responseStep response)) >>= fun _ =>
          get >>= fun s : Recorder => if (s.active.any (·.traffic.inFlight == 0)) = true then Recorder.awaitIdle else
            pure ()
        else get >>= fun s : Recorder => if (s.active.any (·.traffic.inFlight == 0)) = true then Recorder.awaitIdle else
          pure ())
      fun _ _ => True := by
  have hlast : (according may (.settled now :: moments)).Runs (fun s => s.clock.now = now)
      (get >>= fun s : Recorder => if (s.active.any (·.traffic.inFlight == 0)) = true then Recorder.awaitIdle else
        pure ()) fun _ _ => True := by
    refine .bind_get fun s => .ite (fun hany => ?_) fun _ => .pure fun _ _ _ => trivial
    rintro t - ⟨rfl, hnow⟩
    refine ⟨fun h => h.awaitIdle (by rw [hnow]; rfl) fun traffic htraffic => ?_, fun _ _ => trivial⟩
    obtain ⟨a, ha, rfl⟩ := Option.map_eq_some_iff.1 htraffic
    simpa [ha] using hany
  refine .ite (fun _ => .bind (Q := fun _ s => s.clock.now = now) ?_ fun _ => hlast) fun _ =>
    hlast.strengthen fun _ _ h => h.1
  rintro s hs ⟨rfl, ht⟩
  exact Course.Runs.discard (T := fun _ t => t.clock.now = s.clock.now)
    ((note_runs (c := s.clock) (w := s.texts) (responseStep response) rfl rfl).weaken fun _ _ h =>
      congrArg Clock.now h.1) s hs ⟨⟨rfl, rfl⟩, ht⟩

/-- **A request settles that was under way**, which is one more moment. -/
theorem requestEnded (h : Accords may moments r)
    (hpos : ∀ traffic, r.traffic? = some traffic → traffic.inFlight ≠ 0) (url method : String) (status : ℤ) :
    Accords may (.settled r.clock.now :: moments) ((Recorder.requestEnded url method status).run r).2 := by
  -- as long as a request is under way, no timer is set
  have hunset : Unset r := by
    intro t ht hta
    obtain ⟨a, ha⟩ := h.exists_active
    exact hpos _ (traffic?_eq ha) ((h.live t ht hta).2 _ (traffic?_eq ha))
  have hfewer := h.linked.changeTraffic (fun t => { t with inFlight := t.inFlight - 1 }) fun _ => rfl
  unfold Recorder.requestEnded
  rw [Course.run_bind, Course.run_modify]
  dsimp only
  rw [Course.run_bind, Course.run_get]
  dsimp only
  split
  · exact h.request (.inr rfl) hfewer (alike_changeTraffic r fun t => { t with inFlight := t.inFlight - 1 }) hunset
  · rw [Course.run_bind, Course.run_set]
    dsimp only
    refine (afterResponse_accords moments r.clock.now _ ⟨url, method, status, _⟩).leads ?_ ⟨rfl, rfl⟩ ?_
    all_goals
      refine h.request (.inr rfl) (hfewer.changeTraffic _ fun _ => rfl) ?_ hunset
      exact (alike_changeTraffic r _).trans (alike_changeTraffic _ _)

/-- What is known of the network changes, but not what the moments are tied to. -/
lemma changeTraffic (h : Accords may moments r) {f : Traffic → Traffic}
    (hf : ∀ t, (f t).inFlight = t.inFlight ∧ (f t).settledSinceIdle = t.settledSinceIdle ∧
      (f t).idleTimer = t.idleTimer) : Accords may moments (r.changeTraffic f) := by
  have ha := alike_changeTraffic r f
  have htraffic : ∀ {Q : Traffic → Prop}, (∀ t, Q t → Q (f t)) → (∀ t, r.traffic? = some t → Q t) →
      ∀ t, (r.changeTraffic f).traffic? = some t → Q t := fun hQ hall t ht => by
    rw [traffic?_changeTraffic] at ht
    obtain ⟨before, hbefore, rfl⟩ := Option.map_eq_some_iff.1 ht
    exact hQ _ (hall before hbefore)
  exact {
    linked := h.linked.changeTraffic f fun t => (hf t).2.2
    isActive := ha.isActive.trans h.isActive
    delay := h.delay
    chronicle := by
      rw [ha.steps]
      exact h.chronicle
    live := fun t ht hta => ⟨(h.live t ht hta).1, htraffic (fun _ hQ => (hf _).1.trans hQ) (h.live t ht hta).2⟩
    spent := fun m hm htold => htraffic (fun _ hQ => ⟨(hf _).1.trans hQ.1, (hf _).2.1.trans hQ.2⟩)
      (h.spent m hm htold) }

lemma forget (h : Accords may moments r) (notices : List Notice) : Accords may moments { r with notices } :=
  { h with linked := ⟨h.linked.sound, h.linked.free, h.linked.active⟩ }

/-- A session that begins has no moments yet. -/
lemma begun (hl : r.Linked) (hn : r.active = none) (hdelay : 0 ≤ r.config.idleDelay) (p : Page) :
    Accords may [] (r.begun p) where
  linked := hl.begun hn p
  isActive := rfl
  delay := hdelay
  chronicle := ⟨nofun, .nil, trivial, .inr rfl⟩
  live t ht := by
    rw [show (r.begun p).clock.timers = [] from hl.free hn] at ht
    cases ht
  spent := nofun

/-! ### Requests that belong to the session -/

variable {serial : ℕ} {A : Account}

/-- A request is under way if one is in the account of the session. -/
lemma inFlight_ne (ha : r.Accounts serial A) (hpos : A.inFlight ≠ 0) :
    ∀ traffic, r.traffic? = some traffic → traffic.inFlight ≠ 0 := by
  obtain ⟨a, ha, -, rfl⟩ := ha
  rw [traffic?_eq ha]
  rintro traffic ⟨⟩
  exact hpos

lemma requestEndedIn (h : Accords may moments r) (ha : r.Accounts serial A) (hpos : A.inFlight ≠ 0)
    (url method : String) (status : ℤ) :
    Accords may (.settled r.clock.now :: moments) ((Recorder.requestEndedIn serial url method status).run r).2 := by
  unfold Recorder.requestEndedIn
  rw [Course.run_bind, Course.run_get]
  simp only [ha.active_any, decide_true, if_true]
  exact h.requestEnded (inFlight_ne ha hpos) url method status

lemma requestOpened (h : Accords may moments r) (number : ℕ) (url method : String) :
    Accords may moments ((Recorder.requestOpened number url method).run r).2 :=
  h.changeTraffic (f := fun t => { t with opened := (number, url, method) :: t.opened.filter (·.1 != number) })
    fun _ => ⟨rfl, rfl, rfl⟩

/-- A request object is sent, which is one more moment if it is counted. -/
lemma requestSent? (h : Accords may moments r) (ha : r.Accounts serial A) (number : ℕ) :
    Accords may ((if r.isRecording = true ∧ (A.opened.lookup number).isSome = true then [.started r.clock.now]
      else []) ++ moments) ((Recorder.requestSent? number).run r).2 := by
  obtain ⟨a, ha, -, hA⟩ := ha
  have ho : a.traffic.opened = A.opened := by rw [← hA]; rfl
  unfold Recorder.requestSent?
  rw [Course.run_bind, Course.run_get]
  simp only [ha, ho]
  cases A.opened.lookup number with
  | none => simpa using h
  | some info =>
    cases r.isRecording with
    | false => simpa using h
    | true =>
      have hbegun := h.requestBegun
      simp only [if_true]
      rw [Course.run_bind]
      rcases hrun : Recorder.requestBegun.run r with ⟨_ | u, s⟩ <;> rw [hrun] at hbegun <;> simpa using hbegun

lemma requestDone (h : Accords may moments r) (ha : r.Accounts serial A) (hpos : A.inFlight ≠ 0) (number : ℕ)
    (url method : String) (status : ℤ) :
    Accords may (.settled r.clock.now :: moments)
      ((Recorder.requestDone number serial url method status).run r).2 := by
  unfold Recorder.requestDone
  rw [Course.run_bind, Course.run_get]
  simp only [ha.active_any, decide_true, if_true]
  rw [Course.run_bind, Course.run_modify]
  have hclosed := h.changeTraffic (f := fun t => { t with opened := t.opened.filter (·.1 != number) })
    fun _ => ⟨rfl, rfl, rfl⟩
  have haccount := ha.changeTraffic (f := fun t => { t with opened := t.opened.filter (·.1 != number) })
    (g := (·.closed number)) fun _ => rfl
  exact hclosed.requestEnded (inFlight_ne haccount hpos) url method status

end Accords

end PageTape.Recorder
