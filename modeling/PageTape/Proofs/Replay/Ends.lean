import PageTape.Proofs.Recorder.Rounds
import PageTape.Proofs.Replay.Underway

/-!
# A replay comes to an end

* `Opens` — the active session begins with a step that opens a page; it does so after every signal of a replay;
* `Scenario.perform_stops` — a replay that does not fail stops its session;
* `replay_ends` — every replay comes to an end after finitely many steps, at each of which time passes without a bound
  on the timers that go off; and what it has begun is over then.
-/

namespace PageTape

namespace Recorder

variable {may : Leave} {r r' : Recorder} {first : Step}

/-! ### The first step -/

/-- A session is active that begins with a step. -/
def Opens (first : Step) (r : Recorder) : Prop := ∃ a, r.active = some a ∧ a.session.steps.head? = some first

lemma head?_concat {steps : List Step} (h : steps.head? = some first) (step : Step) :
    (steps ++ [step]).head? = some first := by
  cases steps with
  | nil => cases h
  | cons => exact h

/-- The newest step changes, but not if it is the first one. -/
lemma head?_relast {steps : List Step} {last : Step} (h : (steps ++ [last]).head? = some first) (hne : last ≠ first)
    (step : Step) : (steps ++ [step]).head? = some first := by
  cases steps with
  | nil => exact absurd (Option.some.inj h) hne
  | cons => exact h

lemma Takes.head? {w : Waiting String Typed} {steps steps' : List Step} (h : Takes w steps steps')
    (hk : first.kind = .navigate) (hf : steps.head? = some first) : steps'.head? = some first := by
  cases h with
  | update steps last habout =>
    refine head?_relast hf (fun e => ?_) _
    simp [isAbout, e, hk] at habout
  | append steps step => exact head?_concat hf step

/-- **No move takes away the first step**, unless steps are edited by hand. -/
lemma Move.opens (hm : Move may r r') (he : may.edits = false) (hk : first.kind = .navigate) (h : Opens first r) :
    Opens first r' := by
  obtain ⟨a, ha, hf⟩ := h
  have same : ∀ {b : Active}, r.active = some b → b.session.steps.head? = some first := fun hb => by
    obtain rfl := Option.some.inj (ha.symm.trans hb)
    exact hf
  cases hm with
  | told notices | attended onAdded onUpdated | passed time hdue hb => exact ⟨a, ha, hf⟩
  | flushed notices h hr hw hs | rung notices h hr hw hfirst hs => exact ⟨_, rfl, hs.head? hk (same h)⟩
  | acted notices h hr hw hkind ht | noted notices h hr hkind ht => exact ⟨_, rfl, head?_concat (same h) _⟩
  | rechosen notices value h hw hs hselect =>
    refine ⟨_, rfl, head?_relast (hs ▸ same h) (fun e => ?_) _⟩
    rw [e, hk] at hselect
    cases hselect
  | edited steps last notices h hedits =>
    rw [he] at hedits
    cases hedits
  | heeded payload h | settled h hw hfirst | counted h hi hc | idleSet delay h hn | idleCancelled h hn
  | idleRung h ht hta hfirst | paused h hw | resumed h hs =>
    have hsame := same h
    exact ⟨_, rfl, hsame⟩

lemma Path.opens (hp : Path may r r') (he : may.edits = false) (hk : first.kind = .navigate) (h : Opens first r) :
    Opens first r' := by
  induction hp with
  | refl => exact h
  | tail _ hm ih => exact hm.opens he hk ih

/-- **Signals of a session leave its first step**, unless steps are edited by hand. -/
theorem Linked.opens_obeyAll (hl : r.Linked) {signals : List Signal} (hw : ∀ x ∈ signals, Signal.Within x may)
    (he : may.edits = false) (hk : first.kind = .navigate) (h : Opens first r) : Opens first (r.obeyAll signals) := by
  induction signals generalizing r with
  | nil => exact h
  | cons x rest ih =>
    obtain ⟨hx, hrest⟩ := List.forall_mem_cons.1 hw
    refine ih (hl.obey_any x) hrest ?_
    obtain ⟨selector, typed, -, hkept⟩ | ⟨-, hp⟩ := hl.obey hx
    · obtain ⟨a, ha, hf⟩ := h
      rw [hkept, keepText_eq ha]
      exact ⟨_, rfl, hf⟩
    · exact hp.opens he hk h

lemma Opens.conclude (h : Opens first r) :
    ∃ session, r.conclude.stopped = some session ∧ session.status = .stopped ∧ session.steps.head? = some first := by
  obtain ⟨a, ha, hf⟩ := h
  unfold Recorder.conclude
  rw [ha]
  exact ⟨_, rfl, rfl, hf⟩

end Recorder

namespace Replay

open Scene (Act Stays Orderly)

variable {s : Scene}

/-! ### Beginning and end -/

/-- The scene of a replay once its session has begun. -/
def Scenario.started (scenario : Scenario) (html : String) (config : Recorder.Config) : Scene :=
  { scenario.scene html config with
    recorder := (scenario.recorder config).begun (Page.ofHtml scenario.url html)
    page := Scene.attach (Page.ofHtml scenario.url html) 0 }

lemma Scenario.start_run (scenario : Scenario) (html : String) (config : Recorder.Config) :
    (discard Scene.start : Act PUnit).run (scenario.scene html config) = (.ok ⟨⟩, scenario.started html config) := rfl

lemma Scenario.started_orderly (scenario : Scenario) (html : String) (config : Recorder.Config) :
    (scenario.started html config).Orderly := by
  have hattached := (Scene.Reachable.fresh (scene_fresh scenario html config)).attached
  have hstart := (Scene.start_runs.discard (T := fun _ _ => True)).leads hattached trivial hattached
  rw [scenario.start_run] at hstart
  exact hstart.toOrderly

/-- The step that opens the page of a scenario. -/
def Scenario.opening (scenario : Scenario) (html : String) : Step :=
  { kind := .navigate, timestamp := scenario.startTime, url := some scenario.url
    label := some (orText (some (Page.ofHtml scenario.url html).title) "Page") }

lemma Scenario.started_opens (scenario : Scenario) (html : String) (config : Recorder.Config) :
    Recorder.Opens (scenario.opening html) (scenario.started html config).recorder := by
  have hnow : (scenario.recorder config).now = scenario.startTime := by
    show Int.tdiv (scenario.startTime : Rat).num (scenario.startTime : Rat).den = scenario.startTime
    simp
  refine ⟨_, rfl, ?_⟩
  show some _ = some _
  rw [hnow]
  rfl

lemma playAll_stays_underway {back : Bool} {events : List Event}
    (hb : ∀ e ∈ events, e.goesBack = true → back = true) : Stays (underway back) (playAll events) := by
  rw [← doAll_play]
  refine doAll_stays fun task htask => ?_
  obtain ⟨e, he, rfl⟩ := List.mem_map.1 htask
  exact hb e he

lemma runAll_stays_underway (back : Bool) : Stays (underway back) (Scene.byRecorder Recorder.runAll) :=
  stays_byRecorder .runAll (fun _ _ => rfl) fun _ => ⟨rfl, nofun, nofun, nofun⟩

/-- A replay that does not fail is done part by part. -/
lemma Scenario.perform_parts {scenario : Scenario} {html : String} {config : Recorder.Config} {u : Unit}
    (h : scenario.perform.run (scenario.scene html config) = (.ok u, s)) :
    ∃ t t' r, (playAll scenario.events).run (scenario.started html config) = (.ok ⟨⟩, t) ∧
      (Scene.byRecorder Recorder.runAll).run t = (.ok ⟨⟩, t') ∧ Recorder.Path {} t'.recorder r ∧
      s = { t' with
        recorder := { r.conclude with notices := [] }, log := t'.log ++ r.conclude.notices.map .step
        page := if t'.recorder.active.isSome = true then Scene.detach t'.page else t'.page } := by
  unfold Scenario.perform at h
  rw [Course.run_bind, scenario.start_run] at h
  dsimp only at h
  have hstays : Stays (underway true) (playAll scenario.events) := playAll_stays_underway fun _ _ _ => rfl
  have hplay := hstays.leads (scenario.started_orderly html config) trivial
  rw [Course.run_bind] at h
  rcases hrun : (playAll scenario.events).run (scenario.started html config) with ⟨fault | v, t⟩ <;>
    rw [hrun] at h hplay
  · cases h
  have ht := (underway true).keeps hplay (scenario.started_orderly html config)
  have hrest := (runAll_stays_underway true).leads ht trivial
  dsimp only at h
  rw [Course.run_bind] at h
  rcases hrun' : (Scene.byRecorder Recorder.runAll).run t with ⟨fault | v', t'⟩ <;> rw [hrun'] at h hrest
  · cases h
  dsimp only at h
  rw [Course.run_discard] at h
  obtain ⟨r, hp, ⟨fault, hstop⟩ | ⟨session, hstop⟩⟩ := Scene.stop_run ((underway true).keeps hrest ht).linked <;>
    rw [hstop] at h
  · cases h
  · exact ⟨t, t', r, rfl, hrun', hp, (congrArg Prod.snd h).symm⟩

/-- **A replay that does not fail stops its session**, which has got signals since it began. -/
theorem Scenario.perform_stops {scenario : Scenario} {html : String} {config : Recorder.Config} {u : Unit}
    (back : Bool) (hb : ∀ e ∈ scenario.events, e.goesBack = true → back = true)
    (h : scenario.perform.run (scenario.scene html config) = (.ok u, s)) :
    ∃ t r, (underway back).leads (scenario.started html config) t ∧ Recorder.Path {} t.recorder r ∧
      s = { t with
        recorder := { r.conclude with notices := [] }, log := t.log ++ r.conclude.notices.map .step
        page := if t.recorder.active.isSome = true then Scene.detach t.page else t.page } := by
  obtain ⟨t, t', r, hplay, hrest, hp, hs⟩ := Scenario.perform_parts h
  have horderly := scenario.started_orderly html config
  have hfirst := (playAll_stays_underway hb).leads horderly trivial
  rw [hplay] at hfirst
  have hlast := (runAll_stays_underway back).leads ((underway back).keeps hfirst horderly) trivial
  rw [hrest] at hlast
  exact ⟨t', r, (underway back).trans hfirst hlast, hp, hs⟩

/-! ### The end -/

/-- What a session has put on a page without listeners is taken away from it again. -/
lemma ears_detach {p q : Page} {serial : ℕ} (hq : q.ears = ([], [], [])) (h : p.ears = (Scene.attach q serial).ears) :
    (Scene.detach p).ears = ([], [], []) := by
  have hd : p.documentListeners = Scene.documentRegistrations.foldl Page.Listeners.add q.documentListeners :=
    congrArg (·.1) h
  have hw : p.windowListeners = Scene.windowRegistrations.foldl Page.Listeners.add q.windowListeners :=
    congrArg (·.2.1) h
  have ho : p.watches = Page.addWatch (Scene.recorderWatch q) q.watches := congrArg (·.2.2) h
  rw [show q.documentListeners = [] from congrArg (·.1) hq] at hd
  rw [show q.windowListeners = [] from congrArg (·.2.1) hq] at hw
  rw [show q.watches = [] from congrArg (·.2.2) hq] at ho
  unfold Scene.detach Page.ears
  rw [hd, hw, ho]
  rfl

/-- **A replay comes to an end.**

* It takes finitely many steps, each of which does one thing of what is to be done, until nothing is or one has failed.
* At each of them time passes, by any time or until no timer is set, and only as many timers go off as were set: none of
  them sets another one, and none goes off too early for what it is for.
* Unless it has failed, its session is stopped then, and begins with the step that opens the page of the scenario at the
  time of its beginning; no timer is set, and nothing listens to the page or watches it any more. -/
theorem replay_ends (scenario : Scenario) (html : String) (config : Recorder.Config) :
    (∃ n ≤ sizeAll scenario.tasks, ((scenario.stage html config).after n).next? = none ∧
      ((scenario.stage html config).after n).outcome = scenario.perform.run (scenario.scene html config)) ∧
    (∀ n, ∀ s, ((scenario.stage html config).after n).scene = s →
      (∀ ms, ∃ times, times.length ≤ s.recorder.clock.pending ∧
        Recorder.Sweeps s.page (s.recorder.clock.now + ms) times s.recorder
          ((Recorder.advance s.page ms).run s.recorder)) ∧
      ∃ times, times.length ≤ s.recorder.clock.pending ∧
        Recorder.RunsOut s.page times s.recorder ((Recorder.runAll s.page).run s.recorder)) ∧
    ∀ take, scenario.play html config = .ok take →
      take.session.status = .stopped ∧
      (∃ first ∈ take.session.steps.head?, first.kind = .navigate ∧ first.url = some scenario.url ∧
        first.timestamp = scenario.startTime) ∧
      ∃ s, scenario.perform.run (scenario.scene html config) = (.ok ⟨⟩, s) ∧ s.recorder.clock.pending = 0 ∧
        s.page.documentListeners = [] ∧ s.page.windowListeners = [] ∧ s.page.watches = [] := by
  refine ⟨⟨_, le_rfl, ?_⟩, fun n s hs => ?_, fun take htake => ?_⟩
  · obtain ⟨hrest, hresult⟩ := Stage.after_rests (scenario.stage html config) le_rfl
    exact ⟨hrest, hresult.trans (scenario.result_stage html config)⟩
  · have hlinked := (scenario.stage_attached html config n).linked
    rw [hs] at hlinked
    exact ⟨fun ms => hlinked.advance_sweeps s.page ms, hlinked.runAll_runsOut s.page⟩
  · obtain ⟨s, hrun, rfl⟩ := Scenario.play_eq_ok.1 htake
    obtain ⟨t, r, ⟨hpath, hears, signals, hwithin, hrecorder⟩, hp, rfl⟩ :=
      Scenario.perform_stops true (fun _ _ _ => rfl) hrun
    have horderly := scenario.started_orderly html config
    have ht := ((Scene.course true).keeps hpath horderly).linked
    have hopens : Recorder.Opens (scenario.opening html) t.recorder := by
      rw [hrecorder]
      exact horderly.linked.opens_obeyAll hwithin rfl rfl (scenario.started_opens html config)
    obtain ⟨session, hstopped, hstatus, hfirst⟩ := (hp.opens rfl rfl hopens).conclude
    have hsession : (({ r.conclude with notices := [] } : Recorder).session?.getD {}) = session := by
      unfold Recorder.session?
      rw [show ({ r.conclude with notices := [] } : Recorder).active = none from Recorder.conclude_active r]
      exact congrArg (·.getD {}) hstopped
    have hactive : t.recorder.active.isSome = true := by
      obtain ⟨a, ha, -⟩ := hopens
      rw [ha]
      rfl
    have hgone := ears_detach (q := Page.ofHtml scenario.url html) rfl hears
    dsimp only
    rw [hsession]
    refine ⟨hstatus, ⟨scenario.opening html, hfirst, rfl, rfl, rfl⟩, _, hrun, ?_, ?_⟩
    · show r.conclude.clock.timers.length = 0
      rw [Recorder.conclude_clock, (hp.linked ht).drop_timers]
      rfl
    · rw [if_pos hactive]
      exact ⟨congrArg (·.1) hgone, congrArg (·.2.1) hgone, congrArg (·.2.2) hgone⟩

/-- A page asks for something, and a second passes. -/
def asking : Scenario :=
  { url := "https://shop.test/", startTime := 1000, events := [.fetch "/api/items" "GET" 200, .wait 1000] }

/-- The network is idle half a second after the answer, and then the session is stopped. -/
theorem asking_ends : ∃ take, asking.play "" {} = .ok take ∧ take.session.status = .stopped ∧
    take.session.steps.map (fun step => (step.kind, step.timestamp)) =
      [(.navigate, 1000), (.waitForNetworkIdle, 1500)] := by
  have hsteps : (asking.play "" {}).toOption.map (fun take => take.session.steps.map fun step =>
      (step.kind, step.timestamp)) = some [(.navigate, 1000), (.waitForNetworkIdle, 1500)] := by decide +kernel
  cases htake : asking.play "" {} with
  | error fault =>
    rw [htake] at hsteps
    cases hsteps
  | ok take =>
    obtain ⟨-, -, hends⟩ := replay_ends asking "" {}
    rw [htake] at hsteps
    exact ⟨take, rfl, (hends take htake).1, Option.some.inj hsteps⟩

end Replay

end PageTape
