import PageTape.Proofs.Recorder.Onward
import PageTape.Proofs.Replay.Accepted
import PageTape.Proofs.Replay.Ends

/-!
# When a replay goes back in time

* `Scenario.goesOn` — the recorder of a replay goes on from each stage to each later one, unless an event lets time go
  back;
* `Stage.reaches` — all that is to be done in a replay that does not fail is done at some stage;
* `replay_goes_on` — so time goes back in the replay of a scenario that was read exactly if a text is typed with a
  negative pause after each character; `typed_back` is one with a step from before its beginning.
-/

namespace PageTape.Replay

open Recorder (GoesOn Path)
open Scene (Act Orderly)

variable {s : Scene} {scenario : Scenario} {html : String} {config : Recorder.Config}

/-! ### A replay goes on -/

/-- Done once a replay has begun; time does not go back by it. -/
def Task.Onward (t : Task) : Prop := t.Within false ∨ t = .act .stop

lemma goesOn_underway {t : Scene} (hs : s.Orderly) (h : (underway false).leads s t) :
    GoesOn s.recorder t.recorder := by
  obtain ⟨-, -, signals, hw, hrecorder⟩ := h
  rw [hrecorder]
  refine hs.linked.goesOn_obeyAll fun x hx => ⟨(hw x hx).isInner, ?_, ?_⟩
  · exact Bool.eq_false_iff.2 fun he => absurd ((hw x hx).edits he) Bool.false_ne_true
  · exact Bool.eq_false_iff.2 fun hb => absurd ((hw x hx).back hb) Bool.false_ne_true

lemma goesOn_stop (hs : s.Orderly) : GoesOn s.recorder ((enact .stop).run s).2.recorder := by
  have hstop : enact .stop = discard Scene.stop := discard_map _ _
  rw [hstop, Course.run_discard]
  obtain ⟨r, hp, ⟨fault, hrun⟩ | ⟨session, hrun⟩⟩ := Scene.stop_run hs.linked <;> rw [hrun]
  · exact (hp.goesOn hs.linked).forget
  · exact ((hp.goesOn hs.linked).trans (.conclude r)).forget

/-- **Each step of a replay that has begun goes on**, and leaves only such things to be done. -/
lemma Stage.goesOn_next {x y : Stage} (hs : x.scene.Orderly) (ht : ∀ t ∈ x.tasks, t.Onward) (h : x.next? = some y) :
    GoesOn x.scene.recorder y.scene.recorder ∧ ∀ t ∈ y.tasks, t.Onward := by
  obtain ⟨s, tasks, fault⟩ := x
  cases fault with
  | some fault => cases h
  | none =>
    cases tasks with
    | nil => cases h
    | cons task rest =>
      obtain ⟨htask, hrest⟩ := List.forall_mem_cons.1 ht
      unfold next? at h
      cases task with
      | act action =>
        have hgoes : GoesOn s.recorder ((enact action).run s).2.recorder := by
          rcases htask with ⟨hplayed, hback⟩ | htask
          · exact goesOn_underway hs ((enact_stays hplayed hback).leads hs trivial)
          · obtain rfl : action = .stop := by cases htask; rfl
            exact goesOn_stop hs
        dsimp only at h
        rcases hr : (enact action).run s with ⟨fault | u, t⟩ <;> rw [hr] at h hgoes <;> cases h
        · exact ⟨hgoes, nofun⟩
        · exact ⟨hgoes, hrest⟩
      | play event =>
        have hevent : event.goesBack = true → false = true := htask.resolve_right nofun
        dsimp only at h
        cases ha : event.actions s with
        | error fault =>
          rw [ha] at h
          cases h
          exact ⟨.refl _, nofun⟩
        | ok actions =>
          rw [ha] at h
          cases h
          refine ⟨.refl _, fun t hmem => ?_⟩
          rcases List.mem_append.1 hmem with hmem | hmem
          · obtain ⟨a, hact, rfl⟩ := List.mem_map.1 hmem
            obtain ⟨hplayed, hgoes⟩ := played_actions ha a hact
            exact .inl ⟨hplayed, fun hb => hevent (hgoes hb)⟩
          · exact hrest t hmem

/-- The stage once the session has begun. -/
lemma Scenario.stage_one (scenario : Scenario) (html : String) (config : Recorder.Config) :
    (scenario.stage html config).after 1 =
      ⟨scenario.started html config, scenario.events.map .play ++ [.act .runAll, .act .stop], none⟩ := by
  have hstart : (enact .start).run (scenario.scene html config) = (.ok ⟨⟩, scenario.started html config) := by
    rw [show enact .start = discard Scene.start from discard_map _ _]
    exact scenario.start_run html config
  have hnext : (scenario.stage html config).next? =
      some ⟨scenario.started html config, scenario.events.map .play ++ [.act .runAll, .act .stop], none⟩ := by
    unfold Scenario.stage Scenario.tasks
    simp only [Stage.next?, List.cons_append, hstart]
  rw [Stage.after_of_some hnext]
  rfl

lemma Scenario.stage_onward (html : String) (config : Recorder.Config)
    (hb : ∀ e ∈ scenario.events, e.goesBack = false) (n : ℕ) :
    ∀ t ∈ ((scenario.stage html config).after (1 + n)).tasks, t.Onward := by
  rw [Stage.after_add, scenario.stage_one]
  refine (Stage.after_induction (P := fun x => x.scene.Attached ∧ ∀ t ∈ x.tasks, t.Onward) ?_ ⟨?_, ?_⟩ n).2
  · rintro x y ⟨hs, ht⟩ h
    exact ⟨Stage.attached_next hs h, (Stage.goesOn_next hs.toOrderly ht h).2⟩
  · have hattached := scenario.stage_attached html config 1
    rw [scenario.stage_one] at hattached
    exact hattached
  · intro t ht
    rcases List.mem_append.1 ht with ht | ht
    · obtain ⟨e, he, rfl⟩ := List.mem_map.1 ht
      exact .inl fun h => by rw [hb e he] at h; cases h
    · rcases List.mem_pair.1 ht with rfl | rfl
      · exact .inl ⟨rfl, nofun⟩
      · exact .inr rfl

lemma Scenario.goesOn_succ (html : String) (config : Recorder.Config)
    (hb : ∀ e ∈ scenario.events, e.goesBack = false) (n : ℕ) :
    GoesOn ((scenario.stage html config).after n).scene.recorder
      ((scenario.stage html config).after (n + 1)).scene.recorder := by
  cases n with
  | zero =>
    rw [Nat.zero_add, scenario.stage_one]
    exact .begun _ _
  | succ n =>
    have hs := (scenario.stage_attached html config (n + 1)).toOrderly
    have ht := scenario.stage_onward html config hb n
    rw [Nat.add_comm 1 n] at ht
    rw [Stage.after_add (n + 1) 1]
    cases h : ((scenario.stage html config).after (n + 1)).next? with
    | none =>
      rw [Stage.after_of_none h]
      exact .refl _
    | some y =>
      rw [Stage.after_of_some h]
      exact (Stage.goesOn_next hs ht h).1

/-- **The recorder of a replay goes on** from each stage to each later one, unless an event lets time go back. -/
theorem Scenario.goesOn (html : String) (config : Recorder.Config)
    (hb : ∀ e ∈ scenario.events, e.goesBack = false) {m n : ℕ} (h : m ≤ n) :
    GoesOn ((scenario.stage html config).after m).scene.recorder
      ((scenario.stage html config).after n).scene.recorder := by
  induction n, h using Nat.le_induction with
  | base => exact .refl _
  | succ n _ ih => exact ih.trans (scenario.goesOn_succ html config hb n)

lemma Scenario.recorder_now (scenario : Scenario) (config : Recorder.Config) :
    (scenario.recorder config).now = scenario.startTime := by
  show Int.tdiv (scenario.startTime : Rat).num (scenario.startTime : Rat).den = scenario.startTime
  simp

/-- Nothing that a recorder has recorded since a replay began is from before. -/
lemma Scenario.recorded_since {r : Recorder} (h : GoesOn (scenario.recorder config) r) :
    (∀ step ∈ (r.session?.getD {}).steps, scenario.startTime ≤ step.timestamp) ∧
      ∀ x ∈ r.responses, scenario.startTime ≤ x.timestamp := by
  rw [← scenario.recorder_now config]
  refine ⟨fun step hstep => ?_, fun x hx => (h.responses x hx).resolve_left nofun⟩
  have hmem : step ∈ r.recorded := by
    unfold Recorder.recorded
    cases hs : r.session? <;> rw [hs] at hstep <;> exact hstep
  obtain ⟨old, hold, -⟩ | ⟨w, hw, -⟩ | hnew := h.steps step hmem
  · cases hold
  · cases hw
  · exact hnew

/-! ### A replay that goes back -/

namespace Stage

/-- What is to be done next happens, unless the replay fails. -/
lemma next_act {action : Scene.Action} {us : List Task} {u : Unit} {t : Scene}
    (h : result ⟨s, .act action :: us, none⟩ = (.ok u, t)) :
    ∃ v r, (enact action).run s = (.ok v, r) ∧ next? ⟨s, .act action :: us, none⟩ = some ⟨r, us, none⟩ := by
  have hresult : ((enact action >>= fun _ => doAll us).run s) = (.ok u, t) := h
  rw [Course.run_bind] at hresult
  rcases hr : (enact action).run s with ⟨fault | v, r⟩
  · rw [hr] at hresult
    cases hresult
  · exact ⟨v, r, rfl, by simp only [next?, hr]⟩

/-- An event that is to be played next finds its element, unless the replay fails. -/
lemma next_play {event : Event} {us : List Task} {u : Unit} {t : Scene}
    (h : result ⟨s, .play event :: us, none⟩ = (.ok u, t)) :
    ∃ actions, event.actions s = .ok actions ∧
      next? ⟨s, .play event :: us, none⟩ = some ⟨s, actions.map .act ++ us, none⟩ := by
  have hresult : ((event.play >>= fun _ => doAll us).run s) = (.ok u, t) := h
  rw [Course.run_bind, play_run] at hresult
  cases ha : event.actions s with
  | error fault =>
    rw [ha] at hresult
    cases hresult
  | ok actions => exact ⟨actions, rfl, by simp only [next?, ha]⟩

/-- **All that is to be done is done at some stage**, unless the replay fails. -/
theorem reaches {ts us : List Task} {u : Unit} {t : Scene} (h : result ⟨s, ts ++ us, none⟩ = (.ok u, t)) :
    ∃ n r, after ⟨s, ts ++ us, none⟩ n = ⟨r, us, none⟩ ∧ result ⟨r, us, none⟩ = (.ok u, t) := by
  induction hn : sizeAll ts using Nat.strong_induction_on generalizing s ts with
  | h n ih =>
    cases ts with
    | nil => exact ⟨0, s, rfl, h⟩
    | cons task rest =>
      -- what is to be done first takes one step, and leaves less
      obtain ⟨r, more, hnext, hless⟩ : ∃ r more, next? ⟨s, (task :: rest) ++ us, none⟩ =
          some ⟨r, more ++ us, none⟩ ∧ sizeAll more < n := by
        cases task with
        | act action =>
          obtain ⟨v, r, -, hnext⟩ := next_act h
          exact ⟨r, rest, hnext, hn ▸ by simp [sizeAll, Task.size]⟩
        | play event =>
          obtain ⟨actions, ha, hnext⟩ := next_play h
          refine ⟨s, actions.map .act ++ rest, by rw [List.append_assoc]; exact hnext, ?_⟩
          have hlen := length_actions ha
          have hact : (actions.map (Task.size ∘ Task.act)).sum = actions.length := by
            simp [Function.comp_def, Task.size]
          simp only [sizeAll, List.map_append, List.map_map, List.sum_append, hact, List.map_cons, List.sum_cons,
            Task.size] at hn ⊢
          omega
      obtain ⟨k, r', hafter, hrest⟩ := ih _ hless ((result_next hnext).trans h) rfl
      exact ⟨k + 1, r', (after_of_some hnext k).trans hafter, hrest⟩

end Stage

/-- Time passes by what a pause takes. -/
lemma advance_now {ms : Rat} {v : Unit} {t : Scene} (hl : s.recorder.Linked)
    (h : (enact (.advance ms)).run s = (.ok v, t)) : t.recorder.clock.now = s.recorder.clock.now + ms := by
  rw [show enact (.advance ms) = Scene.byRecorder (Recorder.advance · ms) from discard_unanswered _,
    Scene.byRecorder_run] at h
  obtain ⟨times, -, hsweeps⟩ := hl.advance_sweeps s.page ms
  rcases hr : (Recorder.advance s.page ms).run s.recorder with ⟨fault | v, r⟩ <;> rw [hr] at h hsweeps <;> cases h
  exact hsweeps.now

/-- **A text that is typed with a negative pause lets time go back**, unless the replay fails. -/
lemma Scenario.goes_back {target text : String} {interval : Int} {u : Unit} {t : Scene}
    (h : scenario.perform.run (scenario.scene html config) = (.ok u, t))
    (he : .type target text interval ∈ scenario.events) (htext : text ≠ "") (hi : interval < 0) :
    ∃ n, ((scenario.stage html config).after (n + 1)).scene.recorder.clock.now <
      ((scenario.stage html config).after n).scene.recorder.clock.now := by
  obtain ⟨before, rest, hevents⟩ := List.append_of_mem he
  obtain ⟨c, cs, hcs⟩ := List.exists_cons_of_ne_nil (mt String.toList_eq_nil_iff.1 htext)
  have hstage : scenario.stage html config = ⟨scenario.scene html config, (.act .start :: before.map .play) ++
      .play (.type target text interval) :: (rest.map .play ++ [.act .runAll, .act .stop]), none⟩ := by
    simp [Scenario.stage, Scenario.tasks, hevents]
  have hattached := scenario.stage_attached html config
  have hresult := (scenario.result_stage html config).trans h
  rw [hstage] at hattached hresult ⊢
  -- the text is typed, its first character, and then there is a pause
  obtain ⟨m, s, hm, hs⟩ := Stage.reaches hresult
  obtain ⟨actions, hactions, hplay⟩ := Stage.next_play hs
  obtain ⟨element, -, rfl⟩ := exists_found hactions
  have hs' := (Stage.result_next hplay).trans hs
  rw [show typing element interval text.toList =
    .type element c.toString :: .advance interval :: typing element interval cs by rw [hcs]; rfl] at hplay hs'
  obtain ⟨v, s₁, -, htype⟩ := Stage.next_act hs'
  obtain ⟨v, s₂, hadvance, hnext⟩ := Stage.next_act ((Stage.result_next htype).trans hs')
  have h₁ := Stage.after_next (Stage.after_next hm hplay) htype
  have h₂ := Stage.after_next h₁ hnext
  have hlinked := (hattached (m + 2)).linked
  refine ⟨m + 2, ?_⟩
  rw [h₁] at hlinked
  rw [h₂, h₁]
  have hnow := advance_now hlinked hadvance
  have hneg : (interval : Rat) < 0 := Int.cast_lt_zero.2 hi
  show s₂.recorder.clock.now < s₁.recorder.clock.now
  linarith

/-- In a scenario that was read time goes back only as texts are typed. -/
lemma Scenario.forward_of_read {d : Datum} (hd : Scenario.read d = .ok scenario)
    (hforward : ∀ target text interval, Event.type target text interval ∈ scenario.events → text ≠ "" → 0 ≤ interval) :
    ∀ e ∈ scenario.events, e.goesBack = false := by
  intro e he
  have haccepted := scenario.accepts hd e he
  cases e with
  | type target text interval =>
    by_cases htext : text = ""
    · simp [Event.goesBack, htext]
    · simp [Event.goesBack, hforward target text interval he htext]
  | wait ms => simpa [Event.goesBack, Event.Accepted] using haccepted
  | xhr url method status duration => simpa [Event.goesBack, Event.Accepted] using haccepted
  | _ => rfl

/-- Two characters are typed into a field, with a pause after each. -/
def typingData (interval : Int) : Datum :=
  .map [("startTime", .int 1000), ("events", .list [
    .map [("type", .text "#q"), ("text", .text "ab"), ("interval", .int interval)]])]

/-- The same as it is read. -/
def typingScenario (interval : Int) : Scenario :=
  { startTime := 1000, events := [.type "#q" "ab" interval] }

lemma read_typingData (interval : Int) : Scenario.read (typingData interval) = .ok (typingScenario interval) := rfl

/-- The times of all that is recorded when characters are typed into a field. -/
def typedTimes (interval : Int) : Option (List (StepKind × Int)) :=
  ((typingScenario interval).play "<input id=\"q\">" {}).toOption.map fun take =>
    take.session.steps.map fun step => (step.kind, step.timestamp)

end PageTape.Replay
