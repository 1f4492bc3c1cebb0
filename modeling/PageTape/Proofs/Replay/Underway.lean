import PageTape.Proofs.Replay.Stages

/-!
# The session of a replay

* `Scenario.stage_attached` — at every stage of a replay its recorder has put on the page what it needs, and no more;
* `underway` — the course of a replay while its session lasts: the recorder gets signals of that session, by which no
  steps are edited by hand, and the page does not come to hear of more;
* `doAll_stays` — all that is done between the beginning and the end keeps to it.
-/

namespace PageTape

namespace Scene.Action

/-- The page, its user or its clock does this, or the session is paused or goes on. -/
def isPlayed : Action → Bool
  | start | stop | clear => false
  | a => !a.edits && !a.isListening

/-- The clock goes back. -/
def goesBack : Action → Bool
  | advance ms => ms < 0
  | _ => false

end Scene.Action

namespace Replay

open Scene (Act Stays Orderly Attached)
open Recorder (Signal Leave)

variable {s t : Scene} {back : Bool}

/-! ### In order at every stage -/

lemma enact_attached (h : s.Attached) (a : Scene.Action) : ((enact a).run s).2.Attached := by
  have hother : ((discard (Scene.perform a) : Act Unit).run s).2.Attached := by
    rw [Course.run_discard]
    exact h.performed a
  cases a with
  | fetch resource init status offline =>
    have hfetch := h.performed (.fetch resource init status offline)
    rw [show Scene.perform (.fetch resource init status offline) =
      (Scene.Answer.reply ∘ some) <$> Scene.fetch resource init status offline from rfl, Course.run_map] at hfetch
    unfold enact
    rw [Course.run_bind, Course.run_tryCatch, Course.run_bind, Course.run_discard]
    rcases hr : (Scene.fetch resource init status offline).run s with ⟨fault | reply, t⟩ <;> rw [hr] at hfetch
    · cases fault <;> exact hfetch
    · exact hfetch
  | _ => exact hother

lemma Stage.attached_next {x y : Stage} (hx : x.scene.Attached) (h : x.next? = some y) : y.scene.Attached := by
  obtain ⟨s, tasks, fault⟩ := x
  cases fault with
  | some fault => cases h
  | none =>
    cases tasks with
    | nil => cases h
    | cons task rest =>
      unfold Stage.next? at h
      cases task with
      | act action =>
        have hs := enact_attached hx action
        dsimp only at h
        rcases hr : (enact action).run s with ⟨fault | u, t⟩ <;> rw [hr] at h hs <;> cases h <;> exact hs
      | play event =>
        dsimp only at h
        cases ha : event.actions s <;> rw [ha] at h <;> cases h <;> exact hx

/-- **At every stage the recorder has put on the page what it needs.** -/
theorem Scenario.stage_attached (scenario : Scenario) (html : String) (config : Recorder.Config) (n : ℕ) :
    ((scenario.stage html config).after n).scene.Attached :=
  Stage.after_induction (fun _ _ => Stage.attached_next)
    (Scene.Reachable.fresh (scene_fresh scenario html config)).attached n

/-! ### While the session lasts -/

/-- What a recorder may do in a replay. -/
def leave (back : Bool) : Leave := { back, counts := true }

/-- **The course of a replay while its session lasts.**  Unless `back` holds, its clock does not go back. -/
def underway (back : Bool) : Course Scene where
  holds := Orderly
  leads s t := Scene.Path true s t ∧ t.page.ears = s.page.ears ∧
    ∃ signals, (∀ x ∈ signals, Signal.Within x (leave back)) ∧ t.recorder = s.recorder.obeyAll signals
  refl _ := ⟨.refl, rfl, [], nofun, rfl⟩
  trans := by
    rintro s t u ⟨hp, he, signals, hw, ht⟩ ⟨hp', he', signals', hw', hu⟩
    refine ⟨hp.trans hp', he'.trans he, signals ++ signals', fun x hx => ?_, by rw [hu, ht, Recorder.obeyAll_append]⟩
    exact (List.mem_append.1 hx).elim (hw x) (hw' x)
  keeps h hs := (Scene.course true).keeps h.1 hs

lemma within_noticed : Signal.noticed.Within (leave back) := ⟨rfl, nofun, nofun, nofun⟩

/-- A signal, after which the recorder has no notices. -/
lemma underway_obeyed (s : Scene) {signal : Signal} (h : signal.Within (leave back)) (log : List Scene.Entry) :
    (underway back).leads s { s with recorder := { s.recorder.obey signal with notices := [] }, log } := by
  refine ⟨.single (.obeyed s signal log h.isInner fun _ => rfl), rfl, [signal, .noticed], fun x hx => ?_, rfl⟩
  rcases List.mem_cons.1 hx with rfl | hx
  · exact h
  · obtain rfl := List.mem_singleton.1 hx
    exact within_noticed

instance (back : Bool) : Scene.Admits (underway back) true true false false true where
  orderly h := h
  changed page browser listeners observers log _ hr hn _ he _ _ :=
    ⟨.single (.changed _ page browser listeners observers log hr hn), he.resolve_left nofun, [], nofun, rfl⟩
  obeyed signal _ hin _ _ ho := by
    refine underway_obeyed _ ⟨hin, fun h => ?_, fun h => ?_, fun _ => rfl⟩ _
    · cases signal with
      | addByHand | removeStep | updateStep => cases ho rfl
      | _ => cases h
    · cases signal with
      | advance => cases ho rfl
      | _ => cases h

/-- The recorder gets a signal. -/
lemma stays_byRecorder {α : Type} {act : Page → Recorder.Act α} (signal : Page → Signal)
    (h : ∀ p r, ((act p).run r).2 = Recorder.obey r (signal p)) (hw : ∀ p, (signal p).Within (leave back)) :
    Stays (underway back) (Scene.byRecorder act) :=
  .of_leads fun s _ => by
    rw [Scene.byRecorder_run, h]
    exact underway_obeyed s (hw _) _

/-- **What happens in a replay keeps to its course**, whether it fails or not. -/
theorem enact_stays {a : Scene.Action} (ha : a.isPlayed = true) (hb : a.goesBack = true → back = true) :
    Stays (underway back) (enact a) := by
  have other : ∀ {a : Scene.Action}, a.isPlayed = true → a.isOutside = false →
      Stays (underway back) (discard (Scene.perform a)) := fun {a} ha ho => by
    have hlisten : a.isListening = false := by
      cases a with
      | listen | unlisten | observe | disconnect => cases ha
      | _ => rfl
    have hin : a.isInner = true := by
      cases a with
      | start | stop | clear => cases ha
      | _ => rfl
    exact .discard (Scene.perform_runs a hin (fun _ => rfl) (.inr rfl) (fun h => by rw [ho] at h; cases h)
      (fun h => by rw [hlisten] at h; cases h) fun _ => rfl)
  cases a with
  | advance ms =>
    show Stays _ (discard (Scene.unanswered _))
    rw [discard_unanswered]
    refine stays_byRecorder (.advance · ms) (fun _ _ => rfl) fun p => ⟨rfl, nofun, hb, nofun⟩
  | runAll =>
    show Stays _ (discard (Scene.unanswered _))
    rw [discard_unanswered]
    exact stays_byRecorder .runAll (fun _ _ => rfl) fun p => ⟨rfl, nofun, nofun, nofun⟩
  | fetch resource init status offline =>
    have hfetch : Stays (underway back) (Scene.fetch resource init status offline) := .fetch rfl _ _ _ _
    refine .of_leads fun s hs => ?_
    have hleads := hfetch.leads hs trivial
    unfold enact
    rw [Course.run_bind, Course.run_tryCatch, Course.run_bind, Course.run_discard]
    rcases hr : (Scene.fetch resource init status offline).run s with ⟨fault | reply, t⟩ <;> rw [hr] at hleads
    · cases fault <;> exact hleads
    · exact hleads
  | pause =>
    exact .discard (.map _ (stays_byRecorder .pause (fun _ _ => Scene.snd_run_eq_obey rfl _) fun _ =>
      ⟨rfl, nofun, nofun, nofun⟩))
  | resume =>
    exact .discard (.map _ (stays_byRecorder (fun _ => .resume) (fun _ _ => Scene.snd_run_eq_obey rfl _) fun _ =>
      ⟨rfl, nofun, nofun, nofun⟩))
  | addStep | removeStep | updateStep => cases ha
  | _ => exact other ha rfl

/-! ### Events -/

/-- Time is to go back while an event is played. -/
def Event.goesBack : Event → Bool
  | type _ text interval => !text.isEmpty && interval < 0
  | wait ms => ms < 0
  | xhr _ _ _ duration => duration < 0
  | _ => false

/-- The actions of an event are of those that happen in a replay. -/
lemma played_actions {e : Event} {actions : List Scene.Action} (h : e.actions s = .ok actions) :
    ∀ a ∈ actions, a.isPlayed = true ∧ (a.goesBack = true → e.goesBack = true) := by
  have one : ∀ {a : Scene.Action}, a.isPlayed = true → (a.goesBack = true → e.goesBack = true) →
      ∀ b ∈ [a], b.isPlayed = true ∧ (b.goesBack = true → e.goesBack = true) := fun ha hb b hmem => by
    obtain rfl := List.mem_singleton.1 hmem
    exact ⟨ha, hb⟩
  have onward : ∀ {a : Scene.Action}, a.isPlayed = true → a.goesBack = false →
      a.isPlayed = true ∧ (a.goesBack = true → e.goesBack = true) := fun ha hb =>
    ⟨ha, fun hback => absurd (hb.symm.trans hback) Bool.false_ne_true⟩
  cases e with
  | type selector text interval =>
    obtain ⟨element, -, rfl⟩ := exists_found h
    intro a ha
    obtain ⟨c, hc, ha⟩ := List.mem_flatMap.1 ha
    have htext : text.isEmpty = false := Bool.eq_false_iff.2 fun he => by
      rw [String.isEmpty_iff.1 he] at hc
      simp at hc
    simp only [List.mem_cons, List.not_mem_nil, or_false] at ha
    rcases ha with rfl | rfl
    · exact onward rfl rfl
    · refine ⟨rfl, fun hb => ?_⟩
      simpa [Event.goesBack, htext, Scene.Action.goesBack] using hb
  | wait ms =>
    cases h
    exact one rfl fun hb => by simpa [Event.goesBack, Scene.Action.goesBack] using hb
  | xhr url method status duration =>
    cases h
    intro a ha
    unfold exchanging at ha
    simp only [List.mem_cons, List.mem_append, List.not_mem_nil, or_false] at ha
    rcases ha with rfl | rfl | rfl | ha | rfl
    · exact onward rfl rfl
    · exact onward rfl rfl
    · exact onward rfl rfl
    · split at ha
      · obtain rfl := List.mem_singleton.1 ha
        exact ⟨rfl, fun hb => by simpa [Event.goesBack, Scene.Action.goesBack] using hb⟩
      · cases ha
    · split <;> exact onward rfl rfl
  | fill | select | click | press | submit | append | remove =>
    obtain ⟨element, -, rfl⟩ := exists_found h
    exact one rfl (onward rfl rfl).2
  | fetch | navigate | hash | popState | pause | resume =>
    cases h
    exact one rfl (onward rfl rfl).2

/-- Some of what is done in a replay between its beginning and its end. -/
def Task.Within (back : Bool) : Task → Prop
  | act action => action.isPlayed = true ∧ (action.goesBack = true → back = true)
  | play event => event.goesBack = true → back = true

lemma doAll_acts_stays {actions : List Scene.Action}
    (h : ∀ a ∈ actions, a.isPlayed = true ∧ (a.goesBack = true → back = true)) :
    Stays (underway back) (doAll (actions.map .act)) := by
  induction actions with
  | nil => exact .pure _
  | cons a rest ih =>
    obtain ⟨⟨ha, hb⟩, hrest⟩ := List.forall_mem_cons.1 h
    exact .bind (enact_stays ha hb) fun _ => ih hrest

lemma event_stays {e : Event} (h : e.goesBack = true → back = true) : Stays (underway back) e.play :=
  .of_leads fun s hs => by
    rw [play_run]
    cases ha : e.actions s with
    | error fault => exact (underway back).refl s
    | ok actions =>
      refine (doAll_acts_stays fun a hmem => ?_).leads hs trivial
      obtain ⟨hplayed, hgoes⟩ := played_actions ha a hmem
      exact ⟨hplayed, fun hb => h (hgoes hb)⟩

/-- **All that is done in a replay between its beginning and its end keeps to the course of its session.** -/
theorem doAll_stays {tasks : List Task} (h : ∀ t ∈ tasks, t.Within back) : Stays (underway back) (doAll tasks) := by
  induction tasks with
  | nil => exact .pure _
  | cons t rest ih =>
    obtain ⟨ht, hrest⟩ := List.forall_mem_cons.1 h
    refine .bind ?_ fun _ => ih hrest
    cases t with
    | act action => exact enact_stays ht.1 ht.2
    | play event => exact event_stays ht

end Replay

end PageTape
