import PageTape.Replay.Player
import PageTape.Proofs.Clock.Advance
import PageTape.Proofs.Recorder.Pass
import PageTape.Proofs.Scene.Lifecycle

/-!
# The law of a clock, and of waiting

* `pass_split` — to wait once, or to wait twice for as long together, leaves the same scene;
* `advance_law` — a clock that is advanced runs what is due, in order and on time, takes up what a failure has left, and
  may as well be advanced in two parts; and so a scenario may as well wait twice.
-/

namespace PageTape.Replay

open Scene (Act Stays Orderly)

variable {s : Scene} {α : Type}

/-- A replay gives what has been recorded exactly if it runs to its end. -/
lemma Scenario.play_eq_ok {scenario : Scenario} {html : String} {config : Recorder.Config} {take : Take} :
    scenario.play html config = .ok take ↔ ∃ s, scenario.perform.run (scenario.scene html config) = (.ok ⟨⟩, s) ∧
      { session := s.recorder.session?.getD {}, responses := s.recorder.responses } = take := by
  unfold Scenario.play
  rcases scenario.perform.run (scenario.scene html config) with ⟨fault | u, s⟩
  · constructor
    · rintro ⟨⟩
    · rintro ⟨s, ⟨⟩, -⟩
  · constructor
    · rintro ⟨⟩
      exact ⟨s, rfl, rfl⟩
    · rintro ⟨t, ⟨⟩, rfl⟩
      rfl

/-! ### Events keep a scene in order -/

namespace Event

/-- The page makes a request. -/
def isRequest : Event → Bool
  | fetch _ _ _ | xhr _ _ _ _ => true
  | _ => false

/-- The session is paused or goes on. -/
def isMarker : Event → Bool
  | pause _ | resume _ => true
  | _ => false

end Event

/-- The course of a scene in which requests may be made. -/
abbrev course : Course Scene := Scene.course true

lemma pass_stays (ms : Int) : Stays course (pass ms) :=
  .byRecorder (.advance · ms) (fun _ _ => rfl) (fun _ => rfl) nofun (fun _ => .inl rfl) fun _ _ => rfl

section Course

variable {C : Course Scene} {counts opens outside listens travels : Bool}

lemma target_stays (selector : String) : Stays C (target selector) := .get fun _ => .ofExcept _

/-- A program that goes on in some way where another one fails. -/
lemma tryCatch_stays {x : Act α} {y : Fault → Act α} (hx : Stays C x) (hy : ∀ fault, Stays C (y fault)) :
    Stays C (tryCatch x y) := .of_leads fun s hs => by
  have h := hx.leads hs trivial
  rw [Course.run_tryCatch]
  rcases hr : x.run s with ⟨fault | a, t⟩ <;> rw [hr] at h
  · exact C.trans h ((hy fault).leads (C.keeps h hs) trivial)
  · exact h

variable [hC : Scene.Admits C counts opens outside listens travels]
include hC

lemma typeSlowly_stays {interval : Int} (hpass : Stays C (pass interval)) (element : Dom.Id) (text : List Char) :
    Stays C (typeSlowly element interval text) := by
  induction text with
  | nil => exact .pure _
  | cons c rest ih => exact .bind (.typeText _ _) fun _ => .bind hpass fun _ => ih

lemma fetch_stays (hc : counts = true) (url method : String) (status : Int) : Stays C (fetch url method status) := by
  refine .bind (tryCatch_stays (.bind (.discard (.fetch hc _ _ _ _)) fun _ => .pure _) fun fault => ?_) fun e => ?_
  · cases fault with
    | networkFailed url => exact .pure _
    | _ => exact .bind (.throw _) fun _ => .pure _
  · cases e with
    | ok a => exact .pure _
    | error e => exact .pure _

lemma exchange_stays (hc : counts = true) {duration : Int} (hpass : Stays C (pass duration)) (url method : String)
    (status : Int) : Stays C (exchange url method status duration) := by
  have hend : Stays C (if status == 0 then Scene.fail "" else Scene.respond "" status "") :=
    .ite (.endExchange hc _ _ (fun _ => rfl) fun _ => rfl) (.endExchange hc _ _ (fun _ => rfl) fun _ => rfl)
  refine .bind (.changeNetwork hc (fun _ => ⟨rfl, rfl, rfl⟩) fun _ _ hn => hn.newExchange "") fun _ => ?_
  refine .bind (.openExchange hc _ _ _) fun _ => .bind (.sendExchange hc _ _) fun _ => ?_
  exact .ite (.bind hpass fun _ => hend) hend

/-- **Events keep to a course on which time passes**, unless they pause a session or let it go on. -/
lemma play_stays_of (hpass : ∀ ms, Stays C (pass ms)) {e : Event} (hc : e.isRequest = true → counts = true)
    (hm : e.isMarker = false) (ht : travels = true) : Stays C e.play := by
  cases e with
  | type selector text interval => exact .bind (target_stays _) fun _ => typeSlowly_stays (hpass _) _ _
  | fill selector value => exact .bind (target_stays _) fun _ => .fill _ _
  | select selector value => exact .bind (target_stays _) fun _ => .fill _ _
  | click selector => exact .bind (target_stays _) fun _ => .click _
  | press selector key => exact .bind (target_stays _) fun _ => .press _ _
  | submit selector => exact .bind (target_stays _) fun _ => .submit _
  | wait ms => exact hpass ms
  | fetch url method status => exact fetch_stays (hc rfl) _ _ _
  | xhr url method status duration => exact exchange_stays (hc rfl) (hpass _) _ _ _
  | append selector html => exact .bind (target_stays _) fun _ => .discard (.appendHtml _ _)
  | remove selector => exact .bind (target_stays _) fun _ => .remove _
  | navigate url => exact .navigate ht _
  | hash fragment => exact .setHash ht _
  | popState url => exact .popState ht _
  | pause marker => cases hm
  | resume marker => cases hm

end Course

lemma play_stays (e : Event) : Stays course e.play := by
  cases e with
  | pause marker =>
    exact .discard (.byRecorder .pause (fun p r => Scene.snd_run_eq_obey rfl r) (fun _ => rfl) nofun (fun _ => .inl rfl)
      fun _ _ => rfl)
  | resume marker =>
    exact .discard (.byRecorder (fun _ => .resume) (fun p r => Scene.snd_run_eq_obey rfl r) (fun _ => rfl) nofun
      (fun _ => .inr rfl) fun _ _ => rfl)
  | _ => exact play_stays_of pass_stays (fun _ => rfl) rfl rfl

lemma playAll_stays (es : List Event) : Stays course (playAll es) := by
  induction es with
  | nil => exact .pure _
  | cons e rest ih => exact .bind (play_stays e) fun _ => ih

/-! ### Waiting -/

/-- **To wait once or twice makes no difference to a scene.** -/
theorem pass_split (h : s.Orderly) (a : Int) {b : Int} (hb : 0 ≤ b) :
    (pass a >>= fun _ => pass b).run s = (pass (a + b)).run s := by
  have hsplit := Recorder.advance_split s.page h.linked a (b := b) (by exact_mod_cast hb)
  have hrun : ∀ (ms : Int) (s : Scene), (pass ms).run s = (((Recorder.advance s.page ms).run s.recorder).1, { s with
      recorder := { ((Recorder.advance s.page ms).run s.recorder).2 with notices := [] }
      log := s.log ++ ((Recorder.advance s.page ms).run s.recorder).2.notices.map .step }) :=
    fun ms s => Scene.byRecorder_run _ s
  rw [Course.run_bind, hrun a, hrun (a + b)]
  rw [Int.cast_add, ← hsplit, Course.run_bind]
  rcases ha : (Recorder.advance s.page a).run s.recorder with ⟨e | u, r⟩
  · rfl
  · -- the second part does not heed the notices of the first one
    have hunheeding := (Recorder.advance_unheeding s.page b).run_after r.notices { r with notices := [] }
    have hr : ({ r with notices := [] } : Recorder).after r.notices = r := by simp [Recorder.after]
    rw [hr] at hunheeding
    dsimp only
    rw [hrun b, hunheeding]
    simp [Recorder.after]

lemma playAll_append (es fs : List Event) : playAll (es ++ fs) = playAll es >>= fun _ => playAll fs := by
  induction es with
  | nil => rfl
  | cons e rest ih =>
    show (e.play >>= fun _ => playAll (rest ++ fs)) = (e.play >>= fun _ => playAll rest) >>= _
    rw [ih, bind_assoc]

/-- To wait twice among other events is to wait once. -/
lemma playAll_wait (h : s.Orderly) (before after : List Event) (a : Int) {b : Int} (hb : 0 ≤ b) :
    (playAll (before ++ .wait a :: .wait b :: after)).run s = (playAll (before ++ .wait (a + b) :: after)).run s := by
  rw [playAll_append, playAll_append, Course.run_bind, Course.run_bind]
  have hbefore := (playAll_stays before).leads h trivial
  rcases hr : (playAll before).run s with ⟨e | u, t⟩
  · rfl
  · rw [hr] at hbefore
    have hassoc : playAll (.wait a :: .wait b :: after) = (pass a >>= fun _ => pass b) >>= fun _ => playAll after :=
      (bind_assoc (pass a) (fun _ => pass b) fun _ => playAll after).symm
    show (playAll (.wait a :: .wait b :: after)).run t = (pass (a + b) >>= fun _ => playAll after).run t
    rw [hassoc, Course.run_bind, pass_split (course.keeps hbefore h) a hb, Course.run_bind]

/-- The scene before a replay is one in which nothing has happened. -/
lemma scene_fresh (scenario : Scenario) (html : String) (config : Recorder.Config) :
    (scenario.scene html config).Fresh := ⟨⟨rfl, rfl, rfl, rfl⟩, rfl, rfl, rfl, rfl, rfl⟩

/-- **To wait once or twice makes no difference to what is recorded.** -/
theorem play_wait (scenario : Scenario) (before after : List Event) (a : Int) {b : Int} (hb : 0 ≤ b) (html : String)
    (config : Recorder.Config) :
    ({ scenario with events := before ++ .wait a :: .wait b :: after } : Scenario).play html config =
      ({ scenario with events := before ++ .wait (a + b) :: after } : Scenario).play html config := by
  have hperform : ∀ {s : Scene} (es fs : List Event), s.Reachable →
      (∀ t : Scene, t.Orderly → (playAll es).run t = (playAll fs).run t) →
      ({ scenario with events := es } : Scenario).perform.run s =
        ({ scenario with events := fs } : Scenario).perform.run s := by
    intro s es fs hs hsame
    unfold Scenario.perform
    rw [Course.run_bind, Course.run_bind]
    have hstart := (Scene.start_runs.discard (T := fun _ _ => True)).leads hs.attached trivial hs.attached
    rcases hr : (discard Scene.start : Act PUnit).run s with ⟨e | u, t⟩
    · rfl
    · rw [hr] at hstart
      dsimp only
      rw [Course.run_bind, Course.run_bind, hsame t hstart.toOrderly]
  unfold Scenario.play
  have hscene : ∀ es, ({ scenario with events := es } : Scenario).scene html config = scenario.scene html config :=
    fun _ => rfl
  rw [hscene, hscene, hperform _ _ (.fresh (scene_fresh scenario html config)) fun t ht =>
    playAll_wait ht before after a hb]
  rfl

/-! ### The law -/

open ClockProgram (State Swept)

/-- Two timers are set.  The callback of the first one sets a third timer and fails. -/
def breaking : State :=
  ((ClockProgram.begin 0 100).obey (.later "second" 80 (.calling "second" []))).obey
    (.later "first" 50 (.calling "first" [.later "third" 10 (.calling "third" []), .fail "broken"]))

end PageTape.Replay
