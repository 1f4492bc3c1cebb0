import PageTape.Proofs.Replay.Ends
import PageTape.Proofs.Scene.Faults

/-!
# What fails in a replay

* `Event.reports_play` — an event fails with a message, or because the selector of its element cannot be read;
* `Scenario.play_unreported_iff` — so a replay fails without a message exactly if the first events do not fail and the
  selector of the next one cannot be read.
-/

namespace PageTape.Replay

open Scene (Act Reports)

variable {s : Scene} {e : Event} {fault : Fault}

/-- The selector of the element that an event is for, if it is for one. -/
def Event.target? : Event → Option String
  | type selector _ _ | fill selector _ | select selector _ | click selector | press selector _ | submit selector
  | append selector _ | remove selector => some selector
  | _ => none

/-- The selector cannot be read. -/
def Unreadable (selector : String) : Prop := (readSelectors selector).isOk = false

/-- The fault has a message, or the selector of the event's element cannot be read. -/
def Event.Excuses (e : Event) (fault : Fault) : Prop :=
  fault.message?.isSome = true ∨ ∃ selector, e.target? = some selector ∧ Unreadable selector

/-- An element is not found with a message, unless its selector cannot be read. -/
lemma find_error {selector : String} (h : s.find selector = .error fault) :
    fault.message?.isSome = true ∨ Unreadable selector := by
  unfold Scene.find Dom.Location.require Dom.Location.query? at h
  cases hread : readSelectors selector with
  | error f => exact .inr (by unfold Unreadable; rw [hread]; rfl)
  | ok ss =>
    rw [hread] at h
    dsimp only [Except.map, bind, Except.bind] at h
    cases hfirst : Css.selectFirst? ss s.page.document <;> rw [hfirst] at h <;> cases h
    exact .inl rfl

lemma find_unreadable {selector : String} (h : Unreadable selector) (s : Scene) :
    ∃ fault, s.find selector = .error fault ∧ fault.message? = none := by
  unfold Unreadable at h
  cases hread : Css.read selector with
  | ok ss => simp [readSelectors, hread, Except.mapError, Except.isOk, Except.toBool] at h
  | error f =>
    refine ⟨.selector f, ?_, rfl⟩
    simp only [Scene.find, Dom.Location.require, Dom.Location.query?, readSelectors, hread, Except.mapError, Except.map,
      bind, Except.bind]

/-! ### Events -/

/-- A reliable recorder stays so, and a fault is excused by the event. -/
abbrev Event.Plays (e : Event) (act : Act Unit) : Prop :=
  FailsOnly (fun s : Scene => s.recorder.Reliable) e.Excuses act

lemma Event.Plays.of_reports {act : Act Unit} (h : Reports act) : e.Plays act := h.mono fun _ => .inl

lemma Event.plays_targeted {selector : String} (ht : e.target? = some selector) {f : Dom.Id → Act Unit}
    (h : ∀ element, Reports (f element)) : e.Plays (target selector >>= f) := by
  refine .bind (fun s hs => ?_) fun element => Event.Plays.of_reports (h element)
  rw [run_target]
  exact ⟨hs, fun fault hf => (find_error hf).imp_right fun hread => ⟨selector, ht, hread⟩⟩

lemma reports_pass (ms : Int) : Reports (pass ms) := Scene.reports_byRecorder fun p => Recorder.advance_faultless p _

lemma reports_typeSlowly (element : Dom.Id) (interval : Int) (text : List Char) :
    Reports (typeSlowly element interval text) := by
  induction text with
  | nil => exact .pure _
  | cons c rest ih => exact .bind (Scene.reports_type _ _) fun _ => .bind (reports_pass _) fun _ => ih

lemma reports_fetch (url method : String) (status : Int) : Reports (fetch url method status) := by
  unfold fetch
  refine .bind (FailsOnly.tryCatch (F := fun fault => fault.message?.isSome = true) ?_ fun fault hf => ?_) fun done => ?_
  · exact .bind (.discard (Scene.reports_fetch _ _ _ _)) fun _ => .pure _
  · split
    · exact .pure _
    · exact .bind (.throw hf) fun _ => .pure _
  · cases done <;> exact .pure _

lemma reports_exchange (url method : String) (status duration : Int) : Reports (exchange url method status duration) := by
  have hend : Reports (if status == 0 then Scene.fail "" else Scene.respond "" status "") :=
    .ite (Scene.reports_endExchange _ _ _) (Scene.reports_endExchange _ _ _)
  refine .bind (Scene.reports_changePage _) fun _ => .bind (Scene.reports_openExchange _ _ _) fun _ =>
    .bind (Scene.reports_sendExchange _ (Nat.zero_le _)) fun _ => .ite ?_ hend
  exact .bind (reports_pass _) fun _ => hend

/-- **An event fails with a message, or because the selector of its element cannot be read.** -/
theorem Event.reports_play (e : Event) : e.Plays e.play := by
  cases e with
  | type selector text interval => exact plays_targeted rfl fun _ => reports_typeSlowly _ _ _
  | fill selector value => exact plays_targeted rfl fun _ => Scene.reports_fill _ _
  | select selector value => exact plays_targeted rfl fun _ => Scene.reports_fill _ _
  | click selector => exact plays_targeted rfl fun _ => Scene.reports_click _
  | press selector key => exact plays_targeted rfl fun _ => Scene.reports_press _ _
  | submit selector => exact plays_targeted rfl fun _ => Scene.reports_submit _
  | append selector html => exact plays_targeted rfl fun _ => .discard (Scene.reports_appendHtml _ _)
  | remove selector => exact plays_targeted rfl fun _ => Scene.reports_remove _
  | wait ms => exact .of_reports (reports_pass ms)
  | fetch url method status => exact .of_reports (reports_fetch _ _ _)
  | xhr url method status duration => exact .of_reports (reports_exchange _ _ _ _)
  | navigate url => exact .of_reports (Scene.reports_navigate _)
  | hash fragment => exact .of_reports (Scene.reports_setHash _)
  | popState url => exact .of_reports (Scene.reports_popState _)
  | pause marker => exact .of_reports (.discard (Scene.reports_byRecorder Recorder.pause_faultless))
  | resume marker => exact .of_reports (.discard (Scene.reports_byRecorder fun _ => Recorder.resume_faultless))

/-- An event whose selector cannot be read fails without a message. -/
lemma Event.play_unreadable {selector : String} (ht : e.target? = some selector) (h : Unreadable selector) (s : Scene) :
    ∃ fault, e.play.run s = (.error fault, s) ∧ fault.message? = none := by
  obtain ⟨fault, hfind, hmessage⟩ := find_unreadable h s
  refine ⟨fault, ?_, hmessage⟩
  cases e <;> cases ht <;> (unfold Event.play; rw [Course.run_bind, run_target, hfind])

/-! ### Replays -/

/-- Of these events the first ones do not fail, and the selector of the next one cannot be read. -/
def Stumbles (es : List Event) (s : Scene) : Prop :=
  ∃ before e rest t selector, es = before ++ e :: rest ∧ (playAll before).run s = (.ok ⟨⟩, t) ∧
    e.target? = some selector ∧ Unreadable selector

/-- **Events fail without a message exactly if one of them stumbles.** -/
theorem playAll_unreported_iff (es : List Event) (hs : s.recorder.Reliable) :
    (∃ fault t, (playAll es).run s = (.error fault, t) ∧ fault.message? = none) ↔ Stumbles es s := by
  constructor
  · rintro ⟨fault, t, hrun, hmessage⟩
    induction es generalizing s with
    | nil => cases hrun
    | cons e rest ih =>
      obtain ⟨hkeeps, hexcuse⟩ := e.reports_play s hs
      unfold playAll at hrun
      rw [Course.run_bind] at hrun
      rcases hplay : e.play.run s with ⟨fault' | u, t'⟩ <;> rw [hplay] at hrun hkeeps hexcuse
      · cases hrun
        rcases hexcuse fault rfl with hreported | ⟨selector, ht, hread⟩
        · rw [hmessage] at hreported
          cases hreported
        · exact ⟨[], e, rest, s, selector, rfl, rfl, ht, hread⟩
      · obtain ⟨before, f, rest', t'', selector, rfl, hbefore, ht, hread⟩ := ih hkeeps hrun
        refine ⟨e :: before, f, rest', t'', selector, rfl, ?_, ht, hread⟩
        unfold playAll
        rw [Course.run_bind, hplay]
        exact hbefore
  · rintro ⟨before, e, rest, t, selector, rfl, hbefore, ht, hread⟩
    obtain ⟨fault, hplay, hmessage⟩ := e.play_unreadable ht hread t
    refine ⟨fault, t, ?_, hmessage⟩
    rw [playAll_append, Course.run_bind, hbefore]
    dsimp only
    unfold playAll
    rw [Course.run_bind, hplay]

/-- After its events a replay fails with a message only. -/
lemma reports_ending : Reports (Scene.byRecorder Recorder.runAll >>= fun _ => discard Scene.stop) :=
  .bind (Scene.reports_byRecorder Recorder.runAll_faultless) fun _ => .discard Scene.reports_stop

/-- **A replay fails without a message exactly if one of its events stumbles.** -/
theorem Scenario.play_unreported_iff (scenario : Scenario) (html : String) {config : Recorder.Config}
    (hc : ∀ selector ∈ config.ownSelectors, (readSelectors selector).isOk = true) :
    (∃ fault, scenario.play html config = .error fault ∧ fault.message? = none) ↔
      Stumbles scenario.events (scenario.started html config) := by
  have hreliable : (scenario.started html config).recorder.Reliable := ⟨rfl, nofun, nofun, hc⟩
  have hkeeps : ((playAll scenario.events).run (scenario.started html config)).2.recorder.Reliable := by
    have hplays : ∀ es, FailsOnly (fun s : Scene => s.recorder.Reliable) (fun _ => True) (playAll es) := fun es => by
      induction es with
      | nil => exact .pure _
      | cons e rest ih => exact .bind (e.reports_play.mono fun _ _ => trivial) fun _ => ih
    exact (hplays _ _ hreliable).1
  have hperform : scenario.perform.run (scenario.scene html config) =
      (playAll scenario.events >>= fun _ => Scene.byRecorder Recorder.runAll >>= fun _ => discard Scene.stop).run
        (scenario.started html config) := by
    unfold Scenario.perform
    rw [Course.run_bind, scenario.start_run]
  have hplay : ∀ fault, scenario.play html config = .error fault ↔
      (scenario.perform.run (scenario.scene html config)).1 = .error fault := fun fault => by
    unfold Scenario.play
    rcases scenario.perform.run (scenario.scene html config) with ⟨f | u, t⟩ <;> simp [Except.map]
  simp only [hplay, hperform]
  rw [← playAll_unreported_iff _ hreliable, Course.run_bind]
  rcases hrun : (playAll scenario.events).run (scenario.started html config) with ⟨fault | u, t⟩ <;>
    rw [hrun] at hkeeps <;> dsimp only
  · exact ⟨fun ⟨f, hf, hmessage⟩ => ⟨f, t, by rw [Except.error.inj hf], hmessage⟩,
      fun ⟨f, t', hf, hmessage⟩ => ⟨f, congrArg Prod.fst hf, hmessage⟩⟩
  · refine ⟨fun ⟨f, hf, hmessage⟩ => ?_, fun ⟨f, t', hf, _⟩ => by cases hf⟩
    have hreported : f.message?.isSome = true := (reports_ending t hkeeps).2 f hf
    rw [hmessage] at hreported
    cases hreported

end PageTape.Replay
