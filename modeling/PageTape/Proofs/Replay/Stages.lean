import PageTape.Proofs.Replay.Wait

/-!
# A replay, action by action

* `Event.actions` — what happens in a scene when an event is played there;
* `Stage` — a scene in the middle of a replay, and what is still to be done there; `Stage.next?` does one thing of it;
* `Stage.after_rests` — after finitely many steps nothing is to be done any more, and what has come of it is what comes
  of the replay (`Scenario.result_stage`);
* `Scenario.stage_attached` — all scenes on the way are in order.
-/

namespace PageTape.Replay

open Scene (Act)

/-! ### Events as actions -/

/-- A text is typed into an element, with a pause after each character. -/
def typing (element : Dom.Id) (interval : Int) (text : List Char) : List Scene.Action :=
  text.flatMap fun c => [.type element c.toString, .advance interval]

/-- A request object is sent, and ends after a while. -/
def exchanging (url method : String) (status duration : Int) : List Scene.Action :=
  .makeExchange "" :: .openExchange "" method (.text url) :: .sendExchange "" [] ::
    ((if duration != 0 then [.advance duration] else []) ++ [if status == 0 then .fail "" else .respond "" status ""])

/-- What happens in a scene when an event is played there. -/
def Event.actions (s : Scene) : Event → Except Fault (List Scene.Action)
  | type selector text interval => return typing (← s.find selector) interval text.toList
  | fill selector value | select selector value => return [.fill (← s.find selector) value]
  | click selector => return [.click (← s.find selector)]
  | press selector key => return [.press (← s.find selector) key]
  | submit selector => return [.submit (← s.find selector)]
  | wait ms => return [.advance ms]
  | fetch url method status => return [.fetch (.address url) (.map [("method", .text method)]) status false]
  | xhr url method status duration => return exchanging url method status duration
  | append selector html => return [.appendHtml (← s.find selector) html]
  | remove selector => return [.remove (← s.find selector)]
  | navigate url => return [.navigate url]
  | hash fragment => return [.setHash fragment]
  | popState url => return [.popState url]
  | pause _ => return [.pause]
  | resume _ => return [.resume]

/-- Does what happens.  That a call fails is the page's own concern. -/
def enact : Scene.Action → Act Unit
  | .fetch resource init status offline => do
    try discard <| Scene.fetch resource init status offline
    catch
      | .networkFailed _ => return
      | fault => throw fault
  | action => discard <| Scene.perform action

/-- What is to be done in a replay. -/
inductive Task where
  | act (action : Scene.Action)
  | play (event : Event)

/-- Does it. -/
def Task.run : Task → Act Unit
  | act action => enact action
  | play event => event.play

/-- Does all of it in order. -/
def doAll : List Task → Act Unit
  | [] => return
  | task :: rest => do
    task.run
    doAll rest

/-- All that is to be done in the replay of a scenario. -/
def Scenario.tasks (s : Scenario) : List Task :=
  .act .start :: s.events.map .play ++ [.act .runAll, .act .stop]

variable {s : Scene}

lemma discard_unanswered (act : Act Unit) : (discard (Scene.unanswered act) : Act Unit) = act := by
  have hrun : ∀ s, ExceptT.run (discard (Scene.unanswered act) : Act Unit) s = act.run s := fun s => by
    rw [Course.run_discard]
    unfold Scene.unanswered
    rw [Course.run_bind]
    rcases act.run s with ⟨_ | _, _⟩ <;> rfl
  exact funext hrun

lemma discard_map {α β : Type} (f : α → β) (act : Act α) : (discard (f <$> act) : Act Unit) = discard act := by
  have hrun : ∀ s, ExceptT.run (discard (f <$> act) : Act Unit) s = ExceptT.run (discard act : Act Unit) s := fun s => by
    rw [Course.run_discard, Course.run_discard, Course.run_map]
    rcases act.run s with ⟨_ | _, _⟩ <;> rfl
  exact funext hrun

lemma doAll_append (ts us : List Task) : doAll (ts ++ us) = doAll ts >>= fun _ => doAll us := by
  induction ts with
  | nil => rfl
  | cons t rest ih =>
    show (t.run >>= fun _ => doAll (rest ++ us)) = (t.run >>= fun _ => doAll rest) >>= _
    rw [ih, bind_assoc]

@[simp] lemma doAll_single (t : Task) : doAll [t] = t.run := bind_pure t.run

lemma doAll_play (es : List Event) : doAll (es.map .play) = playAll es := by
  induction es with
  | nil => rfl
  | cons e rest ih =>
    show (e.play >>= fun _ => doAll (rest.map .play)) = _
    rw [ih]
    rfl

/-- Text that is typed slowly is typed character by character. -/
lemma doAll_typing (element : Dom.Id) (interval : Int) (text : List Char) :
    doAll ((typing element interval text).map .act) = typeSlowly element interval text := by
  induction text with
  | nil => rfl
  | cons c rest ih =>
    show (discard (Scene.unanswered (Scene.typeText element c.toString)) >>= fun _ =>
      discard (Scene.unanswered (pass interval)) >>= fun _ => doAll ((typing element interval rest).map .act)) = _
    rw [discard_unanswered, discard_unanswered, ih]
    rfl

/-- A request object that is sent ends at once or after a while. -/
lemma doAll_exchanging (url method : String) (status duration : Int) :
    doAll ((exchanging url method status duration).map .act) = exchange url method status duration := by
  have hend : doAll [.act (if status == 0 then .fail "" else .respond "" status "")] =
      if status == 0 then Scene.fail "" else Scene.respond "" status "" := by
    rw [doAll_single]
    split <;> exact discard_unanswered _
  have hrest : doAll (((if duration != 0 then [.advance duration] else []) ++
      [if status == 0 then .fail "" else .respond "" status ""] : List Scene.Action).map .act) =
      (do
        if duration != 0 then pass duration
        if status == 0 then Scene.fail "" else Scene.respond "" status "") := by
    rw [List.map_append, doAll_append]
    show _ >>= (fun _ => doAll [.act _]) = _
    rw [hend]
    split
    · show doAll [.act (.advance (duration : Rat))] >>= _ = _
      rw [doAll_single]
      show discard (Scene.unanswered (pass duration)) >>= _ = _
      rw [discard_unanswered]
    · rfl
  show (discard (Scene.unanswered _) >>= fun _ => discard (Scene.unanswered _) >>= fun _ =>
    discard (Scene.unanswered _) >>= fun _ => doAll (_ : List Task)) = _
  rw [discard_unanswered, discard_unanswered, discard_unanswered, hrest]
  rfl

lemma run_target (selector : String) (s : Scene) : (target selector).run s = (s.find selector, s) := by
  unfold target
  rw [Course.run_bind, Course.run_get]
  dsimp only
  cases s.find selector <;> rfl

/-- An event of an element that must be there. -/
lemma targeted_run {selector : String} {f : Dom.Id → Act Unit} {actions : Dom.Id → List Scene.Action}
    (h : ∀ element, doAll ((actions element).map .act) = f element) :
    (target selector >>= f).run s = match (return actions (← s.find selector) : Except Fault (List Scene.Action)) with
      | .ok actions => (doAll (actions.map .act)).run s
      | .error fault => (.error fault, s) := by
  rw [Course.run_bind, run_target]
  cases s.find selector with
  | error fault => rfl
  | ok element => exact congrArg (fun act : Act Unit => act.run s) (h element).symm

/-- **An event is played by its actions**, unless the element that it is for is not there. -/
theorem play_run (e : Event) (s : Scene) : e.play.run s = match e.actions s with
    | .ok actions => (doAll (actions.map .act)).run s
    | .error fault => (.error fault, s) := by
  have single : ∀ {action : Scene.Action} {act : Act Unit}, enact action = act →
      doAll ([action].map .act) = act := fun h => (doAll_single _).trans h
  have alone : ∀ {action : Scene.Action} {act : Act Unit}, enact action = act →
      act.run s = (doAll ([action].map .act)).run s := fun h => congrArg (fun act : Act Unit => act.run s) (single h).symm
  cases e with
  | type selector text interval => exact targeted_run fun element => doAll_typing element interval _
  | fill selector value => exact targeted_run fun element => single (discard_unanswered _)
  | select selector value => exact targeted_run fun element => single (discard_unanswered _)
  | click selector => exact targeted_run fun element => single (discard_unanswered _)
  | press selector key => exact targeted_run fun element => single (discard_unanswered _)
  | submit selector => exact targeted_run fun element => single (discard_unanswered _)
  | wait ms => exact alone (discard_unanswered _)
  | fetch url method status => exact alone rfl
  | xhr url method status duration => exact congrArg (fun act : Act Unit => act.run s) (doAll_exchanging url method status duration).symm
  | append selector html => exact targeted_run fun element => single (discard_map _ _)
  | remove selector => exact targeted_run fun element => single (discard_unanswered _)
  | navigate url => exact alone (discard_unanswered _)
  | hash fragment => exact alone (discard_unanswered _)
  | popState url => exact alone (discard_unanswered _)
  | pause marker => exact alone (discard_map _ _)
  | resume marker => exact alone (discard_map _ _)

/-! ### Stages -/

/-- A scene in the middle of a replay, what is still to be done there, and the fault that has ended it. -/
structure Stage where
  scene : Scene
  tasks : List Task
  fault : Option Fault := none

namespace Stage

/-- One thing is done; nothing if nothing is to be done any more. -/
def next? (x : Stage) : Option Stage :=
  match x.fault, x.tasks with
  | none, .act action :: rest => match (enact action).run x.scene with
    | (.ok _, s) => some { scene := s, tasks := rest }
    | (.error fault, s) => some { scene := s, tasks := [], fault }
  | none, .play event :: rest => match event.actions x.scene with
    | .ok actions => some { scene := x.scene, tasks := actions.map .act ++ rest }
    | .error fault => some { scene := x.scene, tasks := [], fault }
  | _, _ => none

/-- The stage after at most a number of steps. -/
def after (x : Stage) : ℕ → Stage
  | 0 => x
  | n + 1 => match x.next? with
    | some y => y.after n
    | none => x

/-- What comes of all that is still to be done. -/
def result (x : Stage) : Except Fault Unit × Scene :=
  match x.fault with
  | some fault => (.error fault, x.scene)
  | none => (doAll x.tasks).run x.scene

variable {x y : Stage}

/-- **No step changes what comes of all.** -/
theorem result_next (h : x.next? = some y) : y.result = x.result := by
  obtain ⟨s, tasks, fault⟩ := x
  cases fault with
  | some fault => cases h
  | none =>
    cases tasks with
    | nil => cases h
    | cons task rest =>
      have hrun : Stage.result ⟨s, task :: rest, none⟩ = (task.run >>= fun _ => doAll rest).run s := rfl
      rw [hrun, Course.run_bind]
      cases task with
      | act action =>
        unfold next? at h
        dsimp only at h
        rw [show Task.run (.act action) = enact action from rfl]
        rcases hs : (enact action).run s with ⟨fault | u, t⟩ <;> rw [hs] at h <;> cases h <;> rfl
      | play event =>
        unfold next? at h
        dsimp only at h
        rw [show Task.run (.play event) = event.play from rfl, play_run]
        cases ha : event.actions s with
        | error fault =>
          rw [ha] at h
          cases h
          rfl
        | ok actions =>
          rw [ha] at h
          cases h
          dsimp only
          rw [← Course.run_bind, ← doAll_append]
          rfl

lemma result_after (n : ℕ) : (x.after n).result = x.result := by
  induction n generalizing x with
  | zero => rfl
  | succ n ih =>
    unfold after
    cases h : x.next? with
    | none => rfl
    | some y => exact ih.trans (result_next h)

/-- What holds at first and is kept by each step holds after all steps. -/
lemma after_induction {P : Stage → Prop} (hnext : ∀ x y, P x → x.next? = some y → P y) (hx : P x) (n : ℕ) :
    P (x.after n) := by
  induction n generalizing x with
  | zero => exact hx
  | succ n ih =>
    unfold after
    cases h : x.next? with
    | none => exact hx
    | some y => exact ih (hnext x y hx h)

lemma after_of_none (h : x.next? = none) (n : ℕ) : x.after n = x := by
  cases n with
  | zero => rfl
  | succ n => simp only [after, h]

lemma after_of_some (h : x.next? = some y) (n : ℕ) : x.after (n + 1) = y.after n := by simp only [after, h]

lemma after_add (m n : ℕ) : x.after (m + n) = (x.after m).after n := by
  induction m generalizing x with
  | zero => rw [Nat.zero_add, after]
  | succ m ih =>
    rw [Nat.add_right_comm]
    cases h : x.next? with
    | none => rw [after_of_none h, after_of_none h, after_of_none h]
    | some y => rw [after_of_some h, after_of_some h, ih]

lemma after_next {z : Stage} {n : ℕ} (h : x.after n = y) (hnext : y.next? = some z) : x.after (n + 1) = z := by
  rw [after_add, h, after_of_some hnext]
  rfl

end Stage

/-! ### An end -/

/-- How many actions an event is at most. -/
def Event.size : Event → ℕ
  | type _ text _ => 2 * text.toList.length
  | xhr _ _ _ _ => 5
  | _ => 1

/-- How many steps it takes at most. -/
def Task.size : Task → ℕ
  | act _ => 1
  | play event => event.size + 1

/-- How many steps all of it takes at most. -/
def sizeAll (ts : List Task) : ℕ := (ts.map Task.size).sum

/-- An event of an element has its actions where that is found. -/
lemma exists_found {selector : String} {f : Dom.Id → List Scene.Action} {actions : List Scene.Action}
    (h : (return f (← s.find selector) : Except Fault (List Scene.Action)) = .ok actions) :
    ∃ element, s.find selector = .ok element ∧ f element = actions := by
  cases hs : s.find selector with
  | error fault =>
    rw [hs] at h
    cases h
  | ok element =>
    rw [hs] at h
    exact ⟨element, rfl, by cases h; rfl⟩

lemma length_actions {e : Event} {actions : List Scene.Action} (h : e.actions s = .ok actions) :
    actions.length ≤ e.size := by
  cases e with
  | type selector text interval =>
    obtain ⟨element, -, rfl⟩ := exists_found h
    simp [typing, Event.size, Nat.mul_comm]
  | xhr url method status duration =>
    cases h
    unfold exchanging Event.size
    split <;> simp
  | fill | select | click | press | submit | append | remove =>
    obtain ⟨element, -, rfl⟩ := exists_found h
    exact le_rfl
  | wait | fetch | navigate | hash | popState | pause | resume =>
    cases h
    exact le_rfl

namespace Stage

variable {x y : Stage}

lemma size_next (h : x.next? = some y) : sizeAll y.tasks < sizeAll x.tasks := by
  obtain ⟨s, tasks, fault⟩ := x
  cases fault with
  | some fault => cases h
  | none =>
    cases tasks with
    | nil => cases h
    | cons task rest =>
      unfold next? at h
      cases task with
      | act action =>
        dsimp only at h
        split at h <;> cases h <;> simp [sizeAll, Task.size]
      | play event =>
        dsimp only at h
        cases ha : event.actions s with
        | error fault =>
          rw [ha] at h
          cases h
          simp [sizeAll, Task.size]
        | ok actions =>
          rw [ha] at h
          cases h
          have := length_actions ha
          have hact : (actions.map (Task.size ∘ Task.act)).sum = actions.length := by
            simp [Function.comp_def, Task.size]
          simp only [sizeAll, List.map_append, List.map_map, List.sum_append, hact, List.map_cons, List.sum_cons,
            Task.size]
          omega

/-- What has come of all, if nothing is to be done any more. -/
def outcome (x : Stage) : Except Fault Unit × Scene :=
  (match x.fault with
    | some fault => .error fault
    | none => .ok ⟨⟩, x.scene)

lemma outcome_of_next (h : x.next? = none) : x.outcome = x.result := by
  obtain ⟨s, tasks, fault⟩ := x
  cases fault with
  | some fault => rfl
  | none =>
    cases tasks with
    | nil => rfl
    | cons task rest =>
      unfold next? at h
      cases task with
      | act action =>
        dsimp only at h
        split at h <;> cases h
      | play event =>
        dsimp only at h
        split at h <;> cases h

/-- **After finitely many steps nothing is to be done any more.** -/
theorem after_rests (x : Stage) {n : ℕ} (hn : sizeAll x.tasks ≤ n) :
    (x.after n).next? = none ∧ (x.after n).outcome = x.result := by
  have hrest : (x.after n).next? = none := by
    induction n generalizing x with
    | zero =>
      cases h : x.next? with
      | none => exact h
      | some y =>
        have := size_next h
        omega
    | succ n ih =>
      unfold after
      cases h : x.next? with
      | none => exact h
      | some y =>
        have := size_next h
        exact ih y (by omega)
  exact ⟨hrest, (outcome_of_next hrest).trans (result_after n)⟩

end Stage

/-- The beginning of a replay. -/
def Scenario.stage (s : Scenario) (html : String) (config : Recorder.Config) : Stage :=
  { scene := s.scene html config, tasks := s.tasks }

/-- **What comes of all that is to be done is what comes of the replay.** -/
theorem Scenario.result_stage (s : Scenario) (html : String) (config : Recorder.Config) :
    (s.stage html config).result = s.perform.run (s.scene html config) := by
  have hperform : doAll s.tasks = s.perform := by
    unfold Scenario.tasks
    rw [List.cons_append, show ∀ t ts, doAll (t :: ts) = t.run >>= fun _ => doAll ts from fun _ _ => rfl, doAll_append,
      doAll_play]
    show (discard (_ <$> Scene.start) >>= fun _ => playAll s.events >>= fun _ =>
      discard (Scene.unanswered _) >>= fun _ => discard (_ <$> Scene.stop) >>= fun _ => pure _) = _
    rw [discard_map, discard_unanswered, discard_map]
    simp only [bind_pure_unit]
    rfl
  unfold Scenario.stage Stage.result
  rw [hperform]

end PageTape.Replay
