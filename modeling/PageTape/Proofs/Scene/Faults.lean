import PageTape.Proofs.Recorder.Faults
import PageTape.Proofs.Scene.Move

/-!
# What fails in a scene with a message

In a scene whose recorder is reliable, nothing that the page or its user does fails but with a fault that has a message
(`reports_type`, `reports_click` and their kin, one for each thing that can be done).
-/

namespace PageTape.Scene

open Dom (Id)
open Recorder (Reliable)

variable {α : Type}

/-- The recorder stays reliable, and what fails has a message. -/
abbrev Reports (act : Act α) : Prop :=
  FailsOnly (fun s : Scene => s.recorder.Reliable) (fun fault : Fault => fault.message?.isSome = true) act

lemma reports_modify {f : Scene → Scene} (h : ∀ s, (f s).recorder = s.recorder) : Reports (modify f) :=
  .modify fun s hs => (h s).symm ▸ hs

lemma reports_changePage (f : Page → Page) : Reports (changePage f) := reports_modify fun _ => rfl

lemma reports_see (entry : Entry) : Reports (see entry) := reports_modify fun _ => rfl

/-- What a recorder does without failing does not fail in its scene. -/
lemma reports_byRecorder {act : Page → Recorder.Act α} (h : ∀ p, Recorder.Faultless (act p)) :
    Reports (byRecorder act) := by
  intro s hs
  obtain ⟨h₁, h₂⟩ := h s.page s.recorder hs
  rw [byRecorder_run]
  exact ⟨h₁.of_setup rfl, fun fault hf => (h₂ fault hf).elim⟩

lemma reports_ofExcept {x : Except Fault α} (h : ∀ fault, x = .error fault → fault.message?.isSome = true) :
    Reports (ofExcept x) := by
  cases x with
  | ok a => exact .pure a
  | error fault => exact .throw (h fault rfl)

lemma reports_quietly {act : Act Unit} (h : Reports act) : Reports (quietly act) := fun s hs => by
  rw [run_quietly]
  exact ⟨(h s hs).1, nofun⟩

/-! ### Events and changes -/

lemma reports_callListeners (event : Page.Event) (listeners : List Page.Listener) :
    Reports (callListeners event listeners) := by
  induction listeners with
  | nil => exact .pure _
  | cons listener rest ih =>
    refine .bind ?_ fun _ => .bind ih fun _ => .pure _
    cases listener with
    | recorder =>
      exact .bind (reports_quietly (reports_byRecorder fun p => Recorder.hear_faultless p event)) fun _ => .pure _
    | page name => exact .bind_get fun _ _ => .bind (reports_see _) fun _ => .pure _

lemma reports_deliver (hall : Hall) (event : Page.Event) : Reports (deliver hall event) :=
  .bind_get fun _ _ => reports_callListeners event _

lemma reports_fire (type : String) (id : Id) (key : Option String) : Reports (fire type id key) := reports_deliver _ _

lemma reports_notify (target : Id) (change : Page.Change) : Reports (notify target change) := by
  unfold notify
  refine .bind_get fun s _ => .forM _ fun w _ => ?_
  unfold callObserver
  split
  · exact reports_quietly (reports_byRecorder fun _ => Recorder.heed_faultless _)
  · refine .bind_get fun _ _ => ?_
    dsimp only
    split <;> exact reports_see _

/-! ### What the page does -/

lemma reports_append (parent child : Id) : Reports (append parent child) := by
  have hrest : Reports (changeForest (·.append parent child) >>= fun _ => notify parent (.children [child] [])) :=
    .bind (reports_changePage _) fun _ => reports_notify _ _
  exact .ite (.bind (.throw rfl) fun _ => hrest) hrest

lemma reports_appendHtml (parent : Id) (html : String) : Reports (appendHtml parent html) := by
  unfold appendHtml
  refine .bind_get fun s _ => .bind (reports_ofExcept fun fault hf => ?_) fun found =>
    .bind (reports_changePage _) fun _ => .bind (reports_append _ _) fun _ => .pure _
  unfold Dom.Forest.addFragment at hf
  dsimp only at hf
  split at hf <;> cases hf
  rfl

lemma reports_remove (id : Id) : Reports (remove id) := by
  unfold remove
  refine .bind_get fun s _ => ?_
  split
  · exact .pure _
  · exact .bind (reports_changePage _) fun _ => reports_notify _ _

/-! ### What its user does -/

lemma reports_submit (form : Id) : Reports (submit form) := .discard (reports_fire _ _ _)

lemma reports_press (id : Id) (key : String) : Reports (press id key) := .discard (reports_fire _ _ _)

lemma reports_enter (id : Id) (value : String) : Reports (enter id value) :=
  .bind (reports_changePage _) fun _ => .discard (reports_fire _ _ _)

lemma reports_fill (id : Id) (value : String) : Reports (fill id value) :=
  .bind (reports_enter id value) fun _ => .discard (reports_fire _ _ _)

lemma reports_type (id : Id) (text : String) : Reports (typeText id text) := by
  have hfrom : ∀ value cs, Reports (typeFrom id value cs) := fun value cs => by
    induction cs generalizing value with
    | nil => exact .pure _
    | cons c rest ih => exact .bind (reports_enter id _) fun _ => ih _
  unfold typeText
  refine .bind (.bind_get fun _ _ => .pure _) fun l => ?_
  split
  · exact .pure _
  · exact hfrom _ _

lemma reports_click (id : Id) : Reports (click id) := by
  have hlocated : Reports (located id) := .bind_get fun _ _ => .pure _
  unfold click
  refine .bind hlocated fun l => ?_
  split
  · exact .pure _
  · refine .bind (reports_changePage _) fun _ => .bind (reports_fire _ _ _) fun allowed => .ite ?_ (.pure _)
    refine .ite (.bind (.discard (reports_fire _ _ _)) fun _ => .discard (reports_fire _ _ _)) (.ite ?_ (.pure _))
    refine .bind hlocated fun l => ?_
    split
    · exact reports_submit _
    · exact .pure _

lemma reports_navigate (url : String) : Reports (navigate url) :=
  .bind (.discard (reports_deliver _ _)) fun _ => reports_changePage _

lemma reports_setHash (fragment : String) : Reports (setHash fragment) :=
  .bind (reports_changePage _) fun _ => .discard (reports_deliver _ _)

lemma reports_popState (url : String) : Reports (popState url) :=
  .bind (reports_changePage _) fun _ => .discard (reports_deliver _ _)

/-! ### Requests -/

lemma reports_fetch (resource : Page.Resource) (init : Datum) (status : Int) (offline : Bool) :
    Reports (fetch resource init status offline) := by
  have hcount : Reports countCall := by
    unfold countCall
    refine .bind_get fun s _ => ?_
    split
    · exact .pure _
    · exact .ite (.bind (reports_byRecorder fun _ => Recorder.requestBegun_faultless) fun _ => .pure _) (.pure _)
  have hend : ∀ request serial status, Reports (endCall request serial status) := fun request serial status => by
    have hrest : Reports (do
        if status == 0 then throw (.networkFailed request.url)
        return ⟨request.url, status⟩ : Act Reply) := .ite (.bind (.throw rfl) fun _ => .pure _) (.pure _)
    cases serial with
    | some serial => exact .bind (reports_byRecorder fun _ => Recorder.requestEndedIn_faultless _ _ _ _) fun _ => hrest
    | none => exact hrest
  exact .bind hcount fun _ => .ite (hend _ _ _) (.bind (reports_see _) fun _ => hend _ _ _)

lemma reports_openExchange (key method : String) (url : Datum) : Reports (openExchange key method url) := by
  unfold openExchange
  refine .bind_get fun s _ => ?_
  split
  · exact .pure _
  · exact .ite (.bind (reports_byRecorder fun _ => Recorder.changeTraffic_faultless _) fun _ =>
      reports_changePage _) (reports_changePage _)

/-- A request object is sent with at most one argument. -/
lemma reports_sendExchange (key : String) {arguments : List Datum} (h : arguments.length ≤ 1) :
    Reports (sendExchange key arguments) := by
  unfold sendExchange
  refine .bind_get fun s _ => ?_
  split
  · exact .pure _
  · rename_i e he
    have hrest : Reports (do
        if 1 < arguments.length then throw .tooManyArguments
        if e.phase != .opened then throw .sendBeforeOpen
        changePage (·.changeExchange key fun e => { e with body := arguments.headD .null, phase := .sent }) :
          Act Unit) := by
      rw [if_neg (not_lt.2 h)]
      exact .ite (.bind (.throw rfl) fun _ => reports_changePage _) (reports_changePage _)
    refine .ite (.bind (reports_byRecorder fun _ => Recorder.requestSent?_faultless _) fun sent => ?_) hrest
    split
    · exact .bind (reports_changePage _) fun _ => hrest
    · exact hrest

lemma reports_endExchange (key type : String) (f : Page.Exchange → Page.Exchange) :
    Reports (endExchange key type f) := by
  have hhearers : ∀ type, Reports (callHearers key type) := fun type => by
    unfold callHearers
    refine .bind_get fun s _ => ?_
    split
    · exact .pure _
    · refine .forM _ fun h _ => ?_
      unfold callHearer
      split
      · exact reports_see _
      · exact reports_quietly (reports_byRecorder fun _ => Recorder.requestDone_faultless _ _ _ _ _)
  exact .bind (reports_changePage _) fun _ => .bind (hhearers _) fun _ => hhearers _

/-! ### Sessions -/

lemma reports_stop : Reports stop := by
  unfold stop
  refine .bind_get fun s _ => .bind (reports_byRecorder Recorder.stop_faultless) fun _ => .bind ?_ fun _ => .pure _
  exact .ite (reports_changePage _) (.pure _)

lemma reports_start : Reports start := by
  unfold start
  refine .bind_get fun s hs => ?_
  rw [hs.bound]
  exact .bind (.discard reports_stop) fun _ => .bind_get fun _ _ =>
    .bind (reports_byRecorder Recorder.begin_faultless) fun _ => .bind (reports_changePage _) fun _ =>
      .bind_get fun _ _ => .pure _

end PageTape.Scene
