import PageTape.Proofs.Recorder.Signal

/-!
# The calls that a program of the recorder makes

`Makes act r calls result s` says how a program gets on where no callback fails: which calls it makes on the way, each
with the recorder as it is at that moment, and what comes of it.  The rules take a program apart along its text, and
only where it tells of a step is there a call.  How callbacks react is of no concern to it, but from it follows what the
program does whichever way they react (`Makes.run`): it gets as far as the first call that fails.

`Recounts x calls y` says of calls that they tell at once of all that becomes of the steps of a session.
-/

namespace PageTape.Recorder

variable {α β : Type} {r s t : Recorder} {calls calls' : List Call} {x y z : Option Session}

/-! ### Callbacks -/

/-- The recorder with callbacks that react like this, and with these notices given. -/
def attended (r : Recorder) (ears : Callback → Reaction) (notices : List Notice) : Recorder :=
  { r with onAdded := ears .added, onUpdated := ears .updated, notices }

/-- How the callbacks of a recorder react. -/
def ears (r : Recorder) : Callback → Reaction
  | .added => r.onAdded
  | .updated => r.onUpdated

lemma attended_ears (r : Recorder) : r.attended r.ears r.notices = r := rfl

/-- A call of a callback: the recorder at that moment, and what the callback is told. -/
structure Call where
  recorder : Recorder
  notice : Notice

namespace Call

/-- The callback fails. -/
def fails (ears : Callback → Reaction) (c : Call) : Bool := ears c.notice.callback == .fail

/-- The notices that are taken of calls. -/
def noticed (ears : Callback → Reaction) (calls : List Call) : List Notice :=
  (calls.map (·.notice)).filter fun n => ears n.callback != .off

/-- The calls up to the first that fails. -/
def made (ears : Callback → Reaction) : List Call → List Call
  | [] => []
  | c :: rest => c :: if c.fails ears then [] else made ears rest

/-- The recorder at the last of some calls, or the one before them if there are none. -/
def last (r : Recorder) (calls : List Call) : Recorder := (calls.getLast?.map (·.recorder)).getD r

variable {ears : Callback → Reaction}

lemma noticed_append (calls calls' : List Call) :
    noticed ears (calls ++ calls') = noticed ears calls ++ noticed ears calls' := by
  simp [noticed]

/-- Of all calls notice is taken. -/
lemma noticed_of_note (calls : List Call) : noticed (fun _ => .note) calls = calls.map (·.notice) :=
  List.filter_eq_self.2 fun _ _ => rfl

lemma made_append (calls calls' : List Call) : made ears (calls ++ calls') =
    if (calls.find? (fails ears)).isSome then made ears calls else calls ++ made ears calls' := by
  induction calls with
  | nil => rfl
  | cons c rest ih =>
    rw [List.cons_append, made, ih, made, List.find?_cons]
    cases c.fails ears with
    | true => rfl
    | false =>
      simp only [Bool.false_eq_true, if_false]
      split <;> rfl

lemma last_append (r : Recorder) (calls calls' : List Call) :
    last r (calls ++ calls') = last (last r calls) calls' := by
  unfold last
  rw [List.getLast?_append]
  cases calls'.getLast? <;> rfl

end Call

/-! ### How a program gets on -/

/-- **How a program gets on where no callback fails**: from the recorder `r` on it makes the calls, and it ends with a
result and the recorder `s`.  The callbacks of `r` and `s` and the notices there are of no concern. -/
inductive Makes : {α : Type} → Act α → Recorder → List Call → Except Fault α → Recorder → Prop
  /-- the callbacks have no part in what is done -/
  | aside {α : Type} {act : Act α} {r s : Recorder} {result : Except Fault α}
      (h : ∀ ears notices, act.run (r.attended ears notices) = (result, s.attended ears notices)) :
      Makes act r [] result s
  /-- the callbacks are told of a step -/
  | tell (r : Recorder) (callback : Callback) (position : Nat) (step : Step) :
      Makes (tell callback position step) r [⟨r, callback, position, step⟩] (.ok ⟨⟩) r
  /-- the recorder is looked at, but not its callbacks -/
  | get {α : Type} {f : Recorder → Act α} {r s : Recorder} {calls : List Call} {result : Except Fault α}
      (hf : ∀ ears notices, f (r.attended ears notices) = f r) (h : Makes (f r) r calls result s) :
      Makes (get >>= f) r calls result s
  /-- one program is followed by another -/
  | bind {α β : Type} {act : Act α} {f : α → Act β} {r s t : Recorder} {calls calls' : List Call} {a : α}
      {result : Except Fault β} (h : Makes act r calls (.ok a) s) (hf : Makes (f a) s calls' result t) :
      Makes (act >>= f) r (calls ++ calls') result t
  /-- a program fails by itself, and is followed by none -/
  | failed {α β : Type} {act : Act α} {f : α → Act β} {r s : Recorder} {calls : List Call} {fault : Fault}
      (h : Makes act r calls (.error fault) s) : Makes (act >>= f) r calls (.error fault) s

lemma tell_attended (callback : Callback) (position : Nat) (step : Step) (ears : Callback → Reaction)
    (notices : List Notice) : (tell callback position step).run (r.attended ears notices) =
      (if ears callback = .fail then .error (.callbackFailed callback) else .ok ⟨⟩, r.attended ears
        (notices ++ Call.noticed ears [⟨r, callback, position, step⟩])) := by
  unfold tell
  rw [Course.run_bind, Course.run_get]
  cases callback with
  | added => cases h : ears .added <;> simp [Call.noticed, h, Course.run_bind, attended]
  | updated => cases h : ears .updated <;> simp [Call.noticed, h, Course.run_bind, attended]

/-- **A program gets as far as the first call that fails**, and all of its way if none does.  What is given of notices
does not depend on more than the calls that it has made by then. -/
theorem Makes.run {act : Act α} {result : Except Fault α} (h : Makes act r calls result s) (ears : Callback → Reaction)
    (notices : List Notice) : act.run (r.attended ears notices) = match calls.find? (Call.fails ears) with
      | none => (result, s.attended ears (notices ++ Call.noticed ears calls))
      | some c => (.error (.callbackFailed c.notice.callback),
          c.recorder.attended ears (notices ++ Call.noticed ears (Call.made ears calls))) := by
  induction h generalizing notices with
  | aside h => simpa [Call.noticed] using h ears notices
  | tell r callback position step =>
    rw [tell_attended]
    by_cases hfail : ears callback = .fail
    · simp [Call.fails, Call.made, hfail]
    · simp [Call.fails, hfail]
  | get hf _ ih =>
    rw [Course.run_bind, Course.run_get]
    dsimp only
    rw [hf]
    exact ih notices
  | @bind _ _ _ _ _ _ _ calls calls' _ _ _ _ ih ih' =>
    rw [Course.run_bind, ih notices, List.find?_append, Call.made_append]
    cases calls.find? (Call.fails ears) with
    | some c => rfl
    | none =>
      rw [Option.none_or, if_neg (by simp)]
      dsimp only
      rw [ih', List.append_assoc, ← Call.noticed_append, List.append_assoc, ← Call.noticed_append]
  | @failed _ _ _ _ _ _ calls _ _ ih =>
    rw [Course.run_bind, ih notices]
    cases calls.find? (Call.fails ears) <;> rfl

namespace Makes

protected lemma pure (a : α) (r : Recorder) : Makes (pure a) r [] (.ok a) r := .aside fun _ _ => rfl

protected lemma modify {f : Recorder → Recorder}
    (hf : ∀ ears notices, f (r.attended ears notices) = (f r).attended ears notices) :
    Makes (modify f) r [] (.ok ⟨⟩) (f r) := .aside fun ears notices => by rw [Course.run_modify, hf]

/-- What comes first makes no calls. -/
lemma bind_aside {act : Act α} {f : α → Act β} {a : α} {result : Except Fault β} (h : Makes act r [] (.ok a) s)
    (hf : Makes (f a) s calls result t) : Makes (act >>= f) r calls result t := h.bind hf

/-- An answer that is not needed. -/
protected lemma discard {act : Act α} {result : Except Fault α} (h : Makes act r calls result s) :
    Makes (discard act) r calls (result.map fun _ => ⟨⟩) s := by
  have hrun : ∀ u, ExceptT.run (discard act : Act PUnit) u = ExceptT.run (act >>= fun _ => pure ⟨⟩) u := fun u => by
    rw [Course.run_discard, Course.run_bind]
    rcases act.run u with ⟨_ | _, _⟩ <;> rfl
  rw [show (discard act : Act PUnit) = act >>= fun _ => pure ⟨⟩ from funext hrun]
  cases result with
  | error fault => exact h.failed
  | ok a =>
    have hbind := h.bind (f := fun _ => pure PUnit.unit) (.pure PUnit.unit s)
    rwa [List.append_nil] at hbind

end Makes

/-! ### Calls that tell of everything -/

/-- The session that is active. -/
def current (r : Recorder) : Option Session := r.active.map (·.session)

/-- Steps after what a notice tells: a step is added at the end, or one takes the place of another. -/
def reflect (steps : List Step) (n : Notice) : List Step :=
  match n.callback with
  | .added => steps ++ [n.step]
  | .updated => steps.set n.position n.step

/-- A notice that may be given of steps: one that is added gets the next position, one that changes has its own. -/
def Fits (steps : List Step) (n : Notice) : Prop :=
  match n.callback with
  | .added => n.position = steps.length
  | .updated => n.position < steps.length

/-- **The callbacks are told at once of all that becomes of the steps of a session**, from `x` to `y`.  Nothing else
changes of the session. -/
inductive Recounts : Option Session → List Call → Option Session → Prop
  | nil (x : Option Session) : Recounts x [] x
  | cons {session : Session} {c : Call} {calls : List Call} {y : Option Session} (hfits : Fits session.steps c.notice)
      (hc : c.recorder.current = some { session with steps := reflect session.steps c.notice })
      (h : Recounts c.recorder.current calls y) : Recounts (some session) (c :: calls) y

lemma Recounts.append (h : Recounts x calls y) (h' : Recounts y calls' z) : Recounts x (calls ++ calls') z := by
  induction h with
  | nil => exact h'
  | cons hfits hc _ ih => exact .cons hfits hc (ih h')

/-- A part of the session that is no step stays as it is, at each call and after all of them. -/
lemma Recounts.still {γ : Type} {f : Session → γ} (hf : ∀ session steps, f { session with steps } = f session)
    (h : Recounts x calls y) : y.map f = x.map f ∧ ∀ c ∈ calls, c.recorder.current.map f = x.map f := by
  induction h with
  | nil => exact ⟨rfl, fun _ hmem => absurd hmem List.not_mem_nil⟩
  | @cons session c _ _ _ hc _ ih =>
    have hsame : c.recorder.current.map f = (some session).map f := by rw [hc, Option.map_some, hf, Option.map_some]
    exact ⟨ih.1.trans hsame, List.forall_mem_cons.2 ⟨hsame, fun c hmem => (ih.2 c hmem).trans hsame⟩⟩

end PageTape.Recorder
