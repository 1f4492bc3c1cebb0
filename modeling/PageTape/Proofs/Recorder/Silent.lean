import PageTape.Proofs.Recorder.Signal

/-!
# What a recorder does by itself

What a recorder is told of the page and of the network it notes in steps of its own.  The steps of the user, the texts
that wait and the time of the last action of the user it leaves as they are.  So a course that allows such notes and any
other change (`AllowsNotes`) is kept to on every signal that no user and no passing of time has a part in
(`Signal.stays_silent`), and when a timer goes off that is not for a text (`wakeMutations_stays`, `wakeIdle_stays`).
-/

namespace PageTape.Recorder

variable {C : Course Recorder} {r r' : Recorder} {α β : Type}

/-- The texts that wait, by the selectors of their fields. -/
def held (r : Recorder) : List (String × Typed) := r.texts.map fun w => (w.key, w.payload)

lemma held_eq {a : Active} (h : r.active = some a) : r.held = a.inputs.waiting.map fun w => (w.key, w.payload) := by
  rw [held, texts_eq h]

/-- **Nothing changes of what is recorded and of what waits to be**: the steps, the texts that wait, and the time of the
last action of the user. -/
structure SameRecord (r r' : Recorder) : Prop where
  steps : r'.steps = r.steps
  held : r'.held = r.held
  lastUserActionAt : r'.lastUserActionAt = r.lastUserActionAt

namespace SameRecord

lemma refl (r : Recorder) : SameRecord r r := ⟨rfl, rfl, rfl⟩

/-- Something else of the active session changes. -/
lemma changeActive (r : Recorder) {f : Active → Active} (hsteps : ∀ a, (f a).session.steps = a.session.steps)
    (hinputs : ∀ a, (f a).inputs = a.inputs) : SameRecord r (r.changeActive f) := by
  cases h : r.active with
  | none => constructor <;> simp [Recorder.changeActive, Recorder.steps, Recorder.held, texts, h]
  | some a => constructor <;> simp [Recorder.changeActive, Recorder.steps, Recorder.held, texts, h, hsteps, hinputs]

lemma changeTraffic (r : Recorder) (f : Traffic → Traffic) : SameRecord r (r.changeTraffic f) :=
  changeActive r (fun _ => rfl) fun _ => rfl

/-- The clock is another one. -/
lemma clock (h : SameRecord r r') (clock : Clock Alarm) : SameRecord r { r' with clock } :=
  ⟨h.steps, h.held, h.lastUserActionAt⟩

end SameRecord

/-- **A course that allows what a recorder does by itself.** -/
class AllowsNotes (C : Course Recorder) : Prop where
  add (r : Recorder) (step : Step) : step.kind.isSynthetic = true → C.leads r ((add step).run r).2
  same {r r' : Recorder} : SameRecord r r' → C.leads r r'

/-- The course of a recorder that only adds steps of its own. -/
def noting : Course Recorder where
  holds _ := True
  leads r r' := ∃ added, r'.steps = r.steps ++ added ∧ ∀ step ∈ added, step.kind.isSynthetic = true
  refl r := ⟨[], by simp⟩
  trans := by
    rintro r s t ⟨added, hs, hadded⟩ ⟨added', ht, hadded'⟩
    exact ⟨added ++ added', by rw [ht, hs, List.append_assoc], List.forall_mem_append.2 ⟨hadded, hadded'⟩⟩
  keeps _ h := h

instance : AllowsNotes noting where
  same h := ⟨[], by simp [h.steps]⟩
  add r step hk := by
    obtain ⟨-, hrun⟩ | ⟨a, notices, ha, -, hrun⟩ := add_cases step r <;> rw [hrun]
    · exact noting.refl r
    · refine ⟨[step], ?_, List.forall_mem_singleton.2 hk⟩
      rw [steps_of_active ha, steps_of_active rfl]
      rfl

/-! ### Programs that stay on a course -/

namespace Stays

lemma of_leads {act : Act α} (h : ∀ r, C.leads r (act.run r).2) : Stays C act := fun r _ _ => ⟨h r, fun _ _ => trivial⟩

protected lemma pure (a : α) : Stays C (pure a) := Course.Runs.pure fun _ _ _ => trivial

protected lemma bind {x : Act α} {f : α → Act β} (hx : Stays C x) (hf : ∀ a, Stays C (f a)) : Stays C (x >>= f) :=
  Course.Runs.bind hx hf

protected lemma get {f : Recorder → Act α} (hf : ∀ r, Stays C (f r)) : Stays C (get >>= f) :=
  Course.Runs.bind_get fun r => (hf r).strengthen fun _ _ _ => trivial

protected lemma ite {c : Prop} [Decidable c] {x y : Act α} (hx : Stays C x) (hy : Stays C y) :
    Stays C (if c then x else y) := Course.Runs.ite (fun _ => hx) fun _ => hy

/-- A program that only gives an answer. -/
lemma of_still {act : Act α} (h : ∀ r, (act.run r).2 = r) : Stays C act := of_leads fun r => by
  rw [h r]
  exact C.refl r

protected lemma modify [hC : AllowsNotes C] {f : Recorder → Recorder} (h : ∀ r, SameRecord r (f r)) :
    Stays C (modify f) := of_leads fun r => hC.same (h r)

protected lemma add [hC : AllowsNotes C] {step : Step} (h : step.kind.isSynthetic = true) : Stays C (add step) :=
  of_leads fun r => hC.add r step h

end Stays

section Notes

variable [hC : AllowsNotes C]

/-! ### Changes of the page -/

lemma heed_stays (mutations : List Page.Mutation) : Stays C (heed mutations) := .modify fun r => by
  split
  · exact .refl r
  · rename_i a h
    split
    · exact ⟨by simp [steps, h], by simp [held, texts, h], rfl⟩
    · exact .refl r

/-- The timer for the changes of the page goes off. -/
lemma wakeMutations_stays (p : Page) : Stays C (wakeMutations p) := by
  have hfields : ∀ mutations, Stays C (noteFields p mutations) := fun mutations => by
    refine .bind (.of_still fun r => newFields_run _ r) fun fields => ?_
    cases fields with
    | nil => exact .pure _
    | cons first rest => exact .get fun r => .discard (Stays.add rfl)
  have hloaded : ∀ mutations, Stays C (noteLoaded p mutations) := fun mutations => by
    unfold noteLoaded
    split
    · exact .pure _
    · exact .get fun r => .discard (Stays.add rfl)
  refine .bind (.of_leads fun r => hC.same ?_) fun mutations => ?_
  · rw [Course.run_modifyGet]
    cases h : r.active with
    | none => exact .refl r
    | some a => exact ⟨by simp [steps, h], by simp [held, texts, h], rfl⟩
  · cases mutations with
    | none => exact .pure _
    | some mutations => exact .get fun r => .ite (.bind (hfields _) fun _ => hloaded _) (.pure _)

/-! ### Requests -/

lemma cancelIdle_stays : Stays C cancelIdle := .modify fun r => by
  split
  · exact (SameRecord.changeTraffic r _).clock _
  · exact .refl r

lemma awaitIdle_stays : Stays C awaitIdle :=
  .bind cancelIdle_stays fun _ => .modify fun r => (SameRecord.changeTraffic r _).clock _

lemma noteIdle_stays : Stays C noteIdle :=
  .get fun _ => .ite (.pure _) (.bind (.add rfl) fun _ => .ite (.modify fun r => .changeTraffic r _) (.pure _))

/-- The timer for an idle network goes off. -/
lemma wakeIdle_stays : Stays C wakeIdle :=
  .bind (.modify fun r => .changeTraffic r _) fun _ => .get fun _ => .ite noteIdle_stays (.pure _)

/-- What is noted before the end of a session. -/
lemma noteUnsettled_stays : Stays C noteUnsettled := by
  refine .get fun r => ?_
  split
  · exact .pure _
  · exact .ite (.bind cancelIdle_stays fun _ => noteIdle_stays) (.pure _)

lemma requestBegun_stays : Stays C requestBegun :=
  .bind (.modify fun r => .changeTraffic r _) fun _ => cancelIdle_stays

lemma requestEnded_stays (url method : String) (status : Int) : Stays C (requestEnded url method status) := by
  have hawait : Stays C (get >>= fun r : Recorder =>
      if (r.active.any (·.traffic.inFlight == 0)) = true then awaitIdle else pure ()) :=
    .get fun _ => .ite awaitIdle_stays (.pure _)
  refine .bind (.modify fun r => .changeTraffic r _) fun _ => Course.Runs.bind_get fun r =>
    .ite (fun _ => .pure fun _ _ _ => trivial) fun _ => ?_
  refine .bind (Q := fun _ _ => True) (.set ?_) fun _ => Stays.ite (.bind (.discard (Stays.add rfl)) fun _ => hawait)
    hawait
  rintro s - ⟨rfl, -⟩
  exact ⟨hC.same (.changeTraffic s _), trivial⟩

lemma requestSent?_stays (number : Nat) : Stays C (requestSent? number) := by
  refine .get fun r => ?_
  split
  · exact .pure _
  · split
    · exact .ite (.bind requestBegun_stays fun _ => .pure _) (.pure _)
    · exact .pure _

/-! ### Signals -/

lemma resume_stays : Stays C resume :=
  .get fun _ => .ite (.bind (.modify fun r => .changeActive r (fun _ => rfl) fun _ => rfl) fun _ =>
    .get fun _ => .pure _) (.pure _)

namespace Signal

/-- What the recorder is told of is nothing that the user does, and no time passes. -/
def isSilent : Signal → Bool
  | resume | heed _ | requestBegun | requestEnded _ _ _ | requestEndedIn _ _ _ _ | requestOpened _ _ _
  | requestSent _ | requestDone _ _ _ _ _ | callbacks _ _ | noticed => true
  | _ => false

/-- **All that a recorder does by itself is notes.** -/
theorem stays_silent {s : Signal} (h : s.isSilent = true) : Stays C s.act := by
  cases s with
  | resume => exact .discard resume_stays
  | heed mutations => exact heed_stays mutations
  | requestBegun => exact requestBegun_stays
  | requestEnded url method status => exact requestEnded_stays url method status
  | requestEndedIn serial url method status => exact .get fun r => .ite (requestEnded_stays url method status) (.pure _)
  | requestOpened number url method => exact .modify fun r => .changeTraffic r _
  | requestSent number => exact .discard (requestSent?_stays number)
  | requestDone number serial url method status =>
    exact .get fun _ => .ite (.bind (.modify fun r => .changeTraffic r _) fun _ => requestEnded_stays url method status)
      (.pure _)
  | callbacks onAdded onUpdated => exact .modify fun r => ⟨rfl, rfl, rfl⟩
  | noticed => exact .modify fun r => ⟨rfl, rfl, rfl⟩
  | start p | stop p | pause p | clear | hear p event | addByHand p d | removeStep index
  | updateStep index value waitTimeout | advance p ms | runAll p => cases h

end Signal

end Notes

end PageTape.Recorder
