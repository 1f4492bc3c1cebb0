import PageTape.Proofs.Dom.Location
import PageTape.Proofs.Recorder.Capture
import PageTape.Proofs.Recorder.Faults
import PageTape.Proofs.Recorder.Order

/-!
# A form is submitted once, and completely

* `Submission` — what becomes of a recorder on an event that submits a form: it fails, or the form has just been
  submitted, or what waits is recorded, the form is captured and then a submit is added, and nothing behind it;
* `hear_completes` — wherever an event adds a submit for a form, all that the form holds is recorded before;
* `submits_le_one`, `submits_one` — the two events of one click add at most one submit, and when they add one.
-/

namespace PageTape.Recorder

open Dom (Location)
open Mark (submits)

variable {r r' u : Recorder} {p : Page} {event : Page.Event} {l form : Location} {ms ms' : List Mark}
  {once : Bool}

/-! ### Laws -/

/-- No submit is added. -/
def Unsubmitted (_ : List Mark) (m : Mark) : Prop := m.1 ≠ .submit

/-- A submit is added only where all is recorded that a form holds. -/
def Completes (config : Config) (form : Location) (ms : List Mark) (m : Mark) : Prop :=
  m.1 = .submit → Complete config form ms

lemma unsubmitted_of_captures {m : Mark} (h : Captures ms m) : Unsubmitted ms m := by
  obtain ⟨_, ⟨hgives, -⟩, -⟩ := h
  rintro hm
  rw [hm] at hgives
  cases hgives

lemma Grows.completes (h : Grows Unsubmitted r r') (config : Config) (form : Location) :
    Grows (Completes config form) r r' := h.mono fun _ _ hm hs => absurd hs hm

lemma Adds.submits_eq (h : Adds Unsubmitted ms ms') : ∃ added, ms' = ms ++ added ∧ submits added = 0 := by
  obtain ⟨added, rfl, hadded⟩ := h.exists_added
  refine ⟨added, rfl, List.countP_eq_zero.2 fun m hm hs => ?_⟩
  obtain ⟨before, rest, hsplit⟩ := List.append_of_mem hm
  exact hadded before m rest hsplit (by simpa using hs)

/-- There are that many submits among the steps that are added. -/
def AddsSubmits (n : Nat) (r r' : Recorder) : Prop := ∃ added, r'.marks = r.marks ++ added ∧ submits added = n

lemma AddsSubmits.trans {m n : Nat} {r'' : Recorder} (h : AddsSubmits m r r') (h' : AddsSubmits n r' r'') :
    AddsSubmits (m + n) r r'' := by
  obtain ⟨added, hmarks, rfl⟩ := h
  obtain ⟨added', hmarks', rfl⟩ := h'
  exact ⟨added ++ added', by rw [hmarks', hmarks, List.append_assoc], List.countP_append⟩

lemma AddsSubmits.none (r : Recorder) : AddsSubmits 0 r r := ⟨[], (List.append_nil _).symm, rfl⟩

/-! ### What waits -/

/-- Nothing is recorded where nothing waits. -/
lemma recordAllWaiting_calm (p : Page) (hc : Calm r) : (recordAllWaiting p).run r = (.ok ⟨⟩, r) := by
  unfold recordAllWaiting
  rw [Course.run_bind, Course.run_get]
  cases h : r.active with
  | none => simp [h]
  | some a => simp [h, hc a h]

/-- Programs that do not make a submit the newest step. -/
def unhurried : Course Recorder where
  holds _ := True
  leads s t := hasJustSubmitted s = false → hasJustSubmitted t = false
  refl _ := id
  trans h h' := h' ∘ h
  keeps _ h := h

/-- What waits is recorded as what fills a field, which is no submit. -/
lemma recordAllWaiting_unhurried (p : Page) (hj : hasJustSubmitted r = false) :
    hasJustSubmitted ((recordAllWaiting p).run r).2 = false := by
  refine recordAllWaiting_leads (C := unhurried) p (fun selector r hj => ?_) (fun selector typed r hj => ?_) trivial hj
  · obtain h | ⟨a, w, h, hrun⟩ := takeText_cases selector r
    · rwa [h]
    · rw [hrun]
      have hsteps : r.steps = a.session.steps := steps_of_active h
      unfold hasJustSubmitted newest? at hj ⊢
      rwa [hsteps] at hj
  · cases hrec : r.isRecording with
    | false => rwa [recordText_idle p selector typed hrec]
    | true =>
      obtain ⟨a, h, hr⟩ := isRecording_iff.1 hrec
      obtain ⟨steps, notices, htakes, hrun⟩ := recordText_run p h hr ⟨selector, typed.since, 0, typed⟩
      obtain ⟨init, last, rfl, -, hfills⟩ := htakes.eq_append
      rw [hrun]
      simp [hasJustSubmitted, newest?, Recorder.steps, Active.withSteps, hfills.1]

/-! ### Submits -/

/-- A submit is added, the newest step at the time it is. -/
structure Added (u r' : Recorder) : Prop where
  grows : ∀ law : List Mark → Mark → Prop, (∀ m : Mark, m.1 = .submit → law u.marks m) → Grows law u r'
  newest : ∃ step, r'.steps = u.steps ++ [step] ∧ step.kind = .submit ∧ step.timestamp = u.now

/-- One submit is added, which stands last, and nothing waits. -/
structure Submitted (r r' : Recorder) : Prop where
  one : AddsSubmits 1 r r'
  calm : Calm r'
  just : hasJustSubmitted r' = true

lemma Added.submitted (hadd : Added u r') (h : Grows Unsubmitted r u) (hcalm : Calm u)
    (hw : 1 ≤ r.config.submitWindow) : Submitted r r' := by
  obtain ⟨added, hmarks, hnone⟩ := h.adds.submits_eq
  obtain ⟨step, hsteps, hkind, htime⟩ := hadd.newest
  have hgrows := hadd.grows (fun _ _ => True) fun _ _ => trivial
  refine ⟨⟨added ++ [step.mark], ?_, ?_⟩, hgrows.calm hcalm, ?_⟩
  · rw [marks, hsteps, List.map_append, List.map_singleton]
    exact (congrArg (· ++ [step.mark]) hmarks).trans (List.append_assoc _ _ _)
  · unfold submits at hnone ⊢
    rw [List.countP_append, hnone]
    simp [Step.mark, hkind]
  · have hnow : r'.now = u.now := congrArg stampOf hgrows.now
    have hwindow : 0 < r'.config.submitWindow := by
      rw [hgrows.config, h.config]
      omega
    simp [hasJustSubmitted, newest?, hsteps, hkind, htime, hnow, hwindow]

/-- **What becomes of a recorder on an event that submits a form**; if `once` holds, it may have just been submitted. -/
inductive Submission (once : Bool) (form : Location) (r : Recorder) : Except Fault Unit × Recorder → Prop
  /-- something fails before -/
  | failed {r' : Recorder} (fault : Fault) (h : Grows Unsubmitted r r') : Submission once form r (.error fault, r')
  /-- the form has just been submitted -/
  | repeated {r' : Recorder} (h : Grows Unsubmitted r r') (honce : once = true) (hjust : hasJustSubmitted r = true) :
    Submission once form r (.ok ⟨⟩, r')
  /-- what waits is recorded and the form is captured, and then a submit is added -/
  | done {u r' : Recorder} (result : Except Fault Unit) (h : Grows Unsubmitted r u) (hcalm : Calm u)
    (hform : Complete r.config form u.marks) (hadd : Added u r') : Submission once form r (result, r')

/-- A step is recorded now. -/
lemma recordNow_grows {law : List Mark → Mark → Prop} (hrec : r.isRecording = true) (l : Location) (kind : StepKind)
    (f : Step → Step) (hf : ∀ s, (f s).kind = s.kind) (hlaw : ∀ m : Mark, m.1 = kind → law r.marks m) :
    Grows law r ((stepNow kind >>= fun step => record (some l) (f step)).run r).2 := by
  rw [Course.run_bind, stepNow_run]
  dsimp only [record]
  rw [Course.run_discard]
  refine addUserStep_grows hrec (hlaw _ ?_)
  exact hf { kind, timestamp := r.now }

lemma recordSubmit_added (hrec : r.isRecording = true) (l : Location) (f : Step → Step)
    (hf : ∀ s, (f s).kind = s.kind ∧ (f s).timestamp = s.timestamp) :
    Added r ((stepNow .submit >>= fun step => record (some l) (f step)).run r).2 := by
  refine ⟨fun law hlaw => recordNow_grows hrec l _ f (fun s => (hf s).1) hlaw, ?_⟩
  rw [Course.run_bind, stepNow_run]
  dsimp only [record]
  rw [Course.run_discard]
  exact ⟨_, (addUserStep_steps hrec _).1, (hf _).1, (hf _).2⟩

/-- A form is captured, and a submit is added. -/
lemma submission_of_calm (hrec : r.isRecording = true) (hc : Calm r) (form l : Location) (f : Step → Step)
    (hf : ∀ s, (f s).kind = s.kind ∧ (f s).timestamp = s.timestamp) : Submission once form r
      ((recordForm form >>= fun _ => stepNow .submit >>= fun step => record (some l) (f step)).run r) := by
  have hgrows : Grows Unsubmitted r ((recordForm form).run r).2 :=
    (recordForm_grows form r).mono fun _ _ => unsubmitted_of_captures
  have hcomplete := recordForm_complete form hrec
  rw [Course.run_bind]
  rcases hrun : (recordForm form).run r with ⟨fault | _, u⟩ <;> rw [hrun] at hgrows hcomplete
  · exact .failed fault hgrows
  · exact .done _ hgrows (hgrows.calm hc) (hcomplete rfl) (recordSubmit_added (hgrows.recording.trans hrec) l f hf)

namespace Submission

variable {after : Except Fault Unit × Recorder}

/-- What waits is recorded before. -/
lemma after_waiting {next : Act Unit} (hl : r.Linked)
    (h : ∀ u, Grows Unsubmitted r u → Calm u → Submission once form u (next.run u)) :
    Submission once form r ((recordAllWaiting p >>= fun _ => next).run r) := by
  have hgrows : Grows Unsubmitted r ((recordAllWaiting p).run r).2 := recordAllWaiting_grows (fun _ _ => nofun) p r
  have hcalm := (recordAllWaiting_runs (C := course {}) p r hl trivial).2
  have hunhurried := recordAllWaiting_unhurried (r := r) p
  rw [Course.run_bind]
  rcases hrun : (recordAllWaiting p).run r with ⟨fault | _, u⟩ <;> rw [hrun] at hgrows hcalm hunhurried
  · exact .failed fault hgrows
  · dsimp only at hgrows hunhurried ⊢
    have hnext := h u hgrows (hcalm _ rfl)
    generalize next.run u = after at hnext
    cases hnext with
    | failed fault h' => exact .failed fault (hgrows.trans h')
    | repeated h' honce hjust =>
      refine .repeated (hgrows.trans h') honce ?_
      by_contra hno
      rw [hunhurried (Bool.eq_false_iff.2 hno)] at hjust
      cases hjust
    | done result h' hc hform hadd => exact .done result (hgrows.trans h') hc (hgrows.config ▸ hform) hadd

/-- All that a form holds is recorded before it is submitted. -/
lemma completes (h : Submission once form r after) : Grows (Completes r.config form) r after.2 := by
  cases h with
  | failed fault h => exact h.completes _ _
  | repeated h _ _ => exact h.completes _ _
  | done result h hcalm hform hadd => exact (h.completes _ _).trans (hadd.grows _ fun _ _ _ => hform)

/-- At most one submit is added. -/
lemma cases_submitted (h : Submission once form r after) (hw : 1 ≤ r.config.submitWindow) :
    AddsSubmits 0 r after.2 ∨ Submitted r after.2 := by
  cases h with
  | failed fault h => exact .inl h.adds.submits_eq
  | repeated h _ _ => exact .inl h.adds.submits_eq
  | done result h hcalm hform hadd => exact .inr (hadd.submitted h hcalm hw)

/-- One is, unless something fails or the form has just been submitted. -/
lemma submitted (h : Submission once form r after) (hw : 1 ≤ r.config.submitWindow)
    (hok : ∀ fault, after.1 ≠ .error fault) (hj : once = true → hasJustSubmitted r = false) : Submitted r after.2 := by
  cases h with
  | failed fault h => exact absurd rfl (hok fault)
  | repeated h honce hjust => rw [hj honce] at hjust; cases hjust
  | done result h hcalm hform hadd => exact hadd.submitted h hcalm hw

end Submission

/-! ### Events -/

lemma accepted?_run_eq (h : ((accepted? p event).run r).1 = .ok (some l)) :
    (accepted? p event).run r = (.ok (some l), r) := by
  rw [accepted?_run] at h ⊢
  exact Prod.ext h rfl

/-- Where no element is accepted, a program that goes on with it does nothing. -/
lemma bind_accepted?_ignored {next : Option Location → Act Unit} (hnext : next none = pure ⟨⟩)
    (h : ∀ l, ((accepted? p event).run r).1 ≠ .ok (some l)) : ((accepted? p event >>= next).run r).2 = r := by
  rw [Course.run_bind]
  rcases hrun : (accepted? p event).run r with ⟨fault | l?, t⟩ <;> rw [hrun] at h <;> rw [accepted?_run] at hrun
  · exact (congrArg Prod.snd hrun).symm
  · obtain rfl : r = t := congrArg Prod.snd hrun
    cases l? with
    | none => dsimp only; rw [hnext]; rfl
    | some l => exact absurd rfl (h l)

/-- A field that is clicked is not recorded. -/
lemma onClick_field (h : ((accepted? p event).run r).1 = .ok (some l)) (hfield : l.tag.isFormField = true) :
    (onClick p event).run r = (.ok ⟨⟩, r) := by
  unfold onClick
  rw [Course.run_bind, accepted?_run_eq h]
  simp [hfield]

/-- A button that submits a form is clicked. -/
lemma onClick_submission (hl : r.Linked) (h : ((accepted? p event).run r).1 = .ok (some l))
    (hfield : l.tag.isFormField = false) (hbutton : (l.tag.lowerName == "button" && l.tag.inputType == "submit") = true)
    (hform : Css.closest? [Locator.named "form"] l = some form) : Submission false form r ((onClick p event).run r) := by
  have hrec := (accepted?_eq_some.1 h).1
  unfold onClick
  rw [Course.run_bind, accepted?_run_eq h]
  simp only [hfield, hbutton, if_true, Bool.false_eq_true, if_false, hform]
  exact .after_waiting hl fun u hgrows hc =>
    submission_of_calm (hgrows.recording.trans hrec) hc form l _ fun _ => ⟨rfl, rfl⟩

/-- Another element is clicked. -/
lemma onClick_other (h : ((accepted? p event).run r).1 = .ok (some l))
    (hbutton : (l.tag.lowerName == "button" && l.tag.inputType == "submit") = false) :
    Grows Unsubmitted r ((onClick p event).run r).2 := by
  have hrec := (accepted?_eq_some.1 h).1
  cases hfield : l.tag.isFormField with
  | true =>
    rw [onClick_field h hfield]
    exact .refl r
  | false =>
    unfold onClick
    rw [Course.run_bind, accepted?_run_eq h]
    simp only [hfield, hbutton, Bool.false_eq_true, if_false]
    have hgrows : Grows Unsubmitted r ((recordAllWaiting p).run r).2 := recordAllWaiting_grows (fun _ _ => nofun) p r
    rw [Course.run_bind]
    rcases hrun : (recordAllWaiting p).run r with ⟨fault | _, u⟩ <;> rw [hrun] at hgrows
    · exact hgrows
    · refine hgrows.trans (recordNow_grows (hgrows.recording.trans hrec) l _ _ (fun _ => rfl) fun m hm => ?_)
      simp [Unsubmitted, hm]

/-- A form is submitted. -/
lemma onSubmit_submission (hl : r.Linked) (h : ((accepted? p event).run r).1 = .ok (some form)) :
    Submission true form r ((onSubmit p event).run r) := by
  have hrec := (accepted?_eq_some.1 h).1
  unfold onSubmit
  rw [Course.run_bind, accepted?_run_eq h]
  refine .after_waiting hl fun u hgrows hc => ?_
  rw [Course.run_bind, Course.run_get]
  dsimp only
  split
  · exact .repeated (.refl u) rfl ‹_›
  · exact submission_of_calm (hgrows.recording.trans hrec) hc form form _ fun _ => ⟨rfl, rfl⟩

/-- A form that has just been submitted is not submitted again. -/
lemma onSubmit_repeated (hc : Calm r) (hj : hasJustSubmitted r = true) : ((onSubmit p event).run r).2 = r := by
  by_cases h : ∃ l, ((accepted? p event).run r).1 = .ok (some l)
  · obtain ⟨l, h⟩ := h
    unfold onSubmit
    rw [Course.run_bind, accepted?_run_eq h]
    dsimp only
    rw [Course.run_bind, recordAllWaiting_calm p hc]
    dsimp only
    rw [Course.run_bind, Course.run_get]
    simp [hj]
  · exact bind_accepted?_ignored rfl (not_exists.1 h)

/-- The form that an event asks to submit: of a click the one around the element, of a submit the element itself. -/
def asked? (p : Page) (event : Page.Event) : Option Location :=
  (event.target.element?.bind p.forest.locate?).bind fun l =>
    if event.type == "click" then Css.closest? [Locator.named "form"] l
    else if event.type == "submit" then some l else none

/-- **Wherever an event adds a submit for a form, all that the form holds is recorded before.** -/
theorem hear_completes (hl : r.Linked) (hasked : asked? p event = some form) :
    Grows (Completes r.config form) r ((hear p event).run r).2 := by
  obtain ⟨l, htarget, hform⟩ := Option.bind_eq_some_iff.1 hasked
  have ignored : ∀ {next : Option Location → Act Unit}, next none = pure ⟨⟩ →
      (∀ l, ((accepted? p event).run r).1 ≠ .ok (some l)) →
      Grows (Completes r.config form) r ((accepted? p event >>= next).run r).2 := fun hnext h => by
    rw [bind_accepted?_ignored hnext h]
    exact .refl r
  split at hform
  · rename_i htype
    have hhear : hear p event = onClick p event := by simp [hear, eq_of_beq htype]
    rw [hhear]
    by_cases h : ∃ l, ((accepted? p event).run r).1 = .ok (some l)
    · obtain ⟨k, h⟩ := h
      obtain rfl : l = k := Option.some.inj (htarget.symm.trans (accepted?_eq_some.1 h).2.1)
      cases hbutton : l.tag.lowerName == "button" && l.tag.inputType == "submit" with
      | false => exact (onClick_other h hbutton).completes _ _
      | true =>
        cases hfield : l.tag.isFormField with
        | true =>
          rw [onClick_field h hfield]
          exact .refl r
        | false => exact (onClick_submission hl h hfield hbutton hform).completes
    · exact ignored rfl (not_exists.1 h)
  · split at hform
    · rename_i htype
      obtain rfl := Option.some.inj hform
      have hhear : hear p event = onSubmit p event := by simp [hear, eq_of_beq htype]
      rw [hhear]
      by_cases h : ∃ l, ((accepted? p event).run r).1 = .ok (some l)
      · obtain ⟨k, h⟩ := h
        obtain rfl : l = k := Option.some.inj (htarget.symm.trans (accepted?_eq_some.1 h).2.1)
        exact (onSubmit_submission hl h).completes
      · exact ignored rfl (not_exists.1 h)
    · cases hform

/-! ### Clicks -/

/-- An element belongs to no tool if all selectors can be read and select nothing around it. -/
lemma isOwn_eq_false_iff {config : Config} : isOwn config l = .ok false ↔
    ∀ selector ∈ config.ownSelectors, ∃ ss, readSelectors selector = .ok ss ∧ Css.closest? ss l = none := by
  unfold isOwn
  induction config.ownSelectors with
  | nil => exact iff_of_true rfl nofun
  | cons selector rest ih =>
    rw [List.forall_mem_cons, ← ih, List.anyM_cons]
    unfold Location.closest?
    cases readSelectors selector with
    | error fault => exact iff_of_false nofun fun h => by obtain ⟨ss, h, -⟩ := h.1; cases h
    | ok ss => cases hs : Css.closest? ss l <;> simp [Except.map, hs, bind, Except.bind, Functor.map, pure, Except.pure]

/-- So does then an element around it. -/
lemma isOwn_around {config : Config} (h : isOwn config l = .ok false) (hform : form ∈ l.outward) :
    isOwn config form = .ok false := by
  rw [isOwn_eq_false_iff] at h ⊢
  intro selector hs
  obtain ⟨ss, hread, hnone⟩ := h selector hs
  refine ⟨ss, hread, List.find?_eq_none.2 fun m hm => List.find?_eq_none.1 hnone m ?_⟩
  rcases List.mem_cons.1 hform with rfl | hform
  · exact hm
  · rcases List.mem_cons.1 hm with rfl | hm
    · exact List.mem_cons_of_mem _ hform
    · exact List.mem_cons_of_mem _ (Location.ancestors_subset hform hm)

/-- The recorder after it has heard an event, which is told. -/
def heard (p : Page) (event : Page.Event) (r : Recorder) : Recorder :=
  { ((hear p event).run r).2 with notices := [] }

lemma heard_linked (p : Page) (event : Page.Event) (hl : r.Linked) : (heard p event r).Linked := by
  have hheard : ((hear p event).run r).2.Linked := hl.obey_any (.hear p event)
  have htold : Move {} _ (heard p event r) := .told ((hear p event).run r).2 []
  exact htold.linked hheard

lemma heard_config (hl : r.Linked) : (heard p event r).config = r.config := hl.config_obey (.hear p event)

lemma onSubmit_le_one (p : Page) (event : Page.Event) (hl : r.Linked) (hw : 1 ≤ r.config.submitWindow) :
    ∃ n ≤ 1, AddsSubmits n r ((onSubmit p event).run r).2 := by
  by_cases h : ∃ l, ((accepted? p event).run r).1 = .ok (some l)
  · obtain ⟨form, h⟩ := h
    obtain hnone | hsubmitted := (onSubmit_submission hl h).cases_submitted hw
    · exact ⟨0, Nat.zero_le 1, hnone⟩
    · exact ⟨1, le_rfl, hsubmitted.one⟩
  · have hsame : ((onSubmit p event).run r).2 = r := bind_accepted?_ignored rfl (not_exists.1 h)
    rw [hsame]
    exact ⟨0, Nat.zero_le 1, .none r⟩

section Click

variable {click submit : Page.Event} (hl : r.Linked) (hclick : click.type = "click") (hsubmit : submit.type = "submit")
  (htarget : click.target.element?.bind p.forest.locate? = some l)
  (hbutton : (l.tag.lowerName == "button" && l.tag.inputType == "submit") = true)
  (hform : Css.closest? [Locator.named "form"] l = some form) (hw : 1 ≤ r.config.submitWindow)

lemma hear_click (hclick : click.type = "click") : hear p click = onClick p click := by simp [hear, hclick]

lemma hear_submit (hsubmit : submit.type = "submit") : hear p submit = onSubmit p submit := by simp [hear, hsubmit]

/-- Once a click has added a submit, the submit of the form adds none. -/
lemma Submitted.submit_after (h : Submitted r (heard p click r)) (hsubmit : submit.type = "submit") :
    AddsSubmits 1 r (heard p submit (heard p click r)) := by
  have hsame : ((hear p submit).run (heard p click r)).2 = heard p click r := by
    rw [hear_submit hsubmit, onSubmit_repeated h.calm h.just]
  show AddsSubmits 1 r { ((hear p submit).run (heard p click r)).2 with notices := [] }
  rw [hsame]
  exact h.one

include hl hclick hsubmit hw htarget hbutton hform

/-- **A click on a button and the submit of its form add at most one submit.** -/
theorem submits_le_one : ∃ n ≤ 1, AddsSubmits n r (heard p submit (heard p click r)) := by
  have hfirst : AddsSubmits 0 r (heard p click r) ∨ Submitted r (heard p click r) := by
    unfold heard
    rw [hear_click hclick]
    by_cases h : ∃ l, ((accepted? p click).run r).1 = .ok (some l)
    · obtain ⟨k, h⟩ := h
      obtain rfl : l = k := Option.some.inj (htarget.symm.trans (accepted?_eq_some.1 h).2.1)
      cases hfield : l.tag.isFormField with
      | true =>
        rw [onClick_field h hfield]
        exact .inl (.none r)
      | false =>
        obtain hnone | h := (onClick_submission hl h hfield hbutton hform).cases_submitted hw
        · exact .inl hnone
        · exact .inr ⟨h.one, h.calm, h.just⟩
    · have hsame : ((onClick p click).run r).2 = r := bind_accepted?_ignored rfl (not_exists.1 h)
      rw [hsame]
      exact .inl (.none r)
  rcases hfirst with h | h
  · have hw' : 1 ≤ (heard p click r).config.submitWindow := by rwa [heard_config hl]
    obtain ⟨n, hn, hadds⟩ := onSubmit_le_one p submit (heard_linked p click hl) hw'
    rw [← hear_submit hsubmit] at hadds
    exact ⟨0 + n, by omega, h.trans hadds⟩
  · exact ⟨1, le_rfl, h.submit_after hsubmit⟩

/-- **They add one**, if the callbacks do not fail: at once if the button is no field, else if the form has not just been
submitted. -/
theorem submits_one (hr : r.Reliable) (hrec : r.isRecording = true) (hown : isOwn r.config l = .ok false)
    (hfield : l.tag.isFormField = false ∨
      submit.target.element?.bind p.forest.locate? = some form ∧ hasJustSubmitted r = false) :
    AddsSubmits 1 r (heard p submit (heard p click r)) := by
  have haccepted : ((accepted? p click).run r).1 = .ok (some l) := accepted?_eq_some.2 ⟨hrec, htarget, hown⟩
  cases hno : l.tag.isFormField with
  | false =>
    have hok := ((hear_faultless p click) r hr).2
    rw [hear_click hclick] at hok
    have hfirst := (onClick_submission hl haccepted hno hbutton hform).submitted hw (fun fault h => hok fault h) nofun
    have hheard : Submitted r (heard p click r) := by
      unfold heard
      rw [hear_click hclick]
      exact ⟨hfirst.one, hfirst.calm, hfirst.just⟩
    exact hheard.submit_after hsubmit
  | true =>
    -- the click says nothing, and the submit of the form is recorded
    obtain ⟨hto, hj⟩ := hfield.resolve_left (by simp [hno])
    have hsame : heard p click r = { r with notices := [] } := by
      unfold heard
      rw [hear_click hclick, onClick_field haccepted hno]
    have haround : form ∈ l.outward := List.mem_of_find?_eq_some hform
    have hformed : ((accepted? p submit).run { r with notices := [] }).1 = .ok (some form) :=
      accepted?_eq_some.2 ⟨hrec, hto, isOwn_around hown haround⟩
    have hok := ((hear_faultless p submit) { r with notices := [] } (hr.of_setup rfl)).2
    rw [hear_submit hsubmit] at hok
    have htold : Move {} r { r with notices := [] } := .told r []
    have hsecond := (onSubmit_submission (htold.linked hl) hformed).submitted hw (fun fault h => hok fault h) fun _ => hj
    rw [hsame]
    unfold heard
    rw [hear_submit hsubmit]
    exact hsecond.one

end Click

end PageTape.Recorder
