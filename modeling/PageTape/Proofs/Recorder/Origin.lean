import PageTape.Proofs.Recorder.Order
import PageTape.Proofs.Recorder.Kept
import PageTape.Proofs.Recorder.Serial
import Mathlib.Data.List.Induction

/-!
# Where the steps of the user come from

The signals of a run are numbered.  A step that fills a field comes from the signal that gave the field its last text
before the step was recorded, and any other step of the user from the signal on which it was added (`Run.Source`).
Texts are recorded late, some of them into steps that exist already; still the steps stand in the order of the signals
that they come from (`user_steps_in_order`).

The invariant behind this is `Traced`: the signals that the steps come from, followed by those that gave the texts
which wait, are in their order.  While a signal is obeyed every move keeps it (`Run.Underway`, `Move.underway`), and the
next signal finds it again (`Run.Ordered.push`).
-/

namespace PageTape.Recorder

variable {may : Leave} {r r' : Recorder} {a : Active} {n : Nat}

/-! ### Runs -/

/-- What a recorder has been through: how it was at first, and the signals since then. -/
structure Run where
  first : Recorder
  signals : List Signal

namespace Run

variable {run : Run} {k i : Nat} {selector : String} {typed : Typed} {step : Step} {s : Signal}

/-- The recorder when the signal of a number reaches it. -/
def before (run : Run) (k : Nat) : Recorder := run.first.obeyAll (run.signals.take k)

/-- The recorder after all signals. -/
def last (run : Run) : Recorder := run.first.obeyAll run.signals

/-- The run with one more signal. -/
def push (run : Run) (s : Signal) : Run := { run with signals := run.signals ++ [s] }

/-- The signal of a number gives a field a text. -/
def Gives (run : Run) (k : Nat) (selector : String) (typed : Typed) : Prop :=
  ∃ s, run.signals[k]? = some s ∧ s.text? (run.before k) = some (selector, typed)

/-- The signal of a number gives a field a text, and no later one does. -/
def GivesLast (run : Run) (k : Nat) (selector : String) (typed : Typed) : Prop :=
  run.Gives k selector typed ∧ ∀ k' typed', k < k' → ¬ run.Gives k' selector typed'

/-- On the signal of a number a step is added to the session `n` at the position `i`. -/
def Adds (run : Run) (n k i : Nat) : Prop :=
  ((run.before k).stepsOf n).length ≤ i ∧ i < ((run.before (k + 1)).stepsOf n).length

/-- **The step at the position `i` of the session `n` comes from the signal of the number `k`.**  Either the signal gave
a field a text, the step fills the field with it, and any other text was given to the field before that one or when the
step stood there already.  Or the step was added on the signal, and if it fills a field, then one for which no text
waited. -/
inductive Source (run : Run) (n k i : Nat) (step : Step) : Prop
  | text {selector : String} {typed : Typed} (hgives : run.Gives k selector typed) (hkind : step.kind = .fill)
      (hselector : step.selector = some selector) (hvalue : step.value = some typed.value)
      (htime : step.timestamp = stampOf typed.since)
      (hlast : ∀ k' typed', k < k' → run.Gives k' selector typed' → ((run.before k').stepsOf n)[i]? = some step)
  | act (hadds : run.Adds n k i)
      (hfill : step.kind = .fill → ∀ w ∈ (run.before k).texts, step.selector ≠ some w.key)

@[simp] lemma length_push : (run.push s).signals.length = run.signals.length + 1 := by simp [push]

lemma before_length : run.before run.signals.length = run.last := by simp [before, last]

lemma last_push : (run.push s).last = run.last.obey s := by simp [last, push, obeyAll, List.foldl_append]

lemma before_push (h : k ≤ run.signals.length) : (run.push s).before k = run.before k := by
  simp [before, push, List.take_append_of_le_length h]

lemma before_push_length : (run.push s).before run.signals.length = run.last := by
  rw [before_push le_rfl, before_length]

lemma before_push_succ : (run.push s).before (run.signals.length + 1) = (run.push s).last := by
  rw [← length_push (s := s), before_length]

lemma Gives.lt (h : run.Gives k selector typed) : k < run.signals.length := by
  obtain ⟨s, hs, -⟩ := h
  exact (List.getElem?_eq_some_iff.1 hs).1

lemma Adds.lt (h : run.Adds n k i) : k < run.signals.length := by
  obtain ⟨h₁, h₂⟩ := h
  by_contra hk
  have hsame : run.before (k + 1) = run.before k := by
    unfold before
    rw [List.take_of_length_le (by omega), List.take_of_length_le (by omega)]
  rw [hsame] at h₂
  omega

/-- The texts given in a run with one more signal. -/
lemma gives_push : (run.push s).Gives k selector typed ↔
    run.Gives k selector typed ∨ (k = run.signals.length ∧ s.text? run.last = some (selector, typed)) := by
  constructor
  · rintro ⟨t, ht, htext⟩
    have hk : k < run.signals.length + 1 := by
      rw [← length_push (s := s)]
      exact (List.getElem?_eq_some_iff.1 ht).1
    rcases Nat.lt_succ_iff_lt_or_eq.1 hk with hk | rfl
    · refine .inl ⟨t, ?_, ?_⟩
      · rwa [push, List.getElem?_append_left hk] at ht
      · rwa [before_push hk.le] at htext
    · obtain rfl : s = t := by simpa [push] using ht
      rw [before_push_length] at htext
      exact .inr ⟨rfl, htext⟩
  · rintro (h | ⟨rfl, h⟩)
    · have hk := h.lt
      obtain ⟨t, ht, htext⟩ := h
      refine ⟨t, ?_, ?_⟩
      · rwa [push, List.getElem?_append_left hk]
      · rwa [before_push hk.le]
    · refine ⟨s, by simp [push], ?_⟩
      rwa [before_push_length]

/-- A step still comes from where it did, unless the next signal gives its field a text when it is not there. -/
lemma Source.push (h : run.Source n k i step) (s : Signal) (hstep : (run.last.stepsOf n)[i]? = some step ∨
    s.text? run.last = none) : (run.push s).Source n k i step := by
  cases h with
  | text hgives hkind hselector hvalue htime hlast =>
    refine .text (gives_push.2 (.inl hgives)) hkind hselector hvalue htime fun k' typed' hk' hgives' => ?_
    rcases gives_push.1 hgives' with hgives' | ⟨rfl, htext⟩
    · rw [before_push hgives'.lt.le]
      exact hlast k' typed' hk' hgives'
    · rw [before_push_length]
      exact hstep.resolve_right fun hnone => by rw [hnone] at htext; cases htext
  | act hadds hfill =>
    have hk := hadds.lt
    rw [← before_push (s := s) hk.le] at hfill
    refine .act ?_ hfill
    unfold Adds
    rw [before_push hk.le, before_push (by omega)]
    exact hadds

/-- Where a step that fills no field comes from does not depend on its value. -/
lemma Source.of_kind {step' : Step} (h : run.Source n k i step) (hkind : step.kind ≠ .fill)
    (hkind' : step'.kind ≠ .fill) : run.Source n k i step' := by
  cases h with
  | text hgives hfill => exact absurd hfill hkind
  | act hadds _ => exact .act hadds fun hfill => absurd hfill hkind'

end Run

/-! ### The order of the signals that steps come from -/

/-- **The signals that steps and waiting texts come from are in their order**, all below a bound.  `origins` has the
number of the signal for each step, and `number` that for the field of each text.  Where a step comes from that the
recorder has added by itself is left open. -/
structure Traced (source : Nat → Nat → Step → Prop) (gives : Nat → String → Typed → Prop) (bound : Nat)
    (waiting : List (Waiting String Typed)) (steps : List Step) (origins : List Nat) (number : String → Nat) :
    Prop where
  length : origins.length = steps.length
  sorted : origins.Pairwise (· ≤ ·)
  below : ∀ k ∈ origins, k < bound
  source : ∀ i k step, origins[i]? = some k → steps[i]? = some step → step.kind.isSynthetic = false → source k i step
  gives : ∀ w ∈ waiting, gives (number w.key) w.key w.payload
  soon : ∀ w ∈ waiting, number w.key < bound
  queue : waiting.Pairwise fun v w => v.timer < w.timer ∧ number v.key < number w.key
  ahead : ∀ w ∈ waiting, ∀ k ∈ origins, k ≤ number w.key

/-- An item of a list with one more item is one of the list, or that one. -/
lemma getElem?_concat {α : Type} {l : List α} {x y : α} {i : Nat} (h : (l ++ [x])[i]? = some y) :
    l[i]? = some y ∨ (i = l.length ∧ y = x) := by
  rcases lt_trichotomy i l.length with hi | rfl | hi
  · rw [List.getElem?_append_left hi] at h
    exact .inl h
  · exact .inr ⟨rfl, by simpa using h.symm⟩
  · rw [List.getElem?_eq_none (by simp; omega)] at h
    cases h

namespace Traced

variable {source source' : Nat → Nat → Step → Prop} {gives gives' : Nat → String → Typed → Prop} {bound : Nat}
  {waiting : List (Waiting String Typed)} {steps : List Step} {origins : List Nat} {number : String → Nat}

/-- A step follows those of an initial part of the steps. -/
lemma concat (h : Traced source gives bound waiting steps origins number) {init : List Step}
    (hinit : init <+: steps) {rest : List (Waiting String Typed)} (hrest : rest.Sublist waiting) {step : Step} {k : Nat}
    (hk : k < bound) (hpast : ∀ m ∈ origins, m ≤ k) (hahead : ∀ w ∈ rest, k ≤ number w.key)
    (hsource : step.kind.isSynthetic = false → source k init.length step) :
    Traced source gives bound rest (init ++ [step]) (origins.take init.length ++ [k]) number := by
  have hlen : (origins.take init.length).length = init.length := by
    rw [List.length_take, h.length]
    exact min_eq_left hinit.length_le
  have hmem : ∀ m ∈ origins.take init.length, m ∈ origins := fun m hm => List.mem_of_mem_take hm
  refine ⟨by simp [hlen], ?_, ?_, ?_, ?_, ?_, h.queue.sublist hrest, ?_⟩
  · rw [List.pairwise_append]
    refine ⟨h.sorted.sublist (List.take_sublist _ _), List.pairwise_singleton _ _, fun m hm k' hk' => ?_⟩
    obtain rfl := List.mem_singleton.1 hk'
    exact hpast m (hmem m hm)
  · intro m hm
    rcases List.mem_append.1 hm with hm | hm
    · exact h.below m (hmem m hm)
    · obtain rfl := List.mem_singleton.1 hm
      exact hk
  · intro i m s hm hs hsyn
    rcases getElem?_concat hs with hs | ⟨rfl, rfl⟩
    · obtain ⟨hi, rfl⟩ := List.getElem?_eq_some_iff.1 hs
      rw [List.getElem?_append_left (by omega), List.getElem?_take_of_lt hi] at hm
      exact h.source i m _ hm (List.prefix_iff_getElem?.1 hinit i hi) hsyn
    · rw [← hlen] at hm
      obtain rfl : k = m := by simpa using hm
      exact hsource hsyn
  · exact fun w hw => h.gives w (hrest.subset hw)
  · exact fun w hw => h.soon w (hrest.subset hw)
  · intro w hw m hm
    rcases List.mem_append.1 hm with hm | hm
    · exact h.ahead w (hrest.subset hw) m (hmem m hm)
    · obtain rfl := List.mem_singleton.1 hm
      exact hahead w hw

/-- There is a number that no step is behind and no text is before. -/
lemma exists_top (h : Traced source gives bound waiting steps origins number) (hb : 0 < bound) :
    ∃ k < bound, (∀ m ∈ origins, m ≤ k) ∧ ∀ w ∈ waiting, k ≤ number w.key := by
  rcases List.eq_nil_or_concat origins with rfl | ⟨init, k, rfl⟩
  · exact ⟨0, hb, nofun, fun _ _ => Nat.zero_le _⟩
  · have hk : k ∈ init.concat k := by simp
    refine ⟨k, h.below k hk, fun m hm => ?_, fun w hw => h.ahead w hw k hk⟩
    have hsorted := h.sorted
    rw [List.concat_eq_append, List.pairwise_append] at hsorted
    rw [List.concat_eq_append] at hm
    rcases List.mem_append.1 hm with hm | hm
    · exact hsorted.2.2 m hm k (List.mem_singleton_self k)
    · exact (List.mem_singleton.1 hm).le

/-- Fewer texts wait, and of the others and the steps it is known where they come from. -/
lemma mono {bound' : Nat} {rest : List (Waiting String Typed)}
    (h : Traced source gives bound waiting steps origins number) (hb : bound ≤ bound') (hrest : rest.Sublist waiting)
    (hsource : ∀ i k step, steps[i]? = some step → source k i step → source' k i step)
    (hgives : ∀ w ∈ rest, ∀ k, gives k w.key w.payload → gives' k w.key w.payload) :
    Traced source' gives' bound' rest steps origins number where
  length := h.length
  sorted := h.sorted
  below k hk := (h.below k hk).trans_le hb
  source i k step hk hstep hsyn := hsource i k step hstep (h.source i k step hk hstep hsyn)
  gives w hw := hgives w hw _ (h.gives w (hrest.subset hw))
  soon w hw := (h.soon w (hrest.subset hw)).trans_le hb
  queue := h.queue.sublist hrest
  ahead w hw := h.ahead w (hrest.subset hw)

end Traced

/-! ### Steps once a text is recorded -/

section Takes

variable {w : Waiting String Typed} {steps steps' : List Step}

lemma Takes.length_le (h : Takes w steps steps') : steps.length ≤ steps'.length := by
  cases h with
  | update | append => simp

/-- A step that fills no field is where it was. -/
lemma Takes.getElem?_eq (h : Takes w steps steps') {i : Nat} {step : Step} (hs : steps'[i]? = some step)
    (hkind : step.kind ≠ .fill) : steps[i]? = some step := by
  cases h with
  | update init last habout =>
    rcases getElem?_concat hs with hs | ⟨-, rfl⟩
    · rwa [List.getElem?_append_left (List.getElem?_eq_some_iff.1 hs).1]
    · exact absurd (isAbout_iff.1 habout).1 hkind
  | append _ last hfills hnew =>
    rcases getElem?_concat hs with hs | ⟨-, rfl⟩
    · exact hs
    · exact absurd hfills.1 hkind

/-- The fields that steps fill are those before and the one of the text. -/
lemma Takes.exists_fill (h : Takes w steps steps') {key : String}
    (hk : key = w.key ∨ ∃ step ∈ steps, isAbout .fill key step = true) :
    ∃ step ∈ steps', isAbout .fill key step = true := by
  cases h with
  | update init last habout =>
    have hlast : ∀ key, isAbout .fill key last = true → ∃ step ∈ init ++ [{ last with
        value := some w.payload.value, timestamp := stampOf w.payload.since }], isAbout .fill key step = true :=
      fun key h => ⟨_, List.mem_append_right _ (List.mem_singleton_self _), isAbout_iff.2 (isAbout_iff.1 h)⟩
    rcases hk with rfl | ⟨step, hstep, hfill⟩
    · exact hlast _ habout
    · rcases List.mem_append.1 hstep with hstep | hstep
      · exact ⟨step, List.mem_append_left _ hstep, hfill⟩
      · obtain rfl := List.mem_singleton.1 hstep
        exact hlast _ hfill
  | append _ last hfills hnew =>
    rcases hk with rfl | ⟨step, hstep, hfill⟩
    · exact ⟨last, List.mem_append_right _ (List.mem_singleton_self _), isAbout_iff.2 ⟨hfills.1, hfills.2.1⟩⟩
    · exact ⟨step, List.mem_append_left _ hstep, hfill⟩

end Takes

/-! ### In the middle of a signal -/

namespace Run

/-- A step is added on the signal that comes next; if it fills a field, then one for which no text waited. -/
def Acts (run : Run) (n k i : Nat) (step : Step) : Prop :=
  k = run.signals.length ∧ (run.last.stepsOf n).length ≤ i ∧
    (step.kind = .fill → ∀ w ∈ run.last.texts, step.selector ≠ some w.key)

/-- **While the next signal is obeyed**: the steps and the texts that still wait are in the order of the signals that
they come from, what waited before waits or is recorded, and as soon as the user has done something else, nothing
waits. -/
structure Underway (run : Run) (n : Nat) (waiting : List (Waiting String Typed)) (steps : List Step) : Prop where
  traced : ∃ origins number, Traced (fun k i step => run.Source n k i step ∨ run.Acts n k i step) run.GivesLast
    (run.signals.length + 1) waiting steps origins number
  grown : (run.last.stepsOf n).length ≤ steps.length
  recorded : ∀ w ∈ run.last.texts, w ∈ waiting ∨ ∃ step ∈ steps, isAbout .fill w.key step = true
  calm : ∀ i step, (run.last.stepsOf n).length ≤ i → steps[i]? = some step → step.kind.isSynthetic = false →
    step.kind ≠ .fill → waiting = []

namespace Underway

variable {run : Run} {waiting rest : List (Waiting String Typed)} {steps steps' : List Step} {step : Step}
  {w : Waiting String Typed}

/-- The text that has waited longest is recorded. -/
lemma take (h : run.Underway n (w :: rest) steps) (hs : Takes w steps steps') : run.Underway n rest steps' := by
  obtain ⟨origins, number, ht⟩ := h.traced
  obtain ⟨hgives, hlast⟩ := ht.gives w List.mem_cons_self
  have hqueue := List.pairwise_cons.1 ht.queue
  refine ⟨?_, h.grown.trans hs.length_le, fun v hv => ?_, fun i step hi hstep hsyn hkind => ?_⟩
  · obtain ⟨init, last, rfl, hinit, hkind, hselector, hvalue, htime⟩ := hs.eq_append
    refine ⟨_, number, ht.concat hinit (List.sublist_cons_self _ _) (ht.soon w List.mem_cons_self)
      (ht.ahead w List.mem_cons_self) (fun v hv => (hqueue.1 v hv).2.le) fun _ => .inl ?_⟩
    exact .text hgives hkind hselector hvalue htime fun k' typed' hk' hg => absurd hg (hlast k' typed' hk')
  · rcases h.recorded v hv with hv | hfill
    · rcases List.mem_cons.1 hv with rfl | hv
      · exact .inr (hs.exists_fill (.inl rfl))
      · exact .inl hv
    · exact .inr (hs.exists_fill (.inr hfill))
  · -- there was a text that waited, so the user had done nothing else
    have hcalm := h.calm i step hi (hs.getElem?_eq hstep hkind) hsyn hkind
    exact absurd hcalm (List.cons_ne_nil w rest)

/-- A step is added: for the user where no text waits, or by the recorder itself. -/
lemma push (h : run.Underway n waiting steps) (step : Step)
    (hsource : ∀ k, step.kind.isSynthetic = false → k = run.signals.length → run.Acts n k steps.length step)
    (hwaiting : step.kind.isSynthetic = false → waiting = []) : run.Underway n waiting (steps ++ [step]) := by
  obtain ⟨origins, number, ht⟩ := h.traced
  refine ⟨?_, ?_, fun v hv => ?_, fun i s hi hs hsyn hkind => ?_⟩
  · cases hsyn : step.kind.isSynthetic with
    | true =>
      obtain ⟨k, hk, hpast, hahead⟩ := ht.exists_top (Nat.succ_pos _)
      exact ⟨_, number, ht.concat List.prefix_rfl (List.Sublist.refl _) hk hpast hahead fun hfalse => by
        rw [hsyn] at hfalse; cases hfalse⟩
    | false =>
      obtain rfl := hwaiting hsyn
      exact ⟨_, number, ht.concat List.prefix_rfl (List.Sublist.refl _) (Nat.lt_succ_self _)
        (fun m hm => Nat.lt_succ_iff.1 (ht.below m hm)) nofun fun _ => .inr (hsource _ hsyn rfl)⟩
  · have hgrown := h.grown
    simp only [List.length_append, List.length_singleton]
    omega
  · exact (h.recorded v hv).imp_right fun ⟨s, hs, hfill⟩ => ⟨s, List.mem_append_left _ hs, hfill⟩
  · rcases getElem?_concat hs with hs | ⟨-, rfl⟩
    · exact h.calm i s hi hs hsyn hkind
    · exact hwaiting hsyn

/-- A step is added for the user where no text waits. -/
lemma act (h : run.Underway n [] steps)
    (hfill : step.kind = .fill → ∀ s ∈ steps, s.kind = .fill → s.selector ≠ step.selector) :
    run.Underway n [] (steps ++ [step]) := by
  refine h.push step (fun k _ hk => ⟨hk, h.grown, fun hkind v hv hselector => ?_⟩) fun _ => rfl
  -- the field of a text that has waited is filled by now
  obtain hv | ⟨s, hs, habout⟩ := h.recorded v hv
  · cases hv
  · obtain ⟨hs₁, hs₂⟩ := isAbout_iff.1 habout
    exact hfill hkind s hs hs₁ (hs₂.trans hselector.symm)

/-- A step is added by the recorder itself. -/
lemma note (h : run.Underway n waiting steps) (hsyn : step.kind.isSynthetic = true) :
    run.Underway n waiting (steps ++ [step]) := by
  have hno : step.kind.isSynthetic ≠ false := by rw [hsyn]; exact nofun
  exact h.push step (fun k hk => absurd hk hno) fun hk => absurd hk hno

/-- The newest step takes another choice. -/
lemma rechoose {last : Step} (h : run.Underway n [] (steps ++ [last])) (hkind : last.kind = .select)
    (value : Option String) : run.Underway n [] (steps ++ [{ last with value }]) := by
  obtain ⟨origins, number, ht⟩ := h.traced
  have hfill : ∀ step : Step, step.kind = .select → step.kind ≠ .fill := fun step hs => by rw [hs]; exact nofun
  refine ⟨⟨origins, number, ?_⟩, by simpa using h.grown, fun v hv => ?_, fun _ _ _ _ _ _ => rfl⟩
  · refine { ht with length := by simpa using ht.length, source := fun i k s hk hs hsyn => ?_ }
    rcases getElem?_concat hs with hs | ⟨rfl, rfl⟩
    · exact ht.source i k s hk (by rwa [List.getElem?_append_left (List.getElem?_eq_some_iff.1 hs).1]) hsyn
    · refine (ht.source _ k last hk (by simp) hsyn).imp (fun hsource => ?_) fun ⟨h₁, h₂, _⟩ => ⟨h₁, h₂, ?_⟩
      · exact hsource.of_kind (hfill _ hkind) (hfill _ hkind)
      · exact fun hf => absurd hf (hfill _ hkind)
  · rcases h.recorded v hv with hv | ⟨s, hs, habout⟩
    · cases hv
    · rcases List.mem_append.1 hs with hs | hs
      · exact .inr ⟨s, List.mem_append_left _ hs, habout⟩
      · obtain rfl := List.mem_singleton.1 hs
        exact absurd (isAbout_iff.1 habout).1 (hfill _ hkind)

end Underway

end Run

/-- The text whose timer goes off is the one that has waited longest: all texts wait equally long. -/
lemma Active.Ordered.eq_cons_of_first {now : Rat} {c : Clock Alarm} (ho : a.Ordered now) (hl : a.Linked c)
    (hqueue : a.inputs.waiting.Pairwise fun v w => v.timer < w.timer) {w : Waiting String Typed}
    (hw : w ∈ a.inputs.waiting) (hfirst : ∀ u ∈ c.timers, (a.inputs.timerOf Alarm.input w).Ahead u) :
    ∃ rest, a.inputs.waiting = w :: rest := by
  cases hwaiting : a.inputs.waiting with
  | nil =>
    rw [hwaiting] at hw
    cases hw
  | cons v rest =>
    have hv : v ∈ a.inputs.waiting := by rw [hwaiting]; exact List.mem_cons_self
    have hsorted := ho.sorted
    rw [hwaiting] at hw hsorted hqueue
    rcases List.mem_cons.1 hw with rfl | hw
    · exact ⟨rest, rfl⟩
    · have hsince := (List.pairwise_cons.1 hsorted).1 w hw
      have htimer := (List.pairwise_cons.1 hqueue).1 w hw
      rcases hfirst _ (hl.inputs.isSet v hv) with hdue | ⟨-, hseq⟩
      · simp only [Debouncer.timerOf] at hdue
        linarith
      · exact absurd hseq (not_le.2 htimer)

/-- **Every move keeps this.** -/
theorem Move.underway {run : Run} (hm : Move may r r') (he : may.edits = false) (hl : r.Linked) (ho : r.Ordered)
    (h : ∀ a, r.active = some a → run.Underway a.serial a.inputs.waiting a.session.steps) :
    ∀ a, r'.active = some a → run.Underway a.serial a.inputs.waiting a.session.steps := by
  intro b hb
  cases hm with
  | told notices | attended onAdded onUpdated | passed time hdue hforward => exact h b hb
  | @flushed a w rest steps notices ha hr hw hs =>
    obtain rfl := Option.some.inj hb
    have hrest : (a.inputs.drop w.key).waiting = rest := (hl.active a ha).inputs.drop_eq hw
    have hunder := h a ha
    rw [hw] at hunder
    exact hrest ▸ hunder.take hs
  | @rung a w steps notices ha hr hw hfirst hs =>
    obtain rfl := Option.some.inj hb
    have hunder := h a ha
    obtain ⟨origins, number, ht⟩ := hunder.traced
    obtain ⟨rest, hwaiting⟩ := (ho.active a ha).eq_cons_of_first (hl.active a ha) (ht.queue.imp And.left) hw hfirst
    have hrest : (a.inputs.drop w.key).waiting = rest := (hl.active a ha).inputs.drop_eq hwaiting
    rw [hwaiting] at hunder
    exact hrest ▸ hunder.take hs
  | acted notices ha hr hw hk ht hf =>
    obtain rfl := Option.some.inj hb
    have hunder := h _ ha
    rw [hw] at hunder
    have hpushed := hunder.act hf
    rwa [← hw] at hpushed
  | rechosen notices value ha hw hs hk =>
    obtain rfl := Option.some.inj hb
    have hunder := h _ ha
    rw [hw, hs] at hunder
    have hchosen := hunder.rechoose hk value
    rwa [← hw] at hchosen
  | noted notices ha hr hk ht =>
    obtain rfl := Option.some.inj hb
    exact (h _ ha).note hk
  | edited steps last notices ha hedit =>
    rw [he] at hedit
    cases hedit
  | heeded payload ha | settled ha hw hfirst | counted ha hi hc | idleSet delay ha hn | idleCancelled ha hn
  | idleRung ha ht hta hfirst | paused ha hw | resumed ha hst =>
    obtain rfl := Option.some.inj hb
    have hunder := h _ ha
    exact hunder

lemma Path.underway {run : Run} (hp : Path may r r') (hb : may.back = false) (he : may.edits = false) (hl : r.Linked)
    (ho : r.Ordered) (h : ∀ a, r.active = some a → run.Underway a.serial a.inputs.waiting a.session.steps) :
    ∀ a, r'.active = some a → run.Underway a.serial a.inputs.waiting a.session.steps := by
  induction hp with
  | refl => exact h
  | tail hp hm ih => exact hm.underway he (Path.linked hp hl) (Path.ordered hp hb he hl ho) ih

/-! ### Between the signals -/

namespace Run

variable {run : Run} {s : Signal}

/-- The steps of every session and the texts that wait are in the order of the signals that they come from. -/
def Ordered (run : Run) : Prop := ∀ n record, run.last.recordOf? n = some record →
  ∃ origins number, Traced (run.Source n) run.GivesLast run.signals.length run.last.texts record.1.steps origins number

lemma stepsOf_eq {record : Session × List Response} (h : r.recordOf? n = some record) :
    r.stepsOf n = record.1.steps := by
  simp [stepsOf, h]

/-- The next signal comes. -/
lemma Ordered.enter {record : Session × List Response} (h : run.Ordered) (hn : run.last.recordOf? n = some record) :
    run.Underway n run.last.texts record.1.steps := by
  obtain ⟨origins, number, ht⟩ := h n record hn
  have hsteps := stepsOf_eq hn
  refine ⟨⟨origins, number, ?_⟩, hsteps ▸ le_rfl, fun w hw => .inl hw, fun i step hi hstep => ?_⟩
  · exact ht.mono (Nat.le_succ _) (List.Sublist.refl _) (fun _ _ _ _ => .inl) fun _ _ _ h => h
  · rw [hsteps] at hi
    rw [List.getElem?_eq_none hi] at hstep
    cases hstep

/-- A signal that gives no text has been obeyed. -/
lemma leave {waiting : List (Waiting String Typed)} {steps : List Step} {origins : List Nat} {number : String → Nat}
    (h : Traced (fun k i step => run.Source n k i step ∨ run.Acts n k i step) run.GivesLast (run.signals.length + 1)
      waiting steps origins number) (hs : s.text? run.last = none) (hsteps : (run.push s).last.stepsOf n = steps) :
    Traced ((run.push s).Source n) (run.push s).GivesLast (run.push s).signals.length waiting steps origins number := by
  rw [length_push]
  refine h.mono le_rfl (List.Sublist.refl _) (fun i k step hstep hsource => ?_) fun w hw k ⟨hgives, hlast⟩ => ?_
  · rcases hsource with hsource | ⟨rfl, hi, hfill⟩
    · exact hsource.push s (.inr hs)
    · have hadds : (run.push s).Adds n run.signals.length i := by
        refine ⟨by rwa [before_push_length], ?_⟩
        rw [before_push_succ, hsteps]
        exact (List.getElem?_eq_some_iff.1 hstep).1
      exact .act hadds (by rwa [before_push_length])
  · refine ⟨gives_push.2 (.inl hgives), fun k' typed' hk' hgives' => ?_⟩
    rcases gives_push.1 hgives' with hgives' | ⟨-, htext⟩
    · exact hlast k' typed' hk' hgives'
    · rw [hs] at htext
      cases htext

/-- A signal that gives a text has been obeyed: the text waits last. -/
lemma keep {c : Clock Alarm} {origins : List Nat} {number : String → Nat} {selector : String} {typed : Typed}
    (h : Traced (run.Source a.serial) run.GivesLast run.signals.length a.inputs.waiting a.session.steps origins number)
    (ha : run.last.active = some a) (hl : a.Linked c) (hc : c.Sound)
    (hs : s.text? run.last = some (selector, typed)) :
    Traced ((run.push s).Source a.serial) (run.push s).GivesLast (run.push s).signals.length
      (a.inputs.schedule c c.now (.input selector) selector typed).1.waiting a.session.steps origins
      (Function.update number selector run.signals.length) := by
  have hnumber : ∀ v ∈ (a.inputs.drop selector).waiting,
      Function.update number selector run.signals.length v.key = number v.key := fun v hv =>
    Function.update_of_ne (Debouncer.mem_drop.1 hv).2 _ _
  have hmem : ∀ v ∈ (a.inputs.drop selector).waiting, v ∈ a.inputs.waiting := fun v hv => (Debouncer.mem_drop.1 hv).1
  rw [Debouncer.waiting_schedule, length_push]
  refine ⟨h.length, h.sorted, fun k hk => Nat.lt_succ_of_lt (h.below k hk), fun i k step hk hstep hsyn => ?_, ?_, ?_,
    ?_, ?_⟩
  · refine (h.source i k step hk hstep hsyn).push s (.inl ?_)
    rwa [stepsOf_active ha]
  · intro v hv
    rcases List.mem_append.1 hv with hv | hv
    · rw [hnumber v hv]
      obtain ⟨hgives, hlast⟩ := h.gives v (hmem v hv)
      refine ⟨gives_push.2 (.inl hgives), fun k' typed' hk' hgives' => ?_⟩
      rcases gives_push.1 hgives' with hgives' | ⟨-, htext⟩
      · exact hlast k' typed' hk' hgives'
      · rw [hs] at htext
        exact (Debouncer.mem_drop.1 hv).2 (congrArg Prod.fst (Option.some.inj htext)).symm
    · obtain rfl := List.mem_singleton.1 hv
      simp only [Function.update_self]
      refine ⟨gives_push.2 (.inr ⟨rfl, hs⟩), fun k' typed' hk' hgives' => ?_⟩
      have hlt := hgives'.lt
      rw [length_push] at hlt
      omega
  · intro v hv
    rcases List.mem_append.1 hv with hv | hv
    · rw [hnumber v hv]
      exact Nat.lt_succ_of_lt (h.soon v (hmem v hv))
    · obtain rfl := List.mem_singleton.1 hv
      simp
  · rw [List.pairwise_append]
    refine ⟨?_, List.pairwise_singleton _ _, fun v hv w hw => ?_⟩
    · refine (h.queue.sublist List.filter_sublist).imp_of_mem fun {v w} hv hw hvw => ?_
      rwa [hnumber v hv, hnumber w hw]
    · obtain rfl := List.mem_singleton.1 hw
      rw [hnumber v hv, Function.update_self]
      exact ⟨hc.fresh _ (hl.inputs.isSet v (hmem v hv)), h.soon v (hmem v hv)⟩
  · intro v hv k hk
    rcases List.mem_append.1 hv with hv | hv
    · rw [hnumber v hv]
      exact h.ahead v (hmem v hv) k hk
    · obtain rfl := List.mem_singleton.1 hv
      rw [Function.update_self]
      exact (h.below k hk).le

/-- Moves have been made. -/
lemma Ordered.underway {t : Recorder} (h : run.Ordered) (hl : run.last.Linked) (ho : run.last.Ordered)
    (hp : Path anyForward run.last t) {record : Session × List Response} (hn : t.recordOf? n = some record) :
    run.Underway n t.texts record.1.steps := by
  have hsame := hp.sameSession
  cases ht : t.active with
  | some b =>
    have hunder := hp.underway rfl rfl hl ho fun a ha => by
      have henter := h.enter (recordOf?_active ha)
      rwa [texts_eq ha] at henter
    have hserial : b.serial = n := by
      by_contra hne
      rw [recordOf?_of_ne ht hne] at hn
      cases hn
    subst hserial
    rw [recordOf?_active ht] at hn
    obtain rfl := Option.some.inj hn
    rw [texts_eq ht]
    exact hunder b ht
  | none =>
    rw [hsame.recordOf?_of_none ht] at hn
    have henter := h.enter hn
    have hnone : run.last.active = none := by
      have hserial := hsame.serial
      rw [ht] at hserial
      simpa using hserial.symm
    have htexts : ∀ r : Recorder, r.active = none → r.texts = [] := fun r hr => by simp [texts, hr]
    rwa [htexts _ hnone, ← htexts _ ht] at henter

/-- A session ends. -/
lemma Ordered.underway_conclude {t : Recorder} (h : run.Ordered) (hl : run.last.Linked) (ho : run.last.Ordered)
    (hlatest : run.last.Latest) (hp : Path anyForward run.last t) (hc : Calm t) {record : Session × List Response}
    (hn : t.conclude.recordOf? n = some record) : run.Underway n [] record.1.steps := by
  have hunder : ∀ record', t.recordOf? n = some record' → run.Underway n [] record'.1.steps := fun record' hn' => by
    have := h.underway hl ho hp hn'
    rwa [calm_iff.1 hc] at this
  cases ht : t.active with
  | none =>
    rw [show t.conclude = t by simp [conclude, ht]] at hn
    exact hunder record hn
  | some b =>
    rw [recordOf?_conclude (hlatest.of_sameSession hp.sameSession) ht] at hn
    obtain ⟨record', hn', rfl⟩ := Option.map_eq_some_iff.1 hn
    exact hunder record' hn'

/-- A session begins with a step of its own. -/
lemma traced_begun {t : Recorder} (hlatest : run.last.Latest) (hsame : SameSession run.last t) (p : Page)
    (hs : s.text? run.last = none) (hlast : (run.push s).last = t.conclude.begun p) :
    ∃ origins number, Traced ((run.push s).Source run.last.nextSerial) (run.push s).GivesLast
      (run.push s).signals.length [] (freshSession p t.conclude.now).steps origins number := by
  have hserial : t.conclude.nextSerial = run.last.nextSerial :=
    (conclude_nextSerial t).trans hsame.nextSerial
  have hbefore : run.last.stepsOf run.last.nextSerial = [] := by
    unfold stepsOf recordOf?
    cases ha : run.last.active with
    | none => simp
    | some a =>
      have hserial := hlatest a ha
      simp only [if_neg (by omega : ¬ a.serial = run.last.nextSerial)]
      rfl
  have hsteps : (run.push s).last.stepsOf run.last.nextSerial = (freshSession p t.conclude.now).steps := by
    rw [hlast, ← hserial, stepsOf_begun]
  obtain ⟨step, hfresh, hkind⟩ :
      ∃ step, (freshSession p t.conclude.now).steps = [] ++ [step] ∧ step.kind = .navigate := ⟨_, rfl, rfl⟩
  rw [hfresh] at hsteps ⊢
  have hempty : Traced (fun k i step => run.Source run.last.nextSerial k i step ∨
      run.Acts run.last.nextSerial k i step) run.GivesLast (run.signals.length + 1) [] [] [] fun _ => 0 :=
    ⟨rfl, .nil, nofun, fun i k step hk => by simp at hk, nofun, nofun, .nil, nofun⟩
  have hacts : run.Acts run.last.nextSerial run.signals.length 0 step :=
    ⟨rfl, by simp [hbefore], fun hfill => by rw [hkind] at hfill; cases hfill⟩
  have hnew := hempty.concat List.prefix_rfl (List.Sublist.refl []) (Nat.lt_succ_self run.signals.length)
    (fun m hm => absurd hm List.not_mem_nil) (fun w hw => absurd hw List.not_mem_nil) fun _ => .inr hacts
  exact ⟨_, _, leave hnew hs hsteps⟩

/-- **Every signal keeps the order of the signals that steps come from**, and where it adds a step of the user that
fills no field, no text waits after it. -/
theorem Ordered.push (h : run.Ordered) (hl : run.last.Linked) (ho : run.last.Ordered) (hlatest : run.last.Latest)
    (s : Signal) (he : s.edits = false) (hb : s.goesBack = false) : (run.push s).Ordered ∧
      ∀ n i step, (run.last.stepsOf n).length ≤ i → ((run.push s).last.stepsOf n)[i]? = some step →
        step.kind.isSynthetic = false → step.kind ≠ .fill → (run.push s).last.texts = [] := by
  -- moves, after which the session may end
  have hmoved : ∀ r', r' = (run.push s).last → s.text? run.last = none →
      (∀ n record, r'.recordOf? n = some record → run.Underway n r'.texts record.1.steps) → (run.push s).Ordered ∧
        ∀ n i step, (run.last.stepsOf n).length ≤ i → (r'.stepsOf n)[i]? = some step →
          step.kind.isSynthetic = false → step.kind ≠ .fill → r'.texts = [] := by
    rintro r' rfl hs hunder
    refine ⟨fun n record hn => ?_, fun n i step hi hstep hsyn hkind => ?_⟩
    · obtain ⟨origins, number, ht⟩ := (hunder n record hn).traced
      exact ⟨origins, number, leave ht hs (stepsOf_eq hn)⟩
    · cases hn : (run.push s).last.recordOf? n with
      | none =>
        rw [stepsOf, hn] at hstep
        cases hstep
      | some record =>
        rw [stepsOf_eq hn] at hstep
        exact (hunder n record hn).calm i step hi hstep hsyn hkind
  have houtcome := hl.outcome (Signal.within_anyForward he hb)
  have hlast : (run.push s).last = run.last.obey s := last_push
  generalize run.last.obey s = r' at houtcome hlast
  cases houtcome with
  | @kept selector typed hs =>
    obtain ⟨a, ha, hr, hsince⟩ := Signal.text?_eq_some hs
    obtain ⟨origins, number, ht⟩ := h a.serial _ (recordOf?_active ha)
    rw [texts_eq ha] at ht
    have hkeep := keep ht ha (hl.active a ha) hl.sound hs
    rw [keepText_eq ha] at hlast
    refine ⟨fun n record hn => ?_, fun n i step hi hstep => ?_⟩
    · rw [hlast] at hn ⊢
      simp only [recordOf?] at hn
      split at hn
      · rename_i hserial
        obtain rfl := Option.some.inj hn
        subst hserial
        exact ⟨origins, _, by rwa [texts_eq rfl]⟩
      · cases hn
    · have hsame : (run.push s).last.stepsOf n = run.last.stepsOf n := by
        rw [hlast]
        simp [stepsOf, recordOf?, ha]
      rw [hsame, List.getElem?_eq_none hi] at hstep
      cases hstep
  | moved hs hp => exact hlast ▸ hmoved _ hlast.symm hs fun n record hn => h.underway hl ho hp hn
  | @ended t hs hp hc =>
    have htexts : (Recorder.conclude t).texts = [] := by simp [texts]
    exact hlast ▸ hmoved _ hlast.symm hs fun n record hn => htexts ▸ h.underway_conclude hl ho hlatest hp hc hn
  | @begun t p hs hp hc =>
    refine ⟨fun n record hn => ?_, fun _ _ _ _ _ _ _ => by rw [hlast]; simp [texts, Recorder.begun]⟩
    have htexts : (run.push s).last.texts = [] := by rw [hlast]; simp [texts, Recorder.begun]
    rw [hlast] at hn
    rw [recordOf?_begun] at hn
    obtain ⟨hserial, rfl⟩ := hn
    rw [htexts]
    have hnext : t.conclude.nextSerial = run.last.nextSerial :=
      (conclude_nextSerial t).trans hp.sameSession.nextSerial
    rw [hserial, hnext]
    exact traced_begun hlatest hp.sameSession p hs hlast
  | forgotten hs =>
    have hactive : ({ run.last.drop with
        stopped := none, stoppedResponses := [], lastUserActionAt := 0 } : Recorder).active = none := drop_active _
    refine ⟨fun n record hn => ?_, fun _ _ _ _ _ _ _ => by rw [hlast]; simp [texts]⟩
    rw [hlast, recordOf?, hactive] at hn
    simp at hn

/-! ### All runs -/

/-- **Every run keeps its recorder in order**, if it neither edits steps by hand nor lets the clock go back. -/
theorem ordered_of_forward (first : Recorder) (h₀ : first.Fresh) (signals : List Signal)
    (hs : ∀ s ∈ signals, s.edits = false ∧ s.goesBack = false) :
    Forward (Run.mk first signals).last ∧ (Run.mk first signals).last.Latest ∧ (Run.mk first signals).Ordered := by
  induction signals using List.reverseRecOn with
  | nil =>
    refine ⟨.fresh h₀, fun a ha => ?_, fun n record hn => ?_⟩
    · rw [show (Run.mk first []).last.active = none from h₀.active] at ha
      cases ha
    · have hnone : first.recordOf? n = none := by simp [recordOf?, h₀.active, h₀.stopped]
      rw [show (Run.mk first []).last = first from rfl, hnone] at hn
      cases hn
  | append_singleton signals s ih =>
    obtain ⟨hforward, hlatest, hordered⟩ := ih fun t ht => hs t (List.mem_append_left _ ht)
    obtain ⟨he, hb⟩ := hs s (List.mem_append_right _ (List.mem_singleton_self s))
    rw [show Run.mk first (signals ++ [s]) = Run.push ⟨first, signals⟩ s from rfl, last_push]
    exact ⟨hforward.obey s he hb, hlatest.obey hforward.linked s,
      (hordered.push hforward.linked hforward.ordered hlatest s he hb).1⟩

end Run

/-- The steps of every session follow each other. -/
lemma Ordered.stepsOf (h : r.Ordered) (n : Nat) : (r.stepsOf n).Pairwise Follows := by
  unfold Recorder.stepsOf recordOf?
  split
  · rename_i a ha
    split
    · exact (h.active a ha).follow
    · exact .nil
  · split
    · cases hs : r.stopped with
      | none => exact .nil
      | some session => exact h.stopped session hs
    · exact .nil

/-- **The steps of the user in a session stand in the order of what the user did.** -/
structure Run.InOrder (run : Run) (n : Nat) : Prop where
  /-- Where a signal adds a step of the user that fills no field, no text waits after it. -/
  calm : ∀ k i step, run.Adds n k i → ((run.before (k + 1)).stepsOf n)[i]? = some step →
    step.kind.isSynthetic = false → step.kind ≠ .fill → (run.before (k + 1)).texts = []
  /-- Every step of the user comes from a signal, and a step that comes from an earlier signal than another one stands
  before it. -/
  origin : ∃ origins : List Nat, origins.length = (run.last.stepsOf n).length ∧
    (∀ i k step, origins[i]? = some k → (run.last.stepsOf n)[i]? = some step → step.kind.isSynthetic = false →
      run.Source n k i step) ∧
    ∀ i j k l : Nat, origins[i]? = some k → origins[j]? = some l → k < l → i < j
  /-- The steps of the user are in the order of time. -/
  sorted : ((run.last.stepsOf n).filter (!·.kind.isSynthetic)).Pairwise fun s t => s.timestamp ≤ t.timestamp

/-- **User actions keep their order**, in every session of every run from a fresh recorder in which no step is edited by
hand and the clock does not go back. -/
theorem user_steps_in_order {run : Run} (h₀ : run.first.Fresh)
    (hs : ∀ s ∈ run.signals, s.edits = false ∧ s.goesBack = false) (n : Nat) : run.InOrder n := by
  refine ⟨fun k i step hadds hstep hsyn hkind => ?_, ?_, ?_⟩
  · -- the run up to the signal, and the signal
    have hk := hadds.lt
    obtain ⟨hforward, hlatest, hordered⟩ := Run.ordered_of_forward run.first h₀ (run.signals.take k)
      fun s hmem => hs s (List.mem_of_mem_take hmem)
    obtain ⟨he, hb⟩ := hs _ (List.getElem_mem hk)
    have hcalm := (hordered.push hforward.linked hforward.ordered hlatest run.signals[k] he hb).2 n i step
    have hlast : (Run.push ⟨run.first, run.signals.take k⟩ run.signals[k]).last = run.before (k + 1) := by
      simp [Run.push, Run.last, Run.before]
    rw [hlast] at hcalm
    exact hcalm hadds.1 hstep hsyn hkind
  · obtain ⟨-, -, hordered⟩ := Run.ordered_of_forward run.first h₀ run.signals hs
    cases hn : run.last.recordOf? n with
    | none => exact ⟨[], by simp [stepsOf, hn], by simp, by simp⟩
    | some record =>
      obtain ⟨origins, number, ht⟩ := hordered n record hn
      rw [Run.stepsOf_eq hn]
      refine ⟨origins, ht.length, ht.source, fun i j k l hi hj hkl => ?_⟩
      by_contra hji
      obtain ⟨hi', rfl⟩ := List.getElem?_eq_some_iff.1 hi
      obtain ⟨hj', rfl⟩ := List.getElem?_eq_some_iff.1 hj
      rcases (not_lt.1 hji).lt_or_eq with hlt | rfl
      · exact absurd hkl (not_lt.2 (List.pairwise_iff_getElem.1 ht.sorted j i hj' hi' hlt))
      · exact absurd hkl (lt_irrefl _)
  · obtain ⟨hforward, -, -⟩ := Run.ordered_of_forward run.first h₀ run.signals hs
    refine ((hforward.ordered.stepsOf n).filter _).imp_of_mem fun {s t} hs _ hst => ?_
    refine hst.resolve_right fun hsyn => ?_
    simp [hsyn.1] at hs

/-! ### Two texts and a key -/

/-- The first of two fields gets a text, then the second one, then the first one again, and then a key is pressed. -/
def typing : Run where
  first := {}
  signals := [
    .start growingPage, .hear growingPage { type := "input", target := .element 1 },
    .hear growingPage { type := "input", target := .element 2 },
    .hear growingPage { type := "input", target := .element 1 },
    .hear growingPage { type := "keydown", target := .element 1, key := "Enter" }]

/-- The texts are recorded in the order of the last one of each field, and before the key. -/
theorem typing_in_order : typing.InOrder 0 ∧
    ((typing.last.stepsOf 0).map fun step => (step.kind, step.selector)) =
      [(.navigate, none), (.fill, some "#size"), (.fill, some "#q"), (.pressKey, some "#q")] := by
  have hs : ∀ s ∈ typing.signals, s.edits = false ∧ s.goesBack = false := by
    simp [typing, Signal.edits, Signal.goesBack]
  exact ⟨user_steps_in_order ⟨rfl, rfl, rfl, rfl⟩ hs 0, by decide +kernel⟩

end PageTape.Recorder
