import PageTape.Proofs.Recorder.Signal

/-!
# No text is lost

A text that an event gives to a field waits until there is no more of it, or until something else is recorded, and may
then change the newest step instead of adding one.  Whatever happens in between, the last text of every field is found
again: it waits, or no text waits for the field and the last step that fills it shows that text (`Active.Keeps`).
Every move preserves this (`Move.keeps`), and when a session is paused or stopped no text waits
(`no_text_lost`).
-/

namespace PageTape.Recorder

variable {may : Leave} {r r' : Recorder} {a : Active} {heard : List (String × Typed)}

/-! ### The texts of a session and the steps that show them -/

/-- The texts that signals give to fields, by the selectors of the fields, in their order. -/
def heardTexts (r : Recorder) : List Signal → List (String × Typed)
  | [] => []
  | s :: rest => (s.text? r).toList ++ heardTexts (r.obey s) rest

/-- The last text for the field of a selector. -/
def lastText? (heard : List (String × Typed)) (selector : String) : Option Typed :=
  (heard.filter (·.1 == selector)).getLast?.map (·.2)

/-- The last step that fills the field of a selector. -/
def lastFill? (steps : List Step) (selector : String) : Option Step :=
  (steps.filter (isAbout .fill selector)).getLast?

/-- The last step that fills the field of a selector has a text as its value, and the time of the text as its time. -/
def Shows (steps : List Step) (selector : String) (typed : Typed) : Prop :=
  ∃ step, lastFill? steps selector = some step ∧ step.value = some typed.value ∧
    step.timestamp = stampOf typed.since

/-- **The last text of every field waits, or the last step that fills the field shows it.** -/
def Active.Keeps (a : Active) (heard : List (String × Typed)) : Prop :=
  ∀ selector typed, lastText? heard selector = some typed →
    (∃ w ∈ a.inputs.waiting, w.key = selector ∧ w.payload = typed) ∨
      ((∀ w ∈ a.inputs.waiting, w.key ≠ selector) ∧ Shows a.session.steps selector typed)

lemma lastText?_append (heard : List (String × Typed)) (key selector : String) (typed : Typed) :
    lastText? (heard ++ [(key, typed)]) selector = if key = selector then some typed else lastText? heard selector := by
  unfold lastText?
  rw [List.filter_append]
  by_cases h : key = selector <;> simp [h]

lemma isAbout_iff {kind : StepKind} {selector : String} {step : Step} :
    isAbout kind selector step = true ↔ step.kind = kind ∧ step.selector = some selector := by
  simp [isAbout]

lemma lastFill?_append {steps : List Step} {step : Step} {selector : String}
    (h : isAbout .fill selector step = true) : lastFill? (steps ++ [step]) selector = some step := by
  simp [lastFill?, h]

lemma lastFill?_append_of_not {steps : List Step} {step : Step} {selector : String}
    (h : ¬ isAbout .fill selector step = true) : lastFill? (steps ++ [step]) selector = lastFill? steps selector := by
  simp [lastFill?, h]

/-- Recording a text changes nothing for other fields. -/
lemma Takes.lastFill?_of_ne {w : Waiting String Typed} {steps steps' : List Step} {selector : String}
    (h : Takes w steps steps') (hne : selector ≠ w.key) : lastFill? steps' selector = lastFill? steps selector := by
  cases h with
  | update steps last habout =>
    have hsel := (isAbout_iff.1 habout).2
    have hnot : ∀ step : Step, step.selector = last.selector → ¬ isAbout .fill selector step = true := by
      intro step hs
      rw [isAbout_iff, hs, hsel]
      exact fun h => hne (Option.some.inj h.2).symm
    refine (lastFill?_append_of_not ?_).trans (lastFill?_append_of_not ?_).symm
    · exact hnot _ rfl
    · exact hnot _ rfl
  | append steps step hfills hnew =>
    refine lastFill?_append_of_not ?_
    rw [isAbout_iff, hfills.2.1]
    exact fun h => hne (Option.some.inj h.2).symm

/-- Once a text is recorded, the last step that fills its field shows it. -/
lemma Takes.shows {w : Waiting String Typed} {steps steps' : List Step} (h : Takes w steps steps') :
    Shows steps' w.key w.payload := by
  cases h with
  | update steps last habout =>
    exact ⟨_, lastFill?_append (isAbout_iff.2 (isAbout_iff.1 habout)), rfl, rfl⟩
  | append steps step hfills hnew =>
    exact ⟨step, lastFill?_append (isAbout_iff.2 ⟨hfills.1, hfills.2.1⟩), hfills.2.2.1, hfills.2.2.2⟩

/-! ### Every move keeps the texts -/

namespace Active.Keeps

/-- A text that waits is recorded. -/
lemma take (h : a.Keeps heard) {c : Clock Alarm} (hl : a.Linked c) {w : Waiting String Typed}
    (hw : w ∈ a.inputs.waiting) {steps : List Step} (hs : Takes w a.session.steps steps) :
    Active.Keeps { a.withSteps steps with inputs := a.inputs.drop w.key } heard := by
  intro selector typed hlast
  by_cases hsel : selector = w.key
  · subst hsel
    refine .inr ⟨fun v hv => (Debouncer.mem_drop.1 hv).2, ?_⟩
    obtain ⟨v, hv, hk, rfl⟩ | ⟨hno, -⟩ := h _ typed hlast
    · obtain rfl := hl.inputs.eq_of_key hv hw hk
      exact hs.shows
    · exact absurd rfl (hno w hw)
  · obtain ⟨v, hv, hk, rfl⟩ | ⟨hno, step, hstep, hshows⟩ := h _ typed hlast
    · exact .inl ⟨v, Debouncer.mem_drop.2 ⟨hv, hk ▸ hsel⟩, hk, rfl⟩
    · refine .inr ⟨fun v hv => hno v (Debouncer.mem_drop.1 hv).1, step, ?_, hshows⟩
      exact (hs.lastFill?_of_ne hsel).trans hstep

/-- The steps change while no text waits, but not the last one that fills a field that had a text. -/
lemma withSteps (h : a.Keeps heard) (hw : a.inputs.waiting = []) {steps : List Step}
    (hs : ∀ selector step, lastFill? a.session.steps selector = some step → lastFill? steps selector = some step) :
    (a.withSteps steps).Keeps heard := by
  intro selector typed hlast
  obtain ⟨v, hv, -⟩ | ⟨hno, step, hstep, hshows⟩ := h _ typed hlast
  · rw [hw] at hv
    cases hv
  · exact .inr ⟨hno, step, hs _ _ hstep, hshows⟩

/-- A step that fills no field is added. -/
lemma note (h : a.Keeps heard) {step : Step} (hk : step.kind ≠ .fill) :
    (a.withSteps (a.session.steps ++ [step])).Keeps heard := by
  intro selector typed hlast
  refine (h _ typed hlast).imp_right fun ⟨hno, last, hlast, hshows⟩ => ⟨hno, last, ?_, hshows⟩
  exact (lastFill?_append_of_not fun habout => hk (isAbout_iff.1 habout).1).trans hlast

/-- A text is kept. -/
lemma keepText (h : a.Keeps heard) (c : Clock Alarm) (key : String) (typed : Typed) :
    Active.Keeps { a with inputs := (a.inputs.schedule c c.now (.input key) key typed).1 }
      (heard ++ [(key, typed)]) := by
  intro selector typed' hlast
  rw [lastText?_append] at hlast
  simp only [Debouncer.waiting_schedule, List.mem_append, Debouncer.mem_drop, List.mem_singleton]
  split at hlast
  · rename_i hkey
    obtain rfl := Option.some.inj hlast
    exact .inl ⟨_, .inr rfl, hkey, rfl⟩
  · rename_i hkey
    obtain ⟨v, hv, hk, hp⟩ | ⟨hno, hshows⟩ := h _ typed' hlast
    · exact .inl ⟨v, .inl ⟨hv, fun e => hkey (e.symm.trans hk)⟩, hk, hp⟩
    · refine .inr ⟨?_, hshows⟩
      rintro v (⟨hv, -⟩ | rfl)
      · exact hno v hv
      · exact hkey

end Active.Keeps

/-- The session keeps the texts that were heard. -/
def Keeps (r : Recorder) (heard : List (String × Typed)) : Prop := ∃ a, r.active = some a ∧ a.Keeps heard

/-- **Every move keeps the texts**, unless the steps are edited by hand. -/
theorem Move.keeps (hm : Move may r r') (he : may.edits = false) (hl : r.Linked) (hk : r.Keeps heard) :
    r'.Keeps heard := by
  obtain ⟨a, ha, hk⟩ := hk
  have hla := hl.active a ha
  cases hm with
  | told notices => exact ⟨a, ha, hk⟩
  | attended onAdded onUpdated => exact ⟨a, ha, hk⟩
  | flushed notices h hr hw hs =>
    cases ha.symm.trans h
    exact ⟨_, rfl, hk.take hla (by simp [hw]) hs⟩
  | rung notices h hr hw hfirst hs =>
    cases ha.symm.trans h
    exact ⟨_, rfl, hk.take hla hw hs⟩
  | @acted _ step notices h hr hw hkind ht hf =>
    cases ha.symm.trans h
    refine ⟨_, rfl, hk.withSteps hw fun selector last hlast => ?_⟩
    -- a field that is filled with a form had no step that filled it
    refine (lastFill?_append_of_not fun habout => ?_).trans hlast
    obtain ⟨hfill, hsel⟩ := isAbout_iff.1 habout
    obtain ⟨hmem, hlasta⟩ := List.mem_filter.1 (List.mem_of_getLast? hlast)
    obtain ⟨hlastk, hlasts⟩ := isAbout_iff.1 hlasta
    exact hf hfill last hmem hlastk (hlasts.trans hsel.symm)
  | @rechosen _ steps last notices value h hw hs hkind =>
    cases ha.symm.trans h
    refine ⟨_, rfl, hk.withSteps hw fun selector fill hfill => ?_⟩
    have hnot : ∀ step : Step, step.kind = .select → ¬ isAbout .fill selector step = true := fun step hstep habout => by
      rw [(isAbout_iff.1 habout).1] at hstep
      cases hstep
    rw [hs, lastFill?_append_of_not (hnot last hkind)] at hfill
    refine (lastFill?_append_of_not ?_).trans hfill
    exact hnot _ hkind
  | noted notices h hr hkind ht =>
    cases ha.symm.trans h
    exact ⟨_, rfl, hk.note fun hf => by rw [hf] at hkind; cases hkind⟩
  | edited steps last notices h hedit =>
    rw [he] at hedit
    cases hedit
  | heeded payload h | settled h hw hfirst | counted h hi hc | idleSet delay h hn | idleCancelled h hn
  | idleRung h ht hta hfirst | paused h hw | resumed h hst =>
    cases ha.symm.trans h
    exact ⟨_, rfl, hk⟩
  | passed time hdue hb => exact ⟨a, ha, hk⟩

lemma Path.keeps (hp : Path may r r') (he : may.edits = false) (hl : r.Linked) (hk : r.Keeps heard) :
    r'.Keeps heard := by
  induction hp with
  | refl => exact hk
  | tail hp hm ih => exact hm.keeps he (Path.linked hp hl) ih

/-! ### Sessions -/

/-- The signal neither begins nor ends a session, nor edits its steps by hand. -/
def Signal.isRecorded (s : Signal) : Bool := s.isInner && !s.edits

/-- What such a session may do. -/
def anyTraffic : Leave := { back := true, counts := true }

lemma Signal.within_anyTraffic {s : Signal} (h : s.isRecorded = true) : s.Within anyTraffic := by
  simp only [isRecorded, Bool.and_eq_true, Bool.not_eq_true'] at h
  exact ⟨h.1, fun he => absurd he (by rw [h.2]; exact nofun), fun _ => rfl, fun _ => rfl⟩

/-- **The signals of a session keep its texts.** -/
theorem Keeps.obeyAll (signals : List Signal) (hs : ∀ s ∈ signals, s.isRecorded = true) (hl : r.Linked)
    (hk : r.Keeps heard) : (r.obeyAll signals).Linked ∧ (r.obeyAll signals).Keeps (heard ++ heardTexts r signals) := by
  induction signals generalizing r heard with
  | nil => exact ⟨hl, by rwa [heardTexts, List.append_nil]⟩
  | cons s rest ih =>
    rw [heardTexts, ← List.append_assoc]
    refine ih (fun t ht => hs t (List.mem_cons_of_mem _ ht)) (hl.obey_any s) ?_
    have hin := hs s List.mem_cons_self
    obtain ⟨selector, typed, ht, hobey⟩ | ⟨ht, hp⟩ := hl.obey (Signal.within_anyTraffic hin)
    · obtain ⟨a, ha, hr, hsince⟩ := Signal.text?_eq_some ht
      obtain ⟨b, hb, hk⟩ := hk
      cases ha.symm.trans hb
      rw [hobey, ht, keepText_eq ha]
      exact ⟨_, rfl, hk.keepText r.clock selector typed⟩
    · rw [ht]
      simpa using hp.keeps rfl hl hk

/-- Where no text waits, the steps show the texts that were heard. -/
lemma Active.Keeps.shows (h : a.Keeps heard) (hw : a.inputs.waiting = []) {selector : String} {typed : Typed}
    (hlast : lastText? heard selector = some typed) : Shows a.session.steps selector typed := by
  obtain ⟨v, hv, -⟩ | ⟨-, hshows⟩ := h _ typed hlast
  · rw [hw] at hv
    cases hv
  · exact hshows

/-- Where no text waits, there is no timer for one. -/
lemma Linked.no_input_timer (hl : r.Linked) (hc : r.texts = []) {t : Timer Alarm} (ht : t ∈ r.clock.timers)
    (selector : String) : t.alarm ≠ .input selector := by
  intro ha
  obtain ⟨a, h⟩ := hl.exists_active ht
  obtain ⟨w, hw, -⟩ := (hl.active a h).inputs.isOwn t ht selector ha
  rw [← texts_eq h, hc] at hw
  cases hw

/-- The end of a session, or a break in it. -/
inductive Signal.Rests : Signal → Prop
  | pause (p : Page) : Rests (.pause p)
  | stop (p : Page) : Rests (.stop p)

/-- **No text is lost.**  A session that has begun gets any signals but those that edit its steps by hand, and is then
paused or stopped, which does not fail.  Then no text waits and there is no timer for one, and for every field that got
a text, the last step that fills the field shows the last text. -/
theorem no_text_lost {r₀ : Recorder} (h₀ : Reachable r₀) {p : Page}
    (hstart : (Signal.start p).act.run r₀ = (.ok ⟨⟩, r)) {signals : List Signal}
    (hs : ∀ s ∈ signals, s.isRecorded = true) {last : Signal} (hlast : last.Rests)
    (hend : last.act.run (r.obeyAll signals) = (.ok ⟨⟩, r')) :
    r'.texts = [] ∧ (∀ t ∈ r'.clock.timers, ∀ selector, t.alarm ≠ .input selector) ∧
      ∃ session, r'.session? = some session ∧ ∀ selector typed,
        lastText? (heardTexts r signals) selector = some typed → Shows session.steps selector typed := by
  -- the session has begun
  have hbegun : r.Linked ∧ r.Keeps [] := by
    obtain ⟨s, hp, ⟨fault, hrun⟩ | ⟨hrun, -⟩⟩ := restart_leads {} p h₀.linked <;>
      rw [show (Signal.start p).act = Signal.restart p from rfl, hrun] at hstart <;> cases hstart
    exact ⟨(hp.linked h₀.linked).conclude.begun (conclude_active s) p, _, rfl, fun _ _ h => by cases h⟩
  obtain ⟨hl, hk⟩ := Keeps.obeyAll signals hs hbegun.1 hbegun.2
  rw [List.nil_append] at hk
  cases hlast with
  | pause q =>
    have hrun : (course anyTraffic).Runs (fun _ => True) (Signal.pause q).act fun _ => Calm :=
      .discard (pause_runs q)
    obtain ⟨h₁, h₂⟩ := hrun _ hl trivial
    rw [hend] at h₁ h₂
    have hl' := Path.linked h₁ hl
    obtain ⟨a, ha, hka⟩ := Path.keeps h₁ rfl hl hk
    have hcalm := h₂ _ rfl
    refine ⟨calm_iff.1 hcalm, fun t ht => hl'.no_input_timer (calm_iff.1 hcalm) ht, a.session, ?_, ?_⟩
    · rw [session?, show r'.active = some a from ha]
    · exact fun selector typed h => hka.shows (hcalm a ha) h
  | stop q =>
    rw [show (Signal.stop q).act = discard (stop q) from rfl, Course.run_discard] at hend
    obtain ⟨s, hp, ⟨fault, hrun⟩ | ⟨session, hrun, hcalm⟩⟩ := stop_leads anyTraffic q hl <;>
      rw [hrun] at hend <;> cases hend
    have hl' := (hp.linked hl).conclude
    obtain ⟨a, ha, hka⟩ := hp.keeps rfl hl hk
    have htexts : s.conclude.texts = [] := by simp [texts]
    refine ⟨htexts, fun t ht => hl'.no_input_timer htexts ht, { a.session with status := .stopped }, ?_, ?_⟩
    · simp [session?, conclude, ha]
    · exact fun selector typed h => hka.shows (hcalm a ha) h

/-! ### One text -/

/-- A page with one field. -/
def fieldPage : Page where
  url := "https://shop.test/"
  forest := {
    trees := [.element Dom.documentTag
      [.element ⟨1, "input", [("id", .text "q"), ("value", .text "lamp")]⟩ []]]
    nextId := 2 }

/-- The field of the page gets a text. -/
def fieldTyped : Signal := .hear fieldPage { type := "input", target := .element 1 }

/-- A session on the page, begun by a new recorder that leaves nothing alone. -/
def fieldSession : Recorder := ({ config := { ownSelectors := [] } } : Recorder).obey (.start fieldPage)

theorem text_of_field_kept :
    lastText? (heardTexts fieldSession [fieldTyped]) "#q" = some ⟨1, "lamp", 0⟩ ∧
      ∃ session, ((fieldSession.obey fieldTyped).obey (.stop fieldPage)).session? = some session ∧
        Shows session.steps "#q" ⟨1, "lamp", 0⟩ := by
  have htext : lastText? (heardTexts fieldSession [fieldTyped]) "#q" = some ⟨1, "lamp", 0⟩ := by decide +kernel
  obtain ⟨-, -, session, hsession, hshows⟩ := no_text_lost (p := fieldPage) (.fresh ⟨rfl, rfl, rfl, rfl⟩)
    (show (Signal.start fieldPage).act.run { config := { ownSelectors := [] } } = (.ok ⟨⟩, fieldSession) from rfl)
    (show ∀ s ∈ [fieldTyped], s.isRecorded = true by simp [fieldTyped, Signal.isRecorded, Signal.isInner, Signal.edits])
    (.stop fieldPage) (Prod.ext rfl rfl)
  exact ⟨htext, session, hsession, hshows _ _ htext⟩

end PageTape.Recorder
