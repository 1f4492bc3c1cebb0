import PageTape.Proofs.Dom.Order
import PageTape.Proofs.Dom.Retouch
import PageTape.Proofs.Recorder.Signal

/-!
# Fields that appear

When the changes of a page have come to rest, a session that is recording waits for the fields that they have brought.
The same field may have been brought more than once, by itself and in others, and may be gone again or hidden.  It is
waited for the first that is to be seen on the page then, and all of them are counted, each once (`fields_awaited`).
-/

namespace PageTape

namespace Recorder

open Dom (Id Location)

variable {r : Recorder} {p : Page} {mutations : List Page.Mutation} {l m : Location} {ls : List Location}

/-! ### Fields to wait for -/

/-- An element and all elements in it, in their order. -/
def withContents (p : Page) (id : Id) : List Location :=
  match p.forest.locate? id with
  | some l => l :: l.descendants
  | none => []

/-- The elements that changes have added and all elements in them, in the order of the changes. -/
def gained (p : Page) (mutations : List Page.Mutation) : List Location :=
  mutations.flatMap fun m => m.added.flatMap (withContents p)

/-- A field that can be seen and does not belong to a tool. -/
def isOpenField (config : Config) (l : Location) : Bool :=
  l.tag.isFormField && l.isVisible && (isOwn config l).toOption == some false

/-- **The fields that changes have brought**: those on the page that can be seen and do not belong to a tool, among the
elements that were added and those in them, as often as they were added. -/
def appeared (config : Config) (p : Page) (mutations : List Page.Mutation) : List Location :=
  (gained p mutations).filter fun l => l.root.tag.isDocument && isOpenField config l

lemma known_gained (hd : p.forest.Distinct) : Location.Known (gained p mutations) := by
  have hmem : ∀ l ∈ gained p mutations, l ∈ p.forest.locations := fun l hl => by
    obtain ⟨m, -, hl⟩ := List.mem_flatMap.1 hl
    obtain ⟨id, -, hl⟩ := List.mem_flatMap.1 hl
    unfold withContents at hl
    split at hl
    · rename_i root hroot
      have hroot := Dom.Forest.mem_locations_of_locate? hroot
      rcases List.mem_cons.1 hl with rfl | hl
      · exact hroot
      · exact Dom.Forest.mem_locations_descendants hroot hl
    · cases hl
  exact fun l hl m hm heq => hd.eq (hmem l hl) (hmem m hm) heq

/-- An element and what is looked at in it, of which nothing is lost to a choice of fields. -/
lemma filter_grown {f : Location → Bool} (hf : ∀ l, f l = true → l.tag.isFormField = true) (id : Id) :
    (grown p id).filter f = (withContents p id).filter f := by
  unfold grown withContents
  cases p.forest.locate? id with
  | none => rfl
  | some l =>
    dsimp only
    rw [List.filter_cons, List.filter_cons, List.filter_filter]
    have hsame : ∀ m, (f m && m.tag.isFormField) = f m := fun m => by
      cases hm : f m with
      | false => rfl
      | true => rw [hf m hm]; rfl
    simp only [hsame]

lemma grown_subset (id : Id) : grown p id ⊆ withContents p id := by
  unfold grown withContents
  cases p.forest.locate? id with
  | none => exact List.Subset.refl _
  | some l => exact List.cons_subset_cons l (List.filter_subset_self _)

/-- **Each field that has appeared is found**, and only once. -/
lemma filter_brought (hd : p.forest.Distinct) (config : Config) (mutations : List Page.Mutation) :
    (brought p mutations).filter (isOpenField config) = Location.distinct [] (appeared config p mutations) := by
  have hsub : (mutations.flatMap fun m => m.added.flatMap (grown p)) ⊆ gained p mutations := fun l hl => by
    obtain ⟨m, hm, hl⟩ := List.mem_flatMap.1 hl
    obtain ⟨id, hid, hl⟩ := List.mem_flatMap.1 hl
    exact List.mem_flatMap.2 ⟨m, hm, List.mem_flatMap.2 ⟨id, hid, grown_subset id hl⟩⟩
  have hfilter : ∀ ids : List Id,
      (ids.flatMap (grown p)).filter (fun l => isOpenField config l && l.root.tag.isDocument) =
        (ids.flatMap (withContents p)).filter fun l => isOpenField config l && l.root.tag.isDocument := fun ids => by
    rw [List.filter_flatMap, List.filter_flatMap]
    refine congrArg (fun g => ids.flatMap g) (funext fun id => filter_grown (fun l hl => ?_) id)
    simp only [isOpenField, Bool.and_eq_true] at hl
    exact hl.1.1.1
  unfold brought appeared
  rw [List.filter_filter, Location.filter_distinct ((known_gained hd).mono hsub)]
  unfold gained
  rw [List.filter_flatMap, List.filter_flatMap]
  simp only [hfilter, Bool.and_comm]

/-! ### Selectors that cannot be read -/

lemma anyM_cons {selector : String} {rest : List String} {f : String → Except Fault Bool} :
    (selector :: rest).anyM f = f selector >>= fun b => if b = true then .ok true else rest.anyM f := by
  show (f selector >>= fun b => match b with | true => _ | false => _) = _
  refine bind_congr fun b => ?_
  cases b <;> rfl

/-- Whether a selector can be read does not depend on the element. -/
lemma isOwn_ok {config : Config} (h : isOwn config m = .ok false) (l : Location) : ∃ own, isOwn config l = .ok own := by
  unfold isOwn at h ⊢
  generalize config.ownSelectors = selectors at h ⊢
  induction selectors with
  | nil => exact ⟨false, rfl⟩
  | cons selector rest ih =>
    rw [anyM_cons] at h ⊢
    unfold Location.closest? at h ih ⊢
    cases hread : readSelectors selector with
    | error fault =>
      rw [hread] at h
      cases h
    | ok read =>
      rw [hread] at h
      change (if (Css.closest? read m).isSome = true then Except.ok true else _) = _ at h
      change ∃ own, (if (Css.closest? read l).isSome = true then Except.ok true else _) = Except.ok own
      split at h
      · cases h
      · split
        · exact ⟨true, rfl⟩
        · exact ih h

/-- The fields among elements that can be seen and do not belong to a tool; or a selector of the configuration cannot be
read, and then it is not known of any element that it does not belong to a tool. -/
lemma newFields_cases (ls : List Location) (r : Recorder) :
    (newFields ls).run r = (.ok (ls.filter (isOpenField r.config)), r) ∨
      (∃ fault, (newFields ls).run r = (.error fault, r)) ∧ ∀ l, isOpenField r.config l = false := by
  induction ls with
  | nil => exact .inl rfl
  | cons l rest ih =>
    unfold newFields
    by_cases hl : (l.tag.isFormField && l.isVisible) = true
    · rw [if_pos hl, Course.run_bind, leavesAlone_run, List.filter_cons]
      cases hown : isOwn r.config l with
      | error fault =>
        refine .inr ⟨⟨fault, rfl⟩, fun m => Bool.eq_false_iff.2 fun hm => ?_⟩
        simp only [isOpenField, Bool.and_eq_true, beq_iff_eq] at hm
        cases hm' : isOwn r.config m with
        | error => rw [hm'] at hm; cases hm.2
        | ok own =>
          obtain rfl : own = false := by simpa [hm', Except.toOption] using hm.2
          obtain ⟨own, hok⟩ := isOwn_ok hm' l
          rw [hown] at hok
          cases hok
      | ok own =>
        have hopen : isOpenField r.config l = !own := by
          simp only [isOpenField, hl, hown, Bool.true_and]
          cases own <;> rfl
        dsimp only
        rw [Course.run_bind]
        rcases ih with hrest | ⟨⟨fault, hrest⟩, hnone⟩
        · refine .inl ?_
          rw [hrest, hopen]
          cases own <;> rfl
        · exact .inr ⟨⟨fault, by rw [hrest]⟩, hnone⟩
    · have hclosed : ¬ isOpenField r.config l = true := fun hopen => hl (Bool.and_eq_true_iff.1 hopen).1
      rw [if_neg hl, List.filter_cons, if_neg hclosed]
      exact ih

/-! ### What is recorded -/

/-- A step is added while recording, and recording goes on. -/
lemma add_steps (h : r.isRecording = true) (step : Step) : ((add step).run r).2.steps = r.steps ++ [step] ∧
    ((add step).run r).2.isRecording = true := by
  obtain ⟨hnot, -⟩ | ⟨a, notices, ha, hr, hrun⟩ := add_cases step r
  · rw [h] at hnot
    cases hnot
  · rw [hrun, steps_of_active ha]
    exact ⟨rfl, isRecording_iff.2 ⟨_, rfl, hr⟩⟩

/-- Of the fields that have appeared the first is waited for, and told how many there are. -/
lemma noteFields_steps (hd : p.forest.Distinct) (h : r.isRecording = true) (mutations : List Page.Mutation) :
    ∃ waits : List Step, ((noteFields p mutations).run r).2.steps = r.steps ++ waits ∧
      ((noteFields p mutations).run r).2.isRecording = true ∧
      waits.map (fun step => (step.kind, step.selector, step.label)) =
        (appeared r.config p mutations).head?.toList.map fun first => (.waitForElement, some (Locator.quick first),
          some s!"Wait for {((appeared r.config p mutations).map (·.tag.id)).dedup.length} new field(s)") := by
  have hfound := filter_brought hd r.config mutations
  unfold noteFields
  rw [Course.run_bind]
  obtain hrun | ⟨⟨fault, hrun⟩, hnone⟩ := newFields_cases (brought p mutations) r
  · rw [hrun, hfound, ← Location.length_distinct, ← Location.head?_distinct]
    cases Location.distinct [] (appeared r.config p mutations) with
    | nil => exact ⟨[], by simp, h, rfl⟩
    | cons first rest =>
      dsimp only
      rw [Course.run_bind, Course.run_get]
      dsimp only
      rw [Course.run_discard]
      obtain ⟨hsteps, hrec⟩ := add_steps h (describe first {
        kind := .waitForElement, timestamp := r.now, label := some s!"Wait for {rest.length + 1} new field(s)"
        waitTimeout := some r.config.elementTimeout })
      exact ⟨_, hsteps, hrec, rfl⟩
  · have happeared : appeared r.config p mutations = [] := by
      unfold appeared
      exact List.filter_eq_nil_iff.2 fun l _ => by simp [hnone l]
    rw [hrun, happeared]
    exact ⟨[], by simp, h, rfl⟩

/-- It is waited for one sign of loading at most. -/
lemma noteLoaded_steps (h : r.isRecording = true) (p : Page) (mutations : List Page.Mutation) :
    ∃ gone : List Step, ((noteLoaded p mutations).run r).2.steps = r.steps ++ gone ∧ gone.length ≤ 1 ∧
      ∀ step ∈ gone, step.kind = .waitForHidden := by
  unfold noteLoaded
  split
  · exact ⟨[], by simp, Nat.zero_le 1, fun _ hmem => absurd hmem List.not_mem_nil⟩
  · rw [Course.run_bind, Course.run_get]
    dsimp only
    rw [Course.run_discard]
    refine ⟨_, (add_steps h _).1, le_rfl, fun step hstep => ?_⟩
    rw [List.mem_singleton.1 hstep]

/-! ### Changes that wait -/

/-- The changes of the page that have been heeded and have not come to rest. -/
def awaited (r : Recorder) : List Page.Mutation :=
  ((r.active.bind fun a => a.mutations.find? ()).map (·.payload)).getD []

/-- While recording all changes are kept, in their order. -/
lemma awaited_heed (h : r.isRecording = true) (mutations : List Page.Mutation) :
    (r.obey (.heed mutations)).awaited = r.awaited ++ mutations ∧ (r.obey (.heed mutations)).isRecording = true := by
  obtain ⟨a, ha, hr⟩ := isRecording_iff.1 h
  have hheed : r.obey (.heed mutations) = { r with
      clock := (a.mutations.schedule r.clock r.clock.now .mutations () (r.awaited ++ mutations)).2
      active := some { a with
        mutations := (a.mutations.schedule r.clock r.clock.now .mutations () (r.awaited ++ mutations)).1 } } := by
    show ((heed mutations).run r).2 = _
    unfold heed
    rw [Course.run_modify]
    simp [ha, h, awaited]
  rw [hheed]
  refine ⟨?_, isRecording_iff.2 ⟨_, rfl, hr⟩⟩
  have hgone : (a.mutations.drop ()).waiting = [] := by simp [Debouncer.drop]
  conv_lhs => unfold awaited Debouncer.find?
  dsimp only [Option.bind_some]
  rw [Debouncer.waiting_schedule, hgone]
  rfl

/-- **All changes that are heeded while recording wait together**, in their order. -/
theorem awaited_heedAll (h : r.isRecording = true) (batches : List (List Page.Mutation)) :
    (r.obeyAll (batches.map .heed)).awaited = r.awaited ++ batches.flatten := by
  induction batches generalizing r with
  | nil => simp [obeyAll]
  | cons mutations rest ih =>
    obtain ⟨hawaited, hrec⟩ := awaited_heed h mutations
    show ((r.obey (.heed mutations)).obeyAll (rest.map .heed)).awaited = _
    rw [ih hrec, hawaited, List.flatten_cons, List.append_assoc]

/-- **The fields that have appeared are waited for once the changes of the page have come to rest.**  The timer for the
changes that wait goes off while the session is recording.  Then there is a step that waits for an element if and only
if a field has appeared.  It is for the first that has, and tells how many there are, each counted once.  There is at
most one step that waits for a sign of loading to be gone, and no other. -/
theorem fields_awaited (hr : r.Reachable) (hd : p.forest.Distinct) {t : Timer Alarm} (ht : t ∈ r.clock.timers)
    (ha : t.alarm = .mutations) (hrec : r.isRecording = true) :
    ∃ waits gone, ((goOff p t.alarm).run { r with clock := r.clock.ring t }).2.steps = r.steps ++ waits ++ gone ∧
      waits.map (fun step => (step.kind, step.selector, step.label)) =
        (appeared r.config p r.awaited).head?.toList.map (fun first => (.waitForElement, some (Locator.quick first),
          some s!"Wait for {((appeared r.config p r.awaited).map (·.tag.id)).dedup.length} new field(s)")) ∧
      gone.length ≤ 1 ∧ ∀ step ∈ gone, step.kind = .waitForHidden := by
  obtain ⟨a, w, hactive, hw, -, hrun⟩ := wakeMutations_run p hr.linked ht ha
  have hawaited : r.awaited = w.payload := by
    have hfind := (hr.linked.active a hactive).mutations.find?_eq hw
    simp [awaited, hactive, hfind]
  rw [ha, show goOff p .mutations = wakeMutations p from rfl, hrun, Course.run_bind, Course.run_get]
  set s : Recorder := { r with
    clock := r.clock.ring t, active := some { a with mutations := a.mutations.drop w.key } } with hs
  have hsrec : s.isRecording = true := by
    rw [← hrec]
    simp [hs, isRecording, hactive]
  have hsteps : s.steps = r.steps := by simp [hs, steps, hactive]
  dsimp only
  rw [if_pos hsrec, Course.run_bind]
  obtain ⟨waits, hwaits, hwrec, hwait⟩ := noteFields_steps hd hsrec w.payload
  rw [hawaited]
  rcases hnote : (noteFields p w.payload).run s with ⟨fault | u, v⟩ <;> rw [hnote] at hwaits hwrec
  · exact ⟨waits, [], by simpa [hsteps] using hwaits, hwait, Nat.zero_le 1, fun _ hmem => absurd hmem List.not_mem_nil⟩
  · obtain ⟨gone, hgone, hone, hkind⟩ := noteLoaded_steps hwrec p w.payload
    refine ⟨waits, gone, ?_, hwait, hone, hkind⟩
    rw [← hsteps, ← hwaits]
    exact hgone

/-- A page with a form of two fields. -/
def grownPage : Page where
  url := "https://shop.test/"
  forest := {
    trees := [.element Dom.documentTag [.element ⟨1, "form", []⟩
      [.element ⟨2, "input", [("id", .text "q")]⟩ [], .element ⟨3, "input", [("id", .text "r")]⟩ []]]]
    nextId := 4 }

/-- One of the fields was added to the page, then it was taken away, and then the form was added with both fields. -/
def growth : List Page.Mutation :=
  [⟨0, .children [2] []⟩, ⟨0, .children [] [2]⟩, ⟨0, .children [1] []⟩]

/-- A session that has heeded this. -/
def grownSession : Recorder :=
  (({ config := { ownSelectors := [] } } : Recorder).obey (.start grownPage)).obey (.heed growth)

/-- The first field is waited for, and two are counted, though the first was added twice. -/
theorem grown_fields_awaited : ∃ t ∈ grownSession.clock.timers, grownSession.Reachable ∧ grownPage.forest.Distinct ∧
    t.alarm = .mutations ∧ grownSession.isRecording = true ∧
    ∃ waits gone, ((goOff grownPage t.alarm).run { grownSession with clock := grownSession.clock.ring t }).2.steps =
        grownSession.steps ++ waits ++ gone ∧
      waits.map (fun step => (step.kind, step.selector, step.label)) =
        [(.waitForElement, some "#q", some "Wait for 2 new field(s)")] := by
  have hreachable : grownSession.Reachable := .obey (.obey (.fresh ⟨rfl, rfl, rfl, rfl⟩) _) _
  have hdistinct : grownPage.forest.Distinct := by decide +kernel
  obtain ⟨t, ht, halarm⟩ : ∃ t ∈ grownSession.clock.timers, t.alarm = .mutations :=
    ⟨_, List.mem_cons_self, rfl⟩
  have hrecording : grownSession.isRecording = true := by decide +kernel
  obtain ⟨waits, gone, hsteps, hwaits, -⟩ := fields_awaited hreachable hdistinct ht halarm hrecording
  exact ⟨t, ht, hreachable, hdistinct, halarm, hrecording, waits, gone, hsteps, hwaits.trans (by decide +kernel)⟩

end Recorder

end PageTape
