import PageTape.Proofs.Course
import PageTape.Proofs.Locator.Discreet
import PageTape.Proofs.Recorder.Gesture

/-!
# What a recorder does not read on a page

On a page of which the elements were retouched discreetly, a recorder records a key, a click and a submit as on the
page before (`mirrors_hear`), if the selectors of the configuration do not ask for what a user has entered and each
field has the value that it had.
-/

namespace PageTape

open Dom (Location Retouch)

/-- The page with its elements retouched. -/
abbrev Page.retouch (p : Page) (g : Retouch) : Page := p.changeForest (·.retouch g)

namespace Recorder

variable {α β γ δ : Type} {config : Config} {g : Retouch} {p : Page} {l : Location}

/-- The selectors of the tools do not ask for the attributes that keep what a user has entered. -/
def Config.overlooks (config : Config) : Bool :=
  config.ownSelectors.all fun selector => match readSelectors selector with
    | .ok selectors => Css.allOverlook selectors
    | .error _ => true

/-! ### Programs that do the same -/

/-- For recorders of a configuration, which stays, `y` does what `x` does and answers `k` of what `x` answers. -/
def Mirrors (config : Config) (k : α → β) (x : Act α) (y : Act β) : Prop :=
  ∀ r : Recorder, r.config = config →
    (x.run r).2.config = config ∧ y.run r = ((x.run r).1.map k, (x.run r).2)

/-- A program keeps the configuration. -/
abbrev KeepsConfig (x : Act α) : Prop := (Course.still Recorder.config).Runs (fun _ => True) x fun _ _ => True

lemma KeepsConfig.mirrors {x : Act α} (h : KeepsConfig x) : Mirrors config id x x := by
  intro r hr
  refine ⟨(h r trivial trivial).1.trans hr, ?_⟩
  rcases x.run r with ⟨_ | _, _⟩ <;> rfl

namespace Mirrors

protected lemma pure (k : α → β) (a : α) : Mirrors config k (pure a) (pure (k a)) := fun _ hr => ⟨hr, rfl⟩

/-- Of what the first program answers it may be used that it does. -/
lemma bind_ok {k : α → β} {x : Act α} {y : Act β} {m : γ → δ} {f : α → Act γ} {f' : β → Act δ}
    (h : Mirrors config k x y) (hf : ∀ a r, (x.run r).1 = .ok a → Mirrors config m (f a) (f' (k a))) :
    Mirrors config m (x >>= f) (y >>= f') := by
  intro r hr
  obtain ⟨hx, hy⟩ := h r hr
  have hok := fun a => hf a r
  rw [Course.run_bind, Course.run_bind, hy]
  rcases hrun : x.run r with ⟨_ | a, t⟩ <;> rw [hrun] at hx hok
  · exact ⟨hx, rfl⟩
  · exact hok a rfl t hx

protected lemma bind {k : α → β} {x : Act α} {y : Act β} {m : γ → δ} {f : α → Act γ} {f' : β → Act δ}
    (h : Mirrors config k x y) (hf : ∀ a, Mirrors config m (f a) (f' (k a))) :
    Mirrors config m (x >>= f) (y >>= f') := h.bind_ok fun a _ _ => hf a

protected lemma get {m : γ → δ} {f : Recorder → Act γ} {f' : Recorder → Act δ}
    (hf : ∀ r, Mirrors config m (f r) (f' r)) : Mirrors config m (get >>= f) (get >>= f') :=
  Mirrors.bind (k := id) (fun _ hr => ⟨hr, rfl⟩) hf

protected lemma ite {c : Prop} [Decidable c] {k : α → β} {x x' : Act α} {y y' : Act β}
    (h : Mirrors config k x y) (h' : Mirrors config k x' y') :
    Mirrors config k (if c then x else x') (if c then y else y') := by
  split
  · exact h
  · exact h'

end Mirrors

/-! ### The configuration stays -/

section KeepsConfig

open Course (Runs)

lemma keepsConfig_of {x : Act α} (h : ∀ r, (x.run r).2.config = r.config) : KeepsConfig x := fun r _ _ =>
  ⟨h r, fun _ _ => trivial⟩

lemma addUserStep_config (step : Step) : KeepsConfig (addUserStep step) := keepsConfig_of fun r => by
  cases hrec : r.isRecording with
  | false => rw [addUserStep_idle hrec]
  | true =>
    obtain ⟨a, h, hr⟩ := isRecording_iff.1 hrec
    obtain ⟨notices, hrun, -⟩ := addUserStep_run h hr step
    rw [hrun]

lemma record_config (l : Option Location) (step : Step) : KeepsConfig (record l step) :=
  Runs.discard (addUserStep_config _)

lemma change_config (position : Nat) (f : Step → Step) : KeepsConfig (change position f) := by
  unfold change
  refine .bind_get fun r => ?_
  split
  · exact .pure fun _ _ _ => trivial
  · refine .bind (Q := fun _ _ => True) (.modify fun r _ _ => ⟨rfl, trivial⟩) fun _ => ?_
    refine (keepsConfig_of fun r => ?_).strengthen fun _ _ _ => trivial
    obtain ⟨notices, hrun⟩ := tell_run .updated position (f _) r
    rw [hrun]

lemma recordText_config (p : Page) (selector : String) (typed : Typed) : KeepsConfig (recordText p selector typed) := by
  unfold recordText
  refine .bind_get fun r => .ite (fun _ => .pure fun _ _ _ => trivial) fun _ => ?_
  split
  · refine .bind (Q := fun _ _ => True) (.modify fun r _ _ => ⟨rfl, trivial⟩) fun _ => ?_
    exact (change_config _ _).strengthen fun _ _ _ => trivial
  · exact (Runs.discard (addUserStep_config _)).strengthen fun _ _ _ => trivial

lemma takeText_config (selector : String) : KeepsConfig (takeText selector) := keepsConfig_of fun r => by
  unfold takeText
  rw [Course.run_modifyGet]
  dsimp only
  split
  · rfl
  · split <;> rfl

lemma recordWaiting_config (p : Page) (selector : String) : KeepsConfig (recordWaiting p selector) := by
  unfold recordWaiting
  refine .bind (takeText_config selector) fun typed => ?_
  split
  · exact recordText_config _ _ _
  · exact .pure fun _ _ _ => trivial

lemma recordAllWaiting_config (p : Page) : KeepsConfig (recordAllWaiting p) := by
  unfold recordAllWaiting
  refine .bind_get fun r => ?_
  split
  · refine Course.Runs.strengthen (fun _ _ _ => trivial) ?_
    exact Runs.forM (I := fun _ _ => True) (fun w _ => recordWaiting_config p w.key) _
  · exact .pure fun _ _ _ => trivial

end KeepsConfig

/-! ### Elements -/

lemma isOwn_location (hg : g.Discreet) (h : config.overlooks = true) (l : Location) :
    isOwn config (g.location l) = isOwn config l := by
  unfold Config.overlooks at h
  unfold isOwn
  generalize config.ownSelectors = selectors at h ⊢
  induction selectors with
  | nil => rfl
  | cons selector rest ih =>
    rw [List.all_cons, Bool.and_eq_true_iff] at h
    obtain ⟨hselector, hrest⟩ := h
    have hclosest : ((·.isSome) <$> (g.location l).closest? selector) = (·.isSome) <$> l.closest? selector := by
      unfold Location.closest?
      cases hread : readSelectors selector with
      | error fault => rfl
      | ok selectors =>
        rw [hread] at hselector
        show Except.ok (Css.closest? selectors (g.location l)).isSome = Except.ok (Css.closest? selectors l).isSome
        rw [Css.closest?_location hg hselector, Option.isSome_map]
    rw [List.anyM_cons, List.anyM_cons, hclosest, ih hrest]

lemma describe_location (hg : g.Discreet) (l : Location) (step : Step) :
    describe (g.location l) step = describe l step := by
  unfold describe
  rw [Locator.quick_location hg, Locator.smart_location hg, Locator.label?_location hg]

lemma fillStep_retouch (hg : g.Discreet) (p : Page) (selector : String) (typed : Typed) :
    fillStep (p.retouch g) selector typed = fillStep p selector typed := by
  unfold fillStep
  rw [show (p.retouch g).forest.locate? typed.element = (p.forest.locate? typed.element).map g.location
    from p.forest.locate?_retouch g typed.element]
  cases p.forest.locate? typed.element with
  | none => rfl
  | some l =>
    dsimp only [Option.map_some]
    rw [describe_location hg, g.tag_location, hg.isRequired]

/-- The texts that wait are recorded as before. -/
lemma recordAllWaiting_retouch (hg : g.Discreet) (p : Page) :
    recordAllWaiting (p.retouch g) = recordAllWaiting p := by
  unfold recordAllWaiting recordWaiting recordText
  simp only [fillStep_retouch hg]

lemma record_location (hg : g.Discreet) (l : Option Location) (step : Step) :
    record (l.map g.location) step = record l step := by
  cases l with
  | none => rfl
  | some l =>
    unfold record
    rw [Option.map_some]
    dsimp only
    rw [describe_location hg]

lemma locate?_element (p : Page) (g : Retouch) (event : Page.Event) :
    event.target.element?.bind (p.retouch g).forest.locate? =
      (event.target.element?.bind p.forest.locate?).map g.location := by
  cases event.target.element? with
  | none => rfl
  | some id => exact p.forest.locate?_retouch g id

/-- What an event comes from is an element of the page. -/
lemma mem_locations_of_accepted? {event : Page.Event} {r : Recorder}
    (h : ((accepted? p event).run r).1 = .ok (some l)) : l ∈ p.forest.locations := by
  obtain ⟨-, hl, -⟩ := accepted?_eq_some.1 h
  obtain ⟨id, -, hid⟩ := Option.bind_eq_some_iff.1 hl
  exact Dom.Forest.mem_locations_of_locate? hid

/-- A step of the time it is is recorded as before. -/
lemma mirrors_recordNow (hg : g.Discreet) (l : Location) (kind : StepKind) (f : Step → Step) :
    Mirrors config id (stepNow kind >>= fun step => record (some l) (f step))
      (stepNow kind >>= fun step => record (some (g.location l)) (f step)) := by
  refine .bind (k := id) (fun r hr => ⟨hr, rfl⟩) fun step => ?_
  rw [← Option.map_some, record_location hg]
  exact (record_config _ _).mirrors

section Mirrors

variable (hg : g.Discreet) (hc : config.overlooks = true)
include hg hc

lemma mirrors_leavesAlone (l : Location) : Mirrors config id (leavesAlone l) (leavesAlone (g.location l)) := by
  rintro r rfl
  rw [leavesAlone_run, leavesAlone_run, isOwn_location hg hc]
  refine ⟨rfl, ?_⟩
  cases isOwn r.config l <;> rfl

lemma mirrors_accepted? (p : Page) (event : Page.Event) :
    Mirrors config (Option.map g.location) (accepted? p event) (accepted? (p.retouch g) event) := by
  rintro r rfl
  rw [accepted?_run, accepted?_run, locate?_element]
  refine ⟨rfl, ?_⟩
  split
  · rfl
  · cases event.target.element?.bind p.forest.locate? with
    | none => rfl
    | some l =>
      simp only [Option.map_some, isOwn_location hg hc]
      cases isOwn r.config l with
      | error fault => rfl
      | ok own => cases own <;> rfl

/-- A key is recorded as before. -/
lemma mirrors_onKeyDown (p : Page) (event : Page.Event) :
    Mirrors config id (onKeyDown p event) (onKeyDown (p.retouch g) event) := by
  have hlast : ∀ l : Option Location, Mirrors config id
      (recordAllWaiting p >>= fun _ => stepNow .pressKey >>= fun step => record l { step with key := event.key })
      (recordAllWaiting (p.retouch g) >>= fun _ => stepNow .pressKey >>= fun step =>
        record (l.map g.location) { step with key := event.key }) := by
    intro l
    rw [recordAllWaiting_retouch hg]
    refine .bind (recordAllWaiting_config p).mirrors fun _ => .bind (k := id) (fun r hr => ⟨hr, rfl⟩) fun step => ?_
    rw [record_location hg]
    exact (record_config _ _).mirrors
  unfold onKeyDown
  refine .get fun r => .ite (.pure id _) ?_
  rw [locate?_element]
  cases event.target.element?.bind p.forest.locate? with
  | none => exact hlast none
  | some l => exact .bind (mirrors_leavesAlone hg hc l) fun own => .ite (.pure id _) (hlast (some l))

/-! ### Forms -/

omit hc in
lemma snapshot?_location (l : Location) (hv : (g.location l).value = l.value) (selector : String) (now : Int) :
    snapshot? (g.location l) selector now = snapshot? l selector now := by
  unfold snapshot?
  simp only [hv, g.tag_location, hg.controlKind?, hg.isChecked, hg.isRequired, describe_location hg]

lemma mirrors_recordFields (known : List String) (fields : List Location)
    (hv : ∀ l ∈ fields, (g.location l).value = l.value) :
    Mirrors config id (recordFields known fields) (recordFields known (fields.map g.location)) := by
  induction fields generalizing known with
  | nil => exact .pure id _
  | cons l rest ih =>
    obtain ⟨hl, hrest⟩ := List.forall_mem_cons.1 hv
    rw [List.map_cons]
    unfold recordFields
    refine .bind (mirrors_leavesAlone hg hc l) fun own => ?_
    rw [Locator.quick_location hg, hg.isVisible]
    refine .ite (ih known hrest) (.get fun r => ?_)
    rw [snapshot?_location hg l hl]
    cases snapshot? l (Locator.quick l) r.now with
    | none => exact ih known hrest
    | some step => exact .bind (addUserStep_config step).mirrors fun added => ih _ hrest

omit hc in
lemma formFields_location (form : Location) : formFields (g.location form) = (formFields form).map g.location := by
  unfold formFields
  exact Css.selectAll_location hg (by decide +kernel) form

lemma mirrors_recordForm (form : Location) (hv : ∀ l ∈ form.descendants, (g.location l).value = l.value) :
    Mirrors config id (recordForm form) (recordForm (g.location form)) := by
  unfold recordForm
  refine .get fun r => ?_
  rw [formFields_location hg]
  exact mirrors_recordFields hg hc _ _ fun l hl => hv l (List.mem_filter.1 hl).1

variable (hv : g.Steady p.forest)
include hv

/-- **A click is recorded as before.** -/
lemma mirrors_onClick (event : Page.Event) : Mirrors config id (onClick p event) (onClick (p.retouch g) event) := by
  unfold onClick
  refine (mirrors_accepted? hg hc p event).bind_ok fun found r hfound => ?_
  cases found with
  | none => exact .pure id _
  | some l =>
    have hl := mem_locations_of_accepted? hfound
    rw [Option.map_some]
    dsimp only
    rw [recordAllWaiting_retouch hg, g.tag_location, hg.isFormField, hg.textContent_location,
      Retouch.Discreet.lowerName, hg.inputType, Css.closest?_location hg rfl]
    refine .ite (.pure id _) (.bind (recordAllWaiting_config p).mirrors fun _ => .ite ?_ ?_)
    · cases hform : Css.closest? [Locator.named "form"] l with
      | none => exact mirrors_recordNow hg l .submit _
      | some form =>
        have hmem : form ∈ p.forest.locations := by
          rcases List.mem_cons.1 (List.mem_of_find?_eq_some hform) with rfl | hancestor
          · exact hl
          · exact Dom.Forest.mem_locations_ancestors hl hancestor
        have hfields := fun m hm => hv m (Dom.Forest.mem_locations_descendants hmem hm)
        exact .bind (mirrors_recordForm hg hc form hfields) fun _ => mirrors_recordNow hg l .submit _
    · exact mirrors_recordNow hg l .click _

/-- **A submit is recorded as before.** -/
lemma mirrors_onSubmit (event : Page.Event) : Mirrors config id (onSubmit p event) (onSubmit (p.retouch g) event) := by
  unfold onSubmit
  refine (mirrors_accepted? hg hc p event).bind_ok fun found r hfound => ?_
  cases found with
  | none => exact .pure id _
  | some form =>
    have hform := mem_locations_of_accepted? hfound
    rw [Option.map_some]
    dsimp only
    rw [recordAllWaiting_retouch hg, g.tag_location, hg.attr? (by decide)]
    refine .bind (recordAllWaiting_config p).mirrors fun _ => .get fun r => .ite (.pure id _) ?_
    have hfields := fun m hm => hv m (Dom.Forest.mem_locations_descendants hform hm)
    exact .bind (mirrors_recordForm hg hc form hfields) fun _ => mirrors_recordNow hg form .submit _

/-- **A click, a submit and a key are recorded as before.** -/
theorem mirrors_hear {event : Page.Event} (htype : event.type ∈ ["click", "submit", "keydown"]) :
    Mirrors config id (hear p event) (hear (p.retouch g) event) := by
  simp only [List.mem_cons, List.not_mem_nil, or_false] at htype
  rcases htype with htype | htype | htype <;> unfold hear <;> rw [htype]
  · show Mirrors config id (onClick p event) (onClick (p.retouch g) event)
    exact mirrors_onClick hg hc hv event
  · show Mirrors config id (onSubmit p event) (onSubmit (p.retouch g) event)
    exact mirrors_onSubmit hg hc hv event
  · show Mirrors config id (onKeyDown p event) (onKeyDown (p.retouch g) event)
    exact mirrors_onKeyDown hg hc p event

end Mirrors

end Recorder

end PageTape
