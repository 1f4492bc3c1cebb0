import PageTape.Proofs.Recorder.Twin.Asked

/-!
# What a tool does on a page is not recorded

Two runs of a recorder are beside each other if they differ in events from elements of a tool and in changes of such
elements only (`Stage.Beside`).  Then the recorder records the same in both (`beside_plain`), and stays a twin of itself
all along (`Twin.obey`, `Twin.obeyOwn`).  This is so under three conditions.  The elements of the page must be read the
same with and without those of the tool, which may not be if they are known by their place; the tool must not change its
elements while changes of the page wait to be looked at, since these would wait longer then (`traces_left`, for both);
and what it takes off the page must show no sign of loading, as the example at the end does.
-/

namespace PageTape.Recorder.Stage

open Dom (Id Location)

variable {K : Stage} {r r' r₀ : Recorder} {s s' : Signal} {l l' : List Signal}

/-! ### Signals -/

/-- **A signal from the tool alone**: an event from one of its elements, or changes that only add, change or remove such
elements, while no others wait to be looked at. -/
inductive Own (K : Stage) (r : Recorder) : Signal → Prop
  | hear {p : Page} {event : Page.Event} {l : Location} (htype : event.type ∉ windowEvents)
      (hl : targetOf? p event = some l) (hown : K.LeavesAlone l) : Own K r (.hear p event)
  | heed {changes : List Page.Mutation} (hown : ∀ m ∈ changes, K.isOwnChange m = true)
      (hnone : K.waitingChanges r = []) : Own K r (.heed changes)

/-- **The same signal**, on pages that are alike.  Changes of the page are the same but for those of the tool; time
passes until the same time. -/
inductive Same (K : Stage) (r r' : Recorder) : Signal → Signal → Prop
  | start {p p' : Page} (hp : K.Alike p p') : Same K r r' (.start p) (.start p')
  | pause {p p' : Page} (hp : K.Alike p p') : Same K r r' (.pause p) (.pause p')
  | resume : Same K r r' .resume .resume
  | stop {p p' : Page} (hp : K.Alike p p') : Same K r r' (.stop p) (.stop p')
  | clear : Same K r r' .clear .clear
  | hear {p p' : Page} {event : Page.Event} (hp : K.AlikeFor p p' event) : Same K r r' (.hear p event) (.hear p' event)
  | heed {changes changes' : List Page.Mutation} (hsame : K.pageChanges changes = K.pageChanges changes')
      (hknows : ∀ m ∈ K.pageChanges changes, K.Knows m) : Same K r r' (.heed changes) (.heed changes')
  | request {s : Signal} (hs : s.counts = true) : Same K r r' s s
  | addByHand {p p' : Page} (hp : K.Alike p p') (d : Datum) : Same K r r' (.addByHand p d) (.addByHand p' d)
  | removeStep (index : Int) : Same K r r' (.removeStep index) (.removeStep index)
  | updateStep (index : Int) (value : Option String) (waitTimeout : Option Int) :
    Same K r r' (.updateStep index value waitTimeout) (.updateStep index value waitTimeout)
  | callbacks (onAdded onUpdated : Reaction) : Same K r r' (.callbacks onAdded onUpdated) (.callbacks onAdded onUpdated)
  | noticed : Same K r r' .noticed .noticed
  | advance {p p' : Page} (hp : K.Alike p p') (ms : Rat) : Same K r r' (.advance p ms) (.advance p' ms)
  | runAll {p p' : Page} (hp : K.Alike p p') (hlatest : latest r.clock = latest r'.clock) :
    Same K r r' (.runAll p) (.runAll p')

lemma Twin.of_abreast {α β : Type} {ρ : α → β → Prop} {x : Act α} {y : Act β} (h : K.Twin r r')
    (hxy : Abreast K.Twin ρ x y) : K.Twin (x.run r).2 (y.run r').2 := (hxy r r' h).state

/-- **Twins stay twins** on the same signal. -/
theorem Twin.obey (h : K.Twin r r') (hs : K.Same r r' s s') : K.Twin (r.obey s) (r'.obey s') := by
  cases hs with
  | start hp => exact h.of_abreast (restart_abreast hp)
  | pause hp => exact h.of_abreast (pause_abreast hp).discard
  | resume => exact h.of_abreast resume_abreast.discard
  | stop hp => exact h.of_abreast (stop_abreast hp).discard
  | clear => exact h.of_abreast clear_abreast
  | hear hp => exact h.of_abreast (hear_abreast hp)
  | heed hsame hknows => exact h.heed hsame hknows
  | request hs =>
    cases s with
    | requestBegun => exact h.of_abreast requestBegun_abreast
    | requestEnded url method status => exact h.of_abreast (requestEnded_abreast url method status)
    | requestEndedIn serial url method status => exact h.of_abreast (requestEndedIn_abreast serial url method status)
    | requestOpened number url method => exact h.of_abreast (requestOpened_abreast number url method)
    | requestSent number => exact h.of_abreast (requestSent?_abreast number).discard
    | requestDone number serial url method status =>
      exact h.of_abreast (requestDone_abreast number serial url method status)
    | _ => cases hs
  | addByHand hp d => exact h.of_abreast (addByHand_abreast hp d).discard
  | removeStep index => exact h.of_abreast (removeStep_abreast index).discard
  | updateStep index value waitTimeout => exact h.of_abreast (updateStep_abreast index value waitTimeout).discard
  | callbacks onAdded onUpdated =>
    exact h.congr rfl rfl rfl rfl (congrArg (fun r : Recorder => { r with onAdded, onUpdated }) h.rest) rfl h.stopped
  | noticed => exact h.notices [] []
  | advance hp ms => exact h.of_abreast (advance_abreast hp ms)
  | runAll hp hlatest => exact (runAll_abreast hp h hlatest).state

/-- **Twins stay twins** if one of them has a signal from the tool alone. -/
theorem Twin.obeyOwn (h : K.Twin r r') (hs : K.Own r s) : K.Twin (r.obey s) r' := by
  cases hs with
  | @hear p event _ htype hl hown =>
    have hsame : r.obey (.hear p event) = r := congrArg Prod.snd (hear_own h.config htype hl hown)
    rwa [hsame]
  | heed hown hnone =>
    refine h.heedOwn (List.filter_eq_nil_iff.2 fun m hm => ?_) hnone
    simp [hown m hm]

/-! ### Runs -/

/-- **Runs beside each other**: they have the same signals in the same order, but for those from the tool alone. -/
inductive Beside (K : Stage) (r₀ : Recorder) : List Signal → List Signal → Prop
  | nil : Beside K r₀ [] []
  | both {l l' : List Signal} {s s' : Signal} (h : Beside K r₀ l l')
      (hs : K.Same (r₀.obeyAll l) (r₀.obeyAll l') s s') : Beside K r₀ (l ++ [s]) (l' ++ [s'])
  | left {l l' : List Signal} {s : Signal} (h : Beside K r₀ l l') (hs : K.Own (r₀.obeyAll l) s) :
    Beside K r₀ (l ++ [s]) l'
  | right {l l' : List Signal} {s : Signal} (h : Beside K r₀ l l') (hs : K.Own (r₀.obeyAll l') s) :
    Beside K r₀ l (l' ++ [s])

lemma obeyAll_snoc (r : Recorder) (l : List Signal) (s : Signal) : r.obeyAll (l ++ [s]) = (r.obeyAll l).obey s :=
  obeyAll_append r l [s]

/-- A recorder that has not been asked for anything yet is a twin of itself. -/
lemma Twin.fresh (h : r.Fresh) (hconfig : r.config = K.config) : K.Twin r r := by
  have hneat : r.Neat := ⟨.of_free h.active h.timers, by
    unfold Clock.Sorted
    rw [h.timers]
    exact .nil⟩
  refine ⟨⟨hneat, hneat, hconfig, rfl, rfl, ?_, rfl⟩, rfl⟩
  rw [h.active]
  exact .none

/-- The recorder of two runs beside each other is a twin of itself. -/
theorem Beside.twin (h : K.Beside r₀ l l') (hr₀ : r₀.Fresh) (hconfig : r₀.config = K.config) :
    K.Twin (r₀.obeyAll l) (r₀.obeyAll l') := by
  induction h with
  | nil => exact .fresh hr₀ hconfig
  | both _ hs ih =>
    rw [obeyAll_snoc, obeyAll_snoc]
    exact ih.obey hs
  | left _ hs ih =>
    rw [obeyAll_snoc]
    exact ih.obeyOwn hs
  | right _ hs ih =>
    rw [obeyAll_snoc]
    exact (ih.symm.obeyOwn hs).symm

lemma Similar.session? (h : K.Similar r r') : r.session?.map Session.plain = r'.session?.map Session.plain := by
  unfold Recorder.session?
  obtain ⟨ha, ha'⟩ | ⟨a, a', ha, ha', haa⟩ := h.sessions
  · rw [ha, ha']
    exact h.stopped
  · rw [ha, ha']
    exact congrArg some haa.session

/-- **What a tool does is not recorded**: in runs beside each other the same session is recorded, the same steps in the
same order, and each is the same in all but its alternative selectors. -/
theorem beside_plain (h : K.Beside r₀ l l') (hr₀ : r₀.Fresh) (hconfig : r₀.config = K.config) :
    (r₀.obeyAll l).session?.map Session.plain = (r₀.obeyAll l').session?.map Session.plain :=
  (h.twin hr₀ hconfig).session?

/-! ### A panel of a tool -/

/-- A page with a field, of which a tool may have a panel with a button and a field of its own; what is not on the page
lies beside it. -/
def pageWith (onPage beside : List Dom.Node) : Page where
  url := "https://shop.test/"
  forest := {
    trees := .element Dom.documentTag [.element ⟨1, "body", []⟩
      (.element ⟨2, "input", [("id", .text "q"), ("value", .text "lamp")]⟩ [] :: onPage)] :: beside
    nextId := 7 }

/-- The panel of the tool. -/
def panel : Dom.Node := .element ⟨3, "div", [("data-e2erec-ui", .text "")]⟩
  [.element ⟨4, "button", []⟩ [], .element ⟨5, "input", [("id", .text "note")]⟩ []]

/-- The panel and what is in it are of the tool, which takes the panel off the page. -/
def panelStage : Stage where
  config := {}
  own := [3, 4, 5]
  shed := [3]
  page := [2]

/-- The panel is shown, its button is clicked, it is looked at, and it is taken away, while a text is typed into the
field. -/
def panelRun : List Signal := [
  .start (pageWith [] []), .heed [⟨1, .children [3] []⟩],
  .hear (pageWith [panel] []) { type := "click", target := .element 4 },
  .hear (pageWith [panel] []) { type := "input", target := .element 2 },
  .advance (pageWith [panel] []) 450, .heed [⟨1, .children [] [3]⟩], .advance (pageWith [] [panel]) 1000]

/-- The text is typed into the field. -/
def bareRun : List Signal := [
  .start (pageWith [] []), .hear (pageWith [] []) { type := "input", target := .element 2 },
  .advance (pageWith [] []) 450, .advance (pageWith [] []) 1000]

/-- The two runs are beside each other. -/
lemma panelRun_beside : panelStage.Beside {} panelRun bareRun := by
  have hbare : panelStage.Alike (pageWith [] []) (pageWith [] []) := .of_check (by decide +kernel)
  have hpanel : panelStage.Alike (pageWith [panel] []) (pageWith [] []) := .of_check (by decide +kernel)
  have htaken : panelStage.Alike (pageWith [] [panel]) (pageWith [] []) := .of_check (by decide +kernel)
  have hclicked : (targetOf? (pageWith [panel] []) { type := "click", target := .element 4 }).map
      (isOwn panelStage.config) = some (.ok true) := by decide +kernel
  obtain ⟨l, hl, hown⟩ := Option.map_eq_some_iff.1 hclicked
  have htyped : panelStage.AlikeFor (pageWith [panel] []) (pageWith [] [])
      { type := "input", target := .element 2 } := {
    toAlike := hpanel
    target := by decide
    text := nofun
    form := by
      have hnone : ∀ l : Option Location, l.bind (formOf? "input") = none := fun l => by cases l <;> rfl
      rw [hnone, hnone]
      exact .none }
  have hstarted : panelStage.Beside {} [.start (pageWith [] [])] [.start (pageWith [] [])] := .both .nil (.start hbare)
  have hshown := hstarted.left (s := .heed [⟨1, .children [3] []⟩]) (.heed (by decide) (by decide +kernel))
  have hheard := (hshown.left (.hear (by decide) hl hown)).both (.hear htyped)
  have hwaited := hheard.both (.advance hpanel 450)
  have hgone := hwaited.left (s := .heed [⟨1, .children [] [3]⟩]) (.heed (by decide) (by decide +kernel))
  exact hgone.both (.advance htaken 1000)

/-- **The panel leaves no trace**: there is the step that opens the page, and the one that fills the field. -/
theorem panel_unseen : panelStage.Beside {} panelRun bareRun ∧
    (({} : Recorder).obeyAll panelRun).session?.map Session.plain =
        (({} : Recorder).obeyAll bareRun).session?.map Session.plain ∧
      (({} : Recorder).obeyAll panelRun).steps.map (·.kind) = [.navigate, .fill] :=
  ⟨panelRun_beside, beside_plain panelRun_beside ⟨rfl, rfl, rfl, rfl⟩ rfl, by decide +kernel⟩

/-! ### What a tool does change -/

/-- A page with a button, and what stands behind it. -/
def pageBehind (behind : List Dom.Node) : Page where
  url := "https://shop.test/"
  forest := {
    trees := [.element Dom.documentTag
      [.element ⟨1, "body", []⟩ (.element ⟨2, "button", []⟩ [.text .plain "Go"] :: behind)]]
    nextId := 4 }

/-- A button of a tool. -/
def toolButton : Dom.Node := .element ⟨3, "button", [("data-e2erec-ui", .text "")]⟩ []

/-- The button of the page is clicked, maybe after a tool has put its own behind it. -/
def clickRun (byTool : List Signal) (behind : List Dom.Node) : List Signal :=
  .start (pageBehind []) :: byTool ++ [.hear (pageBehind behind) { type := "click", target := .element 2 }]

/-- A field that the page adds. -/
def newField : Dom.Node := .element ⟨6, "input", [("id", .text "more")]⟩ []

/-- The page adds a field and is clicked half a second later, maybe after a tool has changed its panel. -/
def growRun (byTool : List Signal) : List Signal :=
  [.start (pageWith [] []), .heed [⟨1, .children [6] []⟩], .advance (pageWith [newField, panel] []) 300] ++ byTool ++
    [.advance (pageWith [newField, panel] []) 200,
      .hear (pageWith [newField, panel] []) { type := "click", target := .element 1 },
      .advance (pageWith [newField, panel] []) 1000]

/-- What a run has recorded: type, selector, value and label of each step. -/
def recordedBy (l : List Signal) : List (StepKind × Option String × Option String × Option String) :=
  (({} : Recorder).obeyAll l).steps.map fun s => (s.kind, s.selector, s.value, s.label)

lemma selectors_of_recordedBy (l : List Signal) :
    (recordedBy l).map (·.2.1) = (({} : Recorder).obeyAll l).steps.map (·.selector) := by
  simp [recordedBy, Function.comp_def]

lemma kinds_of_recordedBy (l : List Signal) :
    (recordedBy l).map (·.1) = (({} : Recorder).obeyAll l).steps.map (·.kind) := by
  simp [recordedBy, Function.comp_def]

/-- **What a tool changes leaves traces** in two ways.  A button that is known by its place has another selector once a
tool has put its own behind it; and the wait for a new field is put off, until after a click, if a tool changes its
panel while the new field waits to be looked at. -/
theorem traces_left :
    (((pageBehind [toolButton]).forest.locate? 3).map (isOwn {}) = some (.ok true) ∧
      recordedBy (clickRun [.heed [⟨1, .children [3] []⟩]] [toolButton]) ≠ recordedBy (clickRun [] [])) ∧
    ((pageWith [newField, panel] []).forest.locate? 3).map (isOwn {}) = some (.ok true) ∧
      recordedBy (growRun [.heed [⟨3, .attr "style"⟩]]) ≠ recordedBy (growRun []) := by
  refine ⟨⟨by decide +kernel, fun hsame => ?_⟩, by decide +kernel, fun hsame => ?_⟩
  · have hselectors := congrArg (List.map (·.2.1)) hsame
    rw [selectors_of_recordedBy, selectors_of_recordedBy] at hselectors
    have htold :
        (({} : Recorder).obeyAll (clickRun [.heed [⟨1, .children [3] []⟩]] [toolButton])).steps.map (·.selector) =
          [none, some "button:nth-of-type(1)"] := by decide +kernel
    have hbare : (({} : Recorder).obeyAll (clickRun [] [])).steps.map (·.selector) = [none, some "button"] := by
      decide +kernel
    rw [htold, hbare] at hselectors
    exact absurd hselectors (by decide)
  · have hkinds := congrArg (List.map (·.1)) hsame
    rw [kinds_of_recordedBy, kinds_of_recordedBy] at hkinds
    have hlate : (({} : Recorder).obeyAll (growRun [.heed [⟨3, .attr "style"⟩]])).steps.map (·.kind) =
      [.navigate, .click, .waitForElement] := by decide +kernel
    have hbare : (({} : Recorder).obeyAll (growRun [])).steps.map (·.kind) = [.navigate, .waitForElement, .click] := by
      decide +kernel
    rw [hlate, hbare] at hkinds
    exact absurd hkinds (by decide)

/-- A sign of loading that a tool takes off the page is waited for as one of the page. -/
example : (({} : Recorder).obeyAll [.start (pageWith [] []), .heed [⟨1, .children [] [3]⟩],
    .advance (pageWith [] [.element ⟨3, "div", [("data-e2erec-ui", .text ""), ("class", .text "spinner")]⟩ []])
      1000]).steps.map (·.kind) = [.navigate, .waitForHidden] := by
  decide +kernel

end PageTape.Recorder.Stage
