import PageTape.Proofs.Recorder.Twin.State

/-!
# What twins make of events

Of an event that comes from the same element of the page, two recorders that differ in what a tool does record the
same, and stay so (`hear_abreast`), if their pages are alike.  The programs of a recorder are followed side by side
along their texts, from the steps that they add up to the events.
-/

namespace PageTape.Recorder.Stage

open Dom (Id Location)

variable {K : Stage} {p p' : Page} {l l' : Location} {r r' : Recorder}

/-! ### Steps -/

lemma tell_abreast (callback : Callback) (n n' : Nat) (s s' : Step) :
    Abreast K.Twin (fun _ _ => True) (tell callback n s) (tell callback n' s') := by
  refine .bind_get fun r r' h => ?_
  have hadded : r.onAdded = r'.onAdded := (congrArg Recorder.onAdded h.rest :)
  have hupdated : r.onUpdated = r'.onUpdated := (congrArg Recorder.onUpdated h.rest :)
  have hnote : Abreast K.Twin (fun _ _ => True)
      (modify fun r => { r with notices := r.notices ++ [⟨callback, n, s⟩] } : Act Unit)
      (modify fun r => { r with notices := r.notices ++ [⟨callback, n', s'⟩] }) :=
    .modify fun r r' (h : K.Twin r r') => h.notices _ _
  rw [hadded, hupdated]
  cases callback <;> dsimp only <;> split
  · exact .pure trivial
  · exact hnote
  · exact hnote.bind fun _ _ _ => .throw
  · exact .pure trivial
  · exact hnote
  · exact hnote.bind fun _ _ _ => .throw

/-- The steps are changed in the same way. -/
lemma Twin.changeSteps (h : K.Twin r r') {f g : List Step → List Step}
    (hfg : ∀ l l', l.map Step.plain = l'.map Step.plain → (f l).map Step.plain = (g l').map Step.plain) :
    K.Twin (r.changeSteps f) (r'.changeSteps g) := by
  unfold Recorder.changeSteps
  obtain ⟨ha, ha'⟩ | ⟨a, a', ha, ha', haa⟩ := h.sessions
  · rwa [changeActive_of_none ha, changeActive_of_none ha']
  · rw [changeActive_of_some ha, changeActive_of_some ha']
    have hsteps := hfg _ _ (congrArg Session.steps haa.session :)
    have hseen : seen (K.awaitedChanges a) r.clock.plan = seen (K.awaitedChanges a') r'.clock.plan := h.seen_eq ha ha'
    exact ⟨h.put (h.neat.withSteps ha _) (h.neat'.withSteps ha' _)
      { haa with session := Session.plain_withSteps haa.session hsteps } hseen, h.time⟩

lemma add_abreast {s s' : Step} (hs : s.plain = s'.plain) : Abreast K.Twin Eq (add s) (add s') := by
  intro r r' h
  unfold add
  simp only [Course.run_bind, Course.run_get, ← h.isRecording]
  split
  · have hadded : K.Twin (r.changeSteps (· ++ [s])) (r'.changeSteps (· ++ [s'])) :=
      h.changeSteps fun l l' hl => by simp [hl, hs]
    exact ((tell_abreast .added r.steps.length r'.steps.length s s').bind fun _ _ _ => .pure rfl) _ _ hadded
  · exact .answered h rfl

lemma addUserStep_abreast {s s' : Step} (hs : s.plain = s'.plain) :
    Abreast K.Twin Eq (addUserStep s) (addUserStep s') := by
  have htime : s.timestamp = s'.timestamp := (congrArg Step.timestamp hs :)
  refine .bind_get fun r r' h => ?_
  rw [← h.isRecording, htime]
  split
  · exact (Abreast.modify fun r r' (h : K.Twin r r') => h.lastUserAction _).bind fun _ _ _ => add_abreast hs
  · exact add_abreast hs

/-- The same step is changed in the same way. -/
lemma change_abreast (n : Nat) {f g : Step → Step} (hfg : ∀ s s', s.plain = s'.plain → (f s).plain = (g s').plain) :
    Abreast K.Twin (fun _ _ => True) (change n f) (change n g) := by
  refine .bind_get fun r r' h => ?_
  have hstep : r.steps[n]?.map Step.plain = r'.steps[n]?.map Step.plain := by
    rw [← List.getElem?_map, ← List.getElem?_map, h.plain_steps]
  cases hs : r.steps[n]? <;> cases hs' : r'.steps[n]? <;> rw [hs, hs'] at hstep
  · exact .pure trivial
  · cases hstep
  · cases hstep
  · rename_i s s'
    have hfs : (f s).plain = (g s').plain := hfg s s' (Option.some.inj hstep)
    have hchanged : Abreast K.Twin (fun _ _ => True) (modify fun r => r.changeSteps (·.set n (f s)) : Act Unit)
        (modify fun r => r.changeSteps (·.set n (g s'))) :=
      .modify fun r r' (h : K.Twin r r') => h.changeSteps fun l l' hl => by rw [List.map_set, List.map_set, hl, hfs]
    exact hchanged.bind fun _ _ _ => tell_abreast _ _ _ _ _

/-- If the newest step says a thing of an element, it does so in both. -/
lemma Similar.newest_about (h : K.Similar r r') (kind : StepKind) (selector : String) :
    Option.Rel (fun x y => x.1 = y.1 ∧ x.2.plain = y.2.plain)
      (r.newest?.filter fun newest => isAbout kind selector newest.2)
      (r'.newest?.filter fun newest => isAbout kind selector newest.2) := by
  have habout : ∀ {s s' : Step}, s.plain = s'.plain → isAbout kind selector s = isAbout kind selector s' := by
    intro s s' hs
    have hkind : s.kind = s'.kind := (congrArg Step.kind hs :)
    have hselector : s.selector = s'.selector := (congrArg Step.selector hs :)
    simp [isAbout, hkind, hselector]
  have hnewest := h.newest?
  generalize r.newest? = x at hnewest ⊢
  generalize r'.newest? = y at hnewest ⊢
  cases hnewest with
  | none => exact .none
  | some hxy =>
    rename_i x y
    simp only [Option.filter, habout hxy.2]
    split
    · exact .some hxy
    · exact .none

/-! ### Elements -/

lemma leavesAlone_abreast (hl : viewOf K.config l = viewOf K.config l') :
    Abreast K.Twin Eq (leavesAlone l) (leavesAlone l') := by
  have hown : isOwn K.config l = isOwn K.config l' := (congrArg View.isOwn hl :)
  refine .bind_get fun r r' h => ?_
  rw [h.config, h.config', hown]
  cases isOwn K.config l' with
  | ok a => exact .pure rfl
  | error e => exact .throw

/-- Elements of the tool are left alone. -/
lemma leavesAlone_run (h : r.config = K.config) (hl : K.LeavesAlone l) : (leavesAlone l).run r = (.ok true, r) := by
  unfold leavesAlone
  rw [Course.run_bind, Course.run_get]
  dsimp only
  rw [h, hl]
  rfl

/-- A step at the time it is. -/
lemma stepNow_abreast (kind : StepKind) : Abreast K.Twin Eq (stepNow kind) (stepNow kind) :=
  .bind_get fun r r' h => by
    rw [h.now]
    exact .pure rfl

/-- The recorder reads the same of the elements, or there is none. -/
abbrev SameView (K : Stage) : Option Location → Option Location → Prop :=
  Option.Rel fun l l' => viewOf K.config l = viewOf K.config l'

lemma record_abreast {l l' : Option Location} (hl : K.SameView l l') {s s' : Step} (hs : s.plain = s'.plain) :
    Abreast K.Twin (fun _ _ => True) (record l s) (record l' s') := by
  cases hl with
  | none => exact (addUserStep_abreast hs).discard
  | some h => exact (addUserStep_abreast (plain_describe h hs)).discard

/-- A step at the time it is, of an element and with something said of it. -/
lemma recordNow_abreast {l l' : Option Location} (hl : K.SameView l l') (kind : StepKind) {f f' : Step → Step}
    (hf : ∀ s, (f s).plain = (f' s).plain) :
    Abreast K.Twin (fun _ _ => True) (stepNow kind >>= fun s => record l (f s))
      (stepNow kind >>= fun s => record l' (f' s)) :=
  (stepNow_abreast kind).bind fun s s' hs => by
    subst hs
    exact record_abreast hl (hf s)

/-! ### Texts -/

section Texts

variable (hp : K.Alike p p')
include hp

lemma plain_fillStep (selector : String) {typed : Typed} (ht : typed.element ∈ K.page) :
    (fillStep p selector typed).plain = (fillStep p' selector typed).plain := by
  have hview := hp.view typed.element ht
  unfold fillStep
  cases hl : p.forest.locate? typed.element <;> cases hl' : p'.forest.locate? typed.element <;>
    simp only [hl, hl', Option.map_none, Option.map_some, Option.some.injEq] at hview
  · rfl
  · cases hview
  · cases hview
  · rename_i l l'
    have htag : l.tag = l'.tag := (congrArg View.tag hview :)
    dsimp only
    rw [htag]
    exact plain_describe hview rfl

lemma recordText_abreast (selector : String) {typed : Typed} (ht : typed.element ∈ K.page) :
    Abreast K.Twin (fun _ _ => True) (recordText p selector typed) (recordText p' selector typed) := by
  refine .bind_get fun r r' h => ?_
  rw [← h.isRecording]
  refine .ite Iff.rfl (fun _ => .pure trivial) fun _ => ?_
  have habout := h.newest_about .fill selector
  generalize r.newest?.filter _ = x at habout ⊢
  generalize r'.newest?.filter _ = y at habout ⊢
  cases habout with
  | none => exact (addUserStep_abreast (plain_fillStep hp selector ht)).discard
  | some hxy =>
    rename_i x y
    obtain ⟨n, last⟩ := x
    obtain ⟨n', last'⟩ := y
    obtain rfl : n = n' := hxy.1
    refine (Abreast.modify fun r r' (h : K.Twin r r') => h.lastUserAction _).bind fun _ _ _ => ?_
    exact change_abreast n fun s s' hs => congrArg
      (fun s : Step => { s with value := some typed.value, timestamp := stampOf typed.since }) hs

end Texts

/-- The same text waits under a selector. -/
lemma SimilarSessions.find? {a a' : Active} (haa : K.SimilarSessions a a') (selector : String) :
    (a.inputs.find? selector).map (fun w => (w.key, w.payload)) =
      (a'.inputs.find? selector).map fun w => (w.key, w.payload) := by
  have hfind : ∀ b : Active, (b.inputs.find? selector).map (fun w => (w.key, w.payload)) =
      b.awaited.find? (·.1 == selector) := fun b => by
    unfold Active.awaited Debouncer.find?
    rw [List.find?_map]
    rfl
  rw [hfind, hfind, haa.texts]

lemma takeText_abreast (selector : String) :
    Abreast K.Twin (fun x y => x = y ∧ ∀ typed ∈ x, typed.element ∈ K.page) (takeText selector) (takeText selector) := by
  refine .modifyGet fun r r' h => ?_
  obtain ⟨ha, ha'⟩ | ⟨a, a', ha, ha', haa⟩ := h.sessions
  · rw [ha, ha']
    exact ⟨h, rfl, by simp⟩
  · have hfind := haa.find? selector
    simp only [ha, ha', Debouncer.take?]
    cases hw : a.inputs.find? selector <;> cases hw' : a'.inputs.find? selector <;>
      simp only [hw, hw', Option.map_none, Option.map_some, Option.some.injEq, Prod.mk.injEq] at hfind
    · exact ⟨h, rfl, by simp⟩
    · cases hfind
    · cases hfind
    · rename_i w w'
      obtain ⟨hmem, hk⟩ := Debouncer.mem_of_find? hw
      obtain ⟨hmem', hk'⟩ := Debouncer.mem_of_find? hw'
      subst hk
      have htaken := h.toSimilar.takeText ha ha' haa hmem hmem' hk' rfl rfl (h.neat.linked.sound.cancel _)
        (h.neat'.linked.sound.cancel _)
      rw [hk'] at htaken
      refine ⟨⟨htaken, h.time⟩, congrArg some hfind.2, fun typed ht => ?_⟩
      obtain rfl := Option.mem_some.1 ht
      exact haa.typed (w.key, w.payload) (List.mem_map_of_mem hmem)

section Texts

variable (hp : K.Alike p p')
include hp

lemma recordWaiting_abreast (selector : String) :
    Abreast K.Twin (fun _ _ => True) (recordWaiting p selector) (recordWaiting p' selector) :=
  (takeText_abreast selector).bind fun x y hxy => by
    obtain ⟨rfl, hpage⟩ := hxy
    cases x with
    | none => exact .pure trivial
    | some typed => exact recordText_abreast hp selector (hpage typed rfl)

lemma recordAllWaiting_abreast : Abreast K.Twin (fun _ _ => True) (recordAllWaiting p) (recordAllWaiting p') := by
  refine .bind_get fun r r' h => ?_
  obtain ⟨ha, ha'⟩ | ⟨a, a', ha, ha', haa⟩ := h.sessions
  · rw [ha, ha']
    exact .pure trivial
  · rw [ha, ha']
    -- the same texts wait, and they are recorded in the same order
    have hsame : ∀ (b : Active) (q : Page), b.inputs.waiting.forM (fun w => recordWaiting q w.key) =
        b.awaited.forM fun text => recordWaiting q text.1 := fun b q => by
      unfold Active.awaited
      induction b.inputs.waiting with
      | nil => rfl
      | cons w rest ih => exact congrArg (recordWaiting q w.key >>= fun _ => ·) ih
    show Abreast K.Twin _ (a.inputs.waiting.forM _) (a'.inputs.waiting.forM _)
    rw [hsame, hsame, ← haa.texts]
    exact .forM (List.forall₂_same.2 fun _ _ => rfl) fun text _ htext => htext ▸ recordWaiting_abreast hp text.1

end Texts

/-! ### Events -/

variable {event : Page.Event}

/-- The event comes from an element that the recorder reads the same of, or from none. -/
lemma AlikeFor.target_view (hp : K.AlikeFor p p' event) :
    (targetOf? p event).map (viewOf K.config) = (targetOf? p' event).map (viewOf K.config) := by
  unfold targetOf?
  cases hid : event.target.element? with
  | none => rfl
  | some id => exact hp.toAlike.view id (hp.target id hid)

/-- The event is heard from the same element by both, or by none, or both fail. -/
lemma accepted?_abreast {α : Type} {ρ : α → α → Prop} {f f' : Option Location → Act α} (hp : K.AlikeFor p p' event)
    (hnone : Abreast K.Twin ρ (f none) (f' none))
    (hsome : ∀ l l' r r', targetOf? p event = some l → targetOf? p' event = some l' →
      viewOf K.config l = viewOf K.config l' → r.isRecording = true → K.Twin r r' →
        EndAbreast K.Twin ρ ((f (some l)).run r) ((f' (some l')).run r')) :
    Abreast K.Twin ρ (accepted? p event >>= f) (accepted? p' event >>= f') := by
  intro r r' h
  have hview := hp.target_view
  unfold targetOf? at hview hsome
  rw [Course.run_bind, Course.run_bind, accepted?_run, accepted?_run, ← h.isRecording, h.config, h.config']
  cases hrec : r.isRecording with
  | false => exact hnone r r' h
  | true =>
    cases hl : event.target.element?.bind p.forest.locate? <;>
      cases hl' : event.target.element?.bind p'.forest.locate? <;>
      simp only [hl, hl', Option.map_none, Option.map_some, Option.some.injEq] at hview
    · exact hnone r r' h
    · cases hview
    · cases hview
    · rename_i l l'
      have hown : isOwn K.config l = isOwn K.config l' := (congrArg View.isOwn hview :)
      dsimp only
      rw [← hown]
      cases isOwn K.config l with
      | error fault => exact .failed h
      | ok own => cases own with
        | false => exact hsome l l' r r' hl hl' hview hrec h
        | true => exact hnone r r' h

/-! ### Controls -/

section Controls

variable (hp : K.Alike p p') (hl : viewOf K.config l = viewOf K.config l')
include hp hl

lemma recordChoice_abreast : Abreast K.Twin (fun _ _ => True) (recordChoice p l) (recordChoice p' l') := by
  have hselector : Locator.quick l = Locator.quick l' := (congrArg View.selector hl :)
  have hvalue : l.value = l'.value := (congrArg View.value hl :)
  have htag : l.tag = l'.tag := (congrArg View.tag hl :)
  unfold recordChoice
  dsimp only
  rw [hselector, hvalue, htag]
  refine (recordAllWaiting_abreast hp).bind fun _ _ _ => .bind_get fun r r' h => ?_
  have habout := h.newest_about .select (Locator.quick l')
  generalize r.newest?.filter _ = x at habout ⊢
  generalize r'.newest?.filter _ = y at habout ⊢
  cases habout with
  | none => exact recordNow_abreast (.some hl) .select fun _ => rfl
  | some hxy =>
    rename_i x y
    obtain ⟨n, last⟩ := x
    obtain ⟨n', last'⟩ := y
    obtain rfl : n = n' := hxy.1
    have hlast : last.value = last'.value := (congrArg Step.value hxy.2 :)
    dsimp only
    rw [hlast]
    refine .ite Iff.rfl (fun _ => change_abreast n fun s s' hs => ?_) fun _ => .pure trivial
    exact congrArg (fun s : Step => { s with value := some l'.value }) hs

lemma recordBox_abreast : Abreast K.Twin (fun _ _ => True) (recordBox p l) (recordBox p' l') := by
  have htag : l.tag = l'.tag := (congrArg View.tag hl :)
  unfold recordBox
  rw [htag]
  exact (recordAllWaiting_abreast hp).bind fun _ _ _ => recordNow_abreast (.some hl) _ fun _ => rfl

lemma recordRadio_abreast : Abreast K.Twin (fun _ _ => True) (recordRadio p l) (recordRadio p' l') := by
  have htag : l.tag = l'.tag := (congrArg View.tag hl :)
  have hvalue : l.value = l'.value := (congrArg View.value hl :)
  unfold recordRadio
  rw [htag, hvalue]
  exact (recordAllWaiting_abreast hp).bind fun _ _ _ => recordNow_abreast (.some hl) _ fun _ => rfl

omit hp in
/-- The text of a field waits in both. -/
lemma awaitText_abreast (h : K.Twin r r') (hrec : r.isRecording = true) (hpage : l.tag.id ∈ K.page) :
    EndAbreast K.Twin (fun _ _ => True) ((awaitText l).run r) ((awaitText l').run r') := by
  have hselector : Locator.quick l = Locator.quick l' := (congrArg View.selector hl :)
  have hvalue : l.value = l'.value := (congrArg View.value hl :)
  have htag : l.tag = l'.tag := (congrArg View.tag hl :)
  obtain ⟨a, ha, hstatus⟩ := isRecording_iff.1 hrec
  obtain ⟨ha', -⟩ | ⟨b, a', hb, ha', haa⟩ := h.sessions
  · cases ha.symm.trans ha'
  · obtain rfl := Option.some.inj (ha.symm.trans hb)
    rw [awaitText_run, awaitText_run, keepText_eq ha, keepText_eq ha', ← hselector, ← hvalue, ← htag, ← h.time]
    have hsince : (⟨l.tag.id, l.value, r.clock.now⟩ : Typed).since = r.clock.now := rfl
    have hkept := h.keepText ha ha' haa hstatus (Locator.quick l) hsince hpage
    rw [← h.time] at hkept
    exact .answered hkept trivial

end Controls

/-- An element that an event comes from takes part. -/
lemma AlikeFor.mem_page (hp : K.AlikeFor p p' event) (hl : targetOf? p event = some l) : l.tag.id ∈ K.page := by
  obtain ⟨id, hid, hlocate⟩ := Option.bind_eq_some_iff.1 hl
  rw [Dom.Forest.tag_id_of_locate? hlocate]
  exact hp.target id hid

section Events

variable (hp : K.AlikeFor p p' event)
include hp

lemma onInput_abreast : Abreast K.Twin (fun _ _ => True) (onInput p event) (onInput p' event) := by
  refine accepted?_abreast hp (.pure trivial) fun l l' r r' hl hl' hview hrec h => ?_
  have htag : l.tag = l'.tag := (congrArg View.tag hview :)
  dsimp only
  rw [← htag]
  cases controlKind? l.tag with
  | none => exact .answered h trivial
  | some kind => cases kind with
    | choice => exact recordChoice_abreast hp.toAlike hview r r' h
    | box => exact recordBox_abreast hp.toAlike hview r r' h
    | radio => exact recordRadio_abreast hp.toAlike hview r r' h
    | text => exact awaitText_abreast hview h hrec (hp.mem_page hl)

lemma onChange_abreast : Abreast K.Twin (fun _ _ => True) (onChange p event) (onChange p' event) := by
  refine accepted?_abreast hp (.pure trivial) fun l l' r r' hl hl' hview hrec h => ?_
  have htag : l.tag = l'.tag := (congrArg View.tag hview :)
  dsimp only
  rw [← htag]
  exact Abreast.ite Iff.rfl (fun _ => recordChoice_abreast hp.toAlike hview) (fun _ => .pure trivial) r r' h

end Events

/-! ### Forms -/

/-- The values of the fields are recorded, but for those of the tool. -/
lemma recordFields_abreast {fields fields' : List Location}
    (hfields : AlikeBut K.LeavesAlone (fun l l' => viewOf K.config l = viewOf K.config l') fields fields')
    (known : List String) :
    Abreast K.Twin (fun _ _ => True) (recordFields known fields) (recordFields known fields') := by
  have hskip : ∀ {l : Location} {rest : List Location} {known : List String} {r : Recorder}, r.config = K.config →
      K.LeavesAlone l → (recordFields known (l :: rest)).run r = (recordFields known rest).run r := by
    intro l rest known r hr hl
    rw [recordFields, Course.run_bind, leavesAlone_run hr hl]
    rfl
  induction hfields generalizing known with
  | nil => exact .pure trivial
  | left hl _ ih =>
    intro r r' h
    rw [hskip h.config hl]
    exact ih known r r' h
  | right hl _ ih =>
    intro r r' h
    rw [hskip h.config' hl]
    exact ih known r r' h
  | @both l l' rest rest' hview _ ih =>
    have hselector : Locator.quick l = Locator.quick l' := (congrArg View.selector hview :)
    have hvisible : l.isVisible = l'.isVisible := (congrArg View.isVisible hview :)
    unfold recordFields
    dsimp only
    rw [hselector, hvisible]
    refine (leavesAlone_abreast hview).bind fun own own' hown => ?_
    subst hown
    refine .ite Iff.rfl (fun _ => ih known) fun _ => .bind_get fun r r' h => ?_
    have hsnapshot := plain_snapshot? hview (Locator.quick l') r.now
    rw [← h.now]
    cases hs : snapshot? l (Locator.quick l') r.now <;> cases hs' : snapshot? l' (Locator.quick l') r.now <;>
      simp only [hs, hs', Option.map_none, Option.map_some, Option.some.injEq] at hsnapshot
    · exact ih known
    · cases hsnapshot
    · cases hsnapshot
    · refine (addUserStep_abreast hsnapshot).bind fun added added' hadded => ?_
      subst hadded
      exact ih _

lemma recordForm_abreast {form form' : Location} (hfields : K.SameFields form form') :
    Abreast K.Twin (fun _ _ => True) (recordForm form) (recordForm form') := by
  refine .bind_get fun r r' h => ?_
  have hknown : ∀ steps : List Step, (steps.filterMap fun step : Step =>
      if step.kind.givesValue then nonempty? step.selector else none) =
        (steps.map Step.plain).filterMap fun step : Step =>
          if step.kind.givesValue then nonempty? step.selector else none := fun steps => by
    rw [List.filterMap_map]
    rfl
  dsimp only
  rw [hknown r.steps, hknown r'.steps, h.plain_steps]
  exact recordFields_abreast hfields _

/-! ### Gestures -/

section Events

variable (hp : K.AlikeFor p p' event)
include hp

lemma onClick_abreast (htype : event.type = "click") :
    Abreast K.Twin (fun _ _ => True) (onClick p event) (onClick p' event) := by
  refine accepted?_abreast hp (.pure trivial) fun l l' r r' hl hl' hview hrec h => ?_
  have htag : l.tag = l'.tag := (congrArg View.tag hview :)
  have htext := hp.text htype
  have hform := hp.form
  rw [hl, hl', Option.map_some, Option.map_some, Option.some.injEq] at htext
  rw [hl, hl', htype, Option.bind_some, Option.bind_some] at hform
  unfold formOf? at hform
  dsimp only at hform ⊢
  rw [← htag] at hform ⊢
  rw [← htext]
  refine Abreast.ite Iff.rfl (fun _ => .pure trivial) (fun _ => ?_) r r' h
  refine (recordAllWaiting_abreast hp.toAlike).bind fun _ _ _ => ?_
  by_cases hsubmits : (l.tag.lowerName == "button" && l.tag.inputType == "submit") = true
  · rw [if_pos hsubmits, if_pos hsubmits] at hform ⊢
    generalize Css.closest? [Locator.named "form"] l = form at hform ⊢
    generalize Css.closest? [Locator.named "form"] l' = form' at hform ⊢
    cases hform with
    | none => exact recordNow_abreast (.some hview) .submit fun _ => rfl
    | some hfields =>
      exact (recordForm_abreast hfields).bind fun _ _ _ => recordNow_abreast (.some hview) .submit fun _ => rfl
  · rw [if_neg hsubmits, if_neg hsubmits]
    exact recordNow_abreast (.some hview) .click fun _ => rfl

lemma onSubmit_abreast (htype : event.type = "submit") :
    Abreast K.Twin (fun _ _ => True) (onSubmit p event) (onSubmit p' event) := by
  refine accepted?_abreast hp (.pure trivial) fun l l' r r' hl hl' hview hrec h => ?_
  have htag : l.tag = l'.tag := (congrArg View.tag hview :)
  have hform := hp.form
  rw [hl, hl', htype, Option.bind_some, Option.bind_some] at hform
  have hfields : K.SameFields l l' := by
    cases hform with
    | some hfields => exact hfields
  dsimp only
  rw [← htag]
  refine ((recordAllWaiting_abreast hp.toAlike).bind fun _ _ _ => .bind_get fun s s' hs => ?_) r r' h
  have hjust : hasJustSubmitted s = hasJustSubmitted s' := by
    have hnewest := hs.newest?
    unfold hasJustSubmitted
    rw [hs.now, hs.config_eq]
    generalize s.newest? = x at hnewest ⊢
    generalize s'.newest? = y at hnewest ⊢
    cases hnewest with
    | none => rfl
    | some hxy =>
      rename_i x y
      have hkind : x.2.kind = y.2.kind := (congrArg Step.kind hxy.2 :)
      have htime : x.2.timestamp = y.2.timestamp := (congrArg Step.timestamp hxy.2 :)
      simp only [Option.any_some, hkind, htime]
  rw [hjust]
  refine .ite Iff.rfl (fun _ => .pure trivial) fun _ => (recordForm_abreast hfields).bind fun _ _ _ => ?_
  exact recordNow_abreast (.some hview) .submit fun _ => rfl

lemma onKeyDown_abreast : Abreast K.Twin (fun _ _ => True) (onKeyDown p event) (onKeyDown p' event) := by
  have hview := hp.target_view
  refine .bind_get fun r r' h => ?_
  rw [← h.isRecording]
  refine .ite Iff.rfl (fun _ => .pure trivial) fun _ => ?_
  dsimp only
  unfold targetOf? at hview
  cases hl : event.target.element?.bind p.forest.locate? <;>
    cases hl' : event.target.element?.bind p'.forest.locate? <;>
    simp only [hl, hl', Option.map_none, Option.map_some, Option.some.injEq] at hview
  · exact (recordAllWaiting_abreast hp.toAlike).bind fun _ _ _ => recordNow_abreast .none .pressKey fun _ => rfl
  · cases hview
  · cases hview
  · refine (leavesAlone_abreast hview).bind fun own own' hown => ?_
    subst hown
    refine .ite Iff.rfl (fun _ => .pure trivial) fun _ => (recordAllWaiting_abreast hp.toAlike).bind fun _ _ _ => ?_
    exact recordNow_abreast (.some hview) .pressKey fun _ => rfl

end Events

lemma recordPage_abreast (hp : K.Alike p p') (kind : StepKind) {f f' : Step → Step}
    (hf : ∀ s s', s.plain = s'.plain → (f s).plain = (f' s').plain) :
    Abreast K.Twin (fun _ _ => True) (recordPage p kind f) (recordPage p' kind f') := by
  refine .bind_get fun r r' h => ?_
  rw [← h.isRecording, hp.url]
  refine .ite Iff.rfl (fun _ => .pure trivial) fun _ => (recordAllWaiting_abreast hp).bind fun _ _ _ => ?_
  exact recordNow_abreast .none kind fun s => hf _ _ rfl

/-- **Of an event from the page** both recorders make the same. -/
theorem hear_abreast (hp : K.AlikeFor p p' event) : Abreast K.Twin (fun _ _ => True) (hear p event) (hear p' event) := by
  unfold hear
  split
  · exact onInput_abreast hp
  · exact onChange_abreast hp
  · exact onClick_abreast hp ‹_›
  · exact onSubmit_abreast hp ‹_›
  · exact onKeyDown_abreast hp
  · exact recordPage_abreast hp.toAlike _ fun s s' hs => congrArg
      (fun s : Step => { s with label := some "Page navigation" }) hs
  · refine recordPage_abreast hp.toAlike _ fun s s' hs => ?_
    rw [hp.url]
    exact congrArg
      (fun s : Step => { s with value := some (Page.hashOf p'.url), label := some "URL hash changed" }) hs
  · exact recordPage_abreast hp.toAlike _ fun s s' hs => congrArg
      (fun s : Step => { s with label := some "URL changed (popstate)" }) hs
  · exact .pure trivial

/-- **Of an event from the tool** a recorder makes nothing. -/
theorem hear_own (hr : r.config = K.config) (htype : event.type ∉ windowEvents) (hl : targetOf? p event = some l)
    (hown : K.LeavesAlone l) : (hear p event).run r = (.ok ⟨⟩, r) := by
  have hnone : (accepted? p event).run r = (.ok none, r) := by
    unfold targetOf? at hl
    rw [accepted?_run, hl]
    dsimp only
    rw [hr, hown]
    cases r.isRecording <;> rfl
  unfold hear
  split
  · unfold onInput
    rw [Course.run_bind, hnone]
    rfl
  · unfold onChange
    rw [Course.run_bind, hnone]
    rfl
  · unfold onClick
    rw [Course.run_bind, hnone]
    rfl
  · unfold onSubmit
    rw [Course.run_bind, hnone]
    rfl
  · unfold targetOf? at hl
    unfold onKeyDown
    rw [Course.run_bind, Course.run_get]
    dsimp only
    rw [hl]
    split
    · rfl
    · dsimp only
      rw [Course.run_bind, leavesAlone_run hr hown]
      rfl
  · exact absurd (by simp [windowEvents, *]) htype
  · exact absurd (by simp [windowEvents, *]) htype
  · exact absurd (by simp [windowEvents, *]) htype
  · rfl

end PageTape.Recorder.Stage
