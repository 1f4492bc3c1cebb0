import PageTape.Proofs.Recorder.Pass
import PageTape.Proofs.Recorder.Twin.Gesture

/-!
# What twins make of time that passes

As time passes, two recorders that differ in what a tool does record the same (`advance_abreast`).  The timers that count
go off in both, in the same order and at the same times (`goOff_abreast`).  A timer for changes of the tool alone goes
off in one of them and leaves no step (`hidden_goesOff`), so that the two need not be at the same time until all timers
have gone off that are due.

* `brought_alike`, `sign_eq` — the fields that changes of the page have brought, and the sign of loading that they have
  taken away, are those of the page;
* `noteFields_abreast`, `noteLoaded_abreast` — what is recorded of them;
* `noteFields_own`, `noteLoaded_own` — nothing is recorded of changes of the tool alone.
-/

namespace PageTape.Recorder.Stage

open Dom (Id Location)

variable {K : Stage} {p p' : Page} {r r' : Recorder} {a a' : Active} {changes changes' : List Page.Mutation}

/-! ### Fields and signs of loading -/

lemma added_own {m : Page.Mutation} (h : K.isOwnChange m = true) : ∀ id ∈ m.added, id ∈ K.own := by
  unfold isOwnChange at h
  unfold Page.Mutation.added
  cases hm : m.change with
  | attr name => exact nofun
  | children added removed =>
    rw [hm] at h
    simpa using (Bool.and_eq_true_iff.1 h).1

lemma removed_own {m : Page.Mutation} (h : K.isOwnChange m = true) : ∀ id ∈ m.removed, id ∈ K.shed := by
  unfold isOwnChange at h
  unfold Page.Mutation.removed
  cases hm : m.change with
  | attr name => exact nofun
  | children added removed =>
    rw [hm] at h
    simpa using (Bool.and_eq_true_iff.1 h).2

/-- The same elements of the page have been changed, and besides them only those of the tool. -/
lemma ids_alike (hsame : K.pageChanges changes = K.pageChanges changes') (hknows : ∀ m ∈ K.pageChanges changes, K.Knows m)
    {f : Page.Mutation → List Id} {own : List Id} (hown : ∀ m, K.isOwnChange m = true → ∀ id ∈ f m, id ∈ own)
    (hpage : ∀ m, K.Knows m → ∀ id ∈ f m, id ∈ own ∨ id ∈ K.page) :
    AlikeBut (· ∈ own) (fun id id' => id = id' ∧ id ∈ K.page) (changes.flatMap f) (changes'.flatMap f) := by
  have hchanges := AlikeBut.of_filter_eq hsame hknows
  refine hchanges.flatMap (fun m hm => hown m (by simpa using hm)) (fun m hm => hown m (by simpa using hm)) ?_
  rintro m _ ⟨rfl, hm⟩
  exact .of_self fun id hid => (hpage m hm id hid).imp_right fun h => ⟨rfl, h⟩

/-- What was seen before in either list does not matter, but for elements of the page. -/
lemma distinct_alike {l l' : List Location} (h : AlikeBut K.Skips K.Matches l l') {seen seen' : List Id}
    (hseen : ∀ id ∉ K.own, (id ∈ seen ↔ id ∈ seen')) :
    AlikeBut K.Skips K.Matches (Location.distinct seen l) (Location.distinct seen' l') := by
  have hmore : ∀ {l : Location} {seen seen' : List Id}, K.Skips l → (∀ id ∉ K.own, (id ∈ seen ↔ id ∈ seen')) →
      ∀ id ∉ K.own, (id ∈ l.tag.id :: seen ↔ id ∈ seen') := fun hl hseen id hid => by
    rw [List.mem_cons, hseen id hid]
    exact or_iff_right fun e => hid (e ▸ hl.1)
  induction h generalizing seen seen' with
  | nil => exact .nil
  | left hl _ ih =>
    rw [Location.distinct]
    split
    · exact ih hseen
    · exact .left hl (ih (hmore hl hseen))
  | right hl _ ih =>
    rw [Location.distinct]
    split
    · exact ih hseen
    · exact .right hl (ih fun id hid => (hmore hl (fun id hid => (hseen id hid).symm) id hid).symm)
  | @both l l' _ _ hl _ ih =>
    have hcontains : seen.contains l.tag.id = seen'.contains l'.tag.id := by
      rw [Bool.eq_iff_iff, List.contains_iff_mem, List.contains_iff_mem, ← hl.tag]
      exact hseen _ hl.page
    rw [Location.distinct, Location.distinct, hcontains]
    split
    · exact ih hseen
    · exact .both hl (ih fun id hid => by rw [List.mem_cons, List.mem_cons, ← hl.tag, hseen id hid])

/-- The elements are the same; if they are fields, the recorder reads the same of them. -/
structure SameField (K : Stage) (l l' : Location) : Prop where
  tag : l.tag = l'.tag
  view : l.tag.isFormField = true → viewOf K.config l = viewOf K.config l'

section Changes

variable (hp : K.Alike p p') (hsame : K.pageChanges changes = K.pageChanges changes')
  (hknows : ∀ m ∈ K.pageChanges changes, K.Knows m)
include hp hsame hknows

/-- Changes have brought the same elements, but for those of the tool. -/
lemma brought_alike : AlikeBut K.LeavesAlone K.SameField (brought p changes) (brought p' changes') := by
  have hids := ids_alike hsame hknows (fun _ => added_own) fun _ hm => hm.added
  have hgrown : AlikeBut K.Skips K.Matches ((changes.flatMap (·.added)).flatMap (grown p))
      ((changes'.flatMap (·.added)).flatMap (grown p')) := by
    refine hids.flatMap (fun id hid => (hp.own id hid).1) (fun id hid => (hp.own id hid).2) ?_
    rintro id _ ⟨rfl, hid⟩
    exact hp.grown id hid
  rw [List.flatMap_assoc, List.flatMap_assoc] at hgrown
  refine (distinct_alike hgrown fun _ _ => Iff.rfl).filter (fun l l' hl => hl.isDocument) (fun l hl hskips => ?_)
    fun l l' _ hl => ⟨hl.tag, hl.view⟩
  exact hskips.2 hl

/-- The same sign of loading is gone. -/
lemma sign_eq : (removed p changes).findSome? goneSelector? = (removed p' changes').findSome? goneSelector? := by
  have hids := ids_alike hsame hknows (fun _ => removed_own) fun _ hm => hm.removed
  have hsign : ∀ (q : Page) (changes : List Page.Mutation),
      (removed q changes).findSome? goneSelector? = (changes.flatMap (·.removed)).findSome? (signOf? q) := by
    intro q changes
    unfold removed signOf?
    rw [← List.head?_filterMap, ← List.head?_filterMap, ← List.filterMap_flatMap, List.filterMap_filterMap]
  rw [hsign, hsign]
  refine hids.findSome?_eq (fun id hid => (hp.shed id hid).1) (fun id hid => (hp.shed id hid).2) ?_
  rintro id _ ⟨rfl, hid⟩
  exact hp.sign id hid

end Changes

/-! ### What is recorded of changes -/

/-- Elements of the tool are no new fields. -/
lemma newFields_skip {l : Location} {rest : List Location} (hr : r.config = K.config) (hl : K.LeavesAlone l) :
    (newFields (l :: rest)).run r = (newFields rest).run r := by
  rw [newFields]
  split
  · rw [Course.run_bind, leavesAlone_run hr hl]
    dsimp only
    rw [Course.run_bind]
    rcases (newFields rest).run r with ⟨_ | _, _⟩ <;> rfl
  · rfl

/-- The new fields are the same. -/
lemma newFields_abreast {ls ls' : List Location} (h : AlikeBut K.LeavesAlone K.SameField ls ls') :
    Abreast K.Twin (List.Forall₂ fun l l' => viewOf K.config l = viewOf K.config l') (newFields ls) (newFields ls') := by
  induction h with
  | nil => exact .pure .nil
  | left hl _ ih =>
    intro r r' hr
    rw [newFields_skip hr.config hl]
    exact ih r r' hr
  | right hl _ ih =>
    intro r r' hr
    rw [newFields_skip hr.config' hl]
    exact ih r r' hr
  | @both l l' rest rest' hl _ ih =>
    rw [newFields, newFields, ← hl.tag]
    cases hfield : l.tag.isFormField with
    | false => exact ih
    | true =>
      have hview := hl.view hfield
      have hvisible : l.isVisible = l'.isVisible := (congrArg View.isVisible hview :)
      rw [hvisible]
      refine .ite Iff.rfl (fun _ => (leavesAlone_abreast hview).bind fun own own' hown => ?_) fun _ => ih
      subst hown
      refine ih.bind fun more more' hmore => .pure ?_
      cases own with
      | true => exact hmore
      | false => exact .cons hview hmore

section Changes

variable (hp : K.Alike p p') (hsame : K.pageChanges changes = K.pageChanges changes')
  (hknows : ∀ m ∈ K.pageChanges changes, K.Knows m)
include hp hsame hknows

lemma noteFields_abreast : Abreast K.Twin (fun _ _ => True) (noteFields p changes) (noteFields p' changes') := by
  refine (newFields_abreast (brought_alike hp hsame hknows)).bind fun fields fields' hfields => ?_
  cases hfields with
  | nil => exact .pure trivial
  | cons hview hrest =>
    refine .bind_get fun r r' h => (add_abreast (plain_describe hview ?_)).discard
    rw [h.now, h.config_eq, hrest.length_eq]

lemma noteLoaded_abreast : Abreast K.Twin (fun _ _ => True) (noteLoaded p changes) (noteLoaded p' changes') := by
  unfold noteLoaded
  rw [sign_eq hp hsame hknows]
  split
  · exact .pure trivial
  · refine .bind_get fun r r' h => (add_abreast ?_).discard
    rw [h.now, h.config_eq]

end Changes

section Own

variable (hp : K.Alike p p') (hown : K.pageChanges changes = [])
include hp hown

/-- No field is recorded of changes of the tool alone. -/
lemma noteFields_own (hr : r.config = K.config) : (noteFields p changes).run r = (.ok ⟨⟩, r) := by
  have hnone : K.pageChanges changes = K.pageChanges [] := hown
  have hbrought : ∀ l ∈ brought p changes, K.LeavesAlone l :=
    (brought_alike hp hnone (by rw [hown]; exact nofun)).forall_left
  have hfields : (newFields (brought p changes)).run r = (.ok [], r) := by
    generalize brought p changes = ls at hbrought
    induction ls with
    | nil => rfl
    | cons l rest ih =>
      obtain ⟨hl, hrest⟩ := List.forall_mem_cons.1 hbrought
      rw [newFields_skip hr hl]
      exact ih hrest
  unfold noteFields
  rw [Course.run_bind, hfields]
  rfl

/-- No sign of loading is recorded of changes of the tool alone. -/
lemma noteLoaded_own : (noteLoaded p changes).run r = (.ok ⟨⟩, r) := by
  have hnone : K.pageChanges changes = K.pageChanges [] := hown
  have hsign : (removed p changes).findSome? goneSelector? = none := sign_eq hp hnone (by rw [hown]; exact nofun)
  unfold noteLoaded
  rw [hsign]
  rfl

end Own

/-! ### Timers that go off -/

/-- What is known of the network is changed in both, but for the timer. -/
lemma Twin.changeTraffic (h : K.Twin r r') {f g : Traffic → Traffic} (hf : ∀ t, (f t).idleTimer = t.idleTimer)
    (hg : ∀ t, (g t).idleTimer = t.idleTimer)
    (hfg : ∀ t t', t.unnumbered = t'.unnumbered → (f t).unnumbered = (g t').unnumbered) :
    K.Twin (r.changeTraffic f) (r'.changeTraffic g) := by
  obtain ⟨ha, ha'⟩ | ⟨a, a', ha, ha', haa⟩ := h.sessions
  · rwa [changeTraffic_of_none ha, changeTraffic_of_none ha']
  · rw [changeTraffic_of_some ha, changeTraffic_of_some ha']
    have hseen : seen (K.awaitedChanges a) r.clock.plan = seen (K.awaitedChanges a') r'.clock.plan := h.seen_eq ha ha'
    exact ⟨h.put (h.neat.withTraffic ha _ (hf _)) (h.neat'.withTraffic ha' _ (hg _))
      { haa with traffic := hfg _ _ haa.traffic } hseen, h.time⟩

lemma noteIdle_abreast : Abreast K.Twin (fun _ _ => True) noteIdle noteIdle := by
  refine .bind_get fun r r' h => ?_
  have hlast : r.lastUserActionAt = r'.lastUserActionAt := (congrArg Recorder.lastUserActionAt h.rest :)
  rw [h.config_eq, h.time, h.now, hlast]
  refine .ite Iff.rfl (fun _ => .pure trivial) fun _ => (add_abreast rfl).bind fun added added' hadded => ?_
  subst hadded
  refine .ite Iff.rfl (fun _ => .modify fun r r' h => ?_) fun _ => .pure trivial
  exact h.changeTraffic (fun _ => rfl) (fun _ => rfl) fun t t' ht =>
    congrArg (fun t : Traffic => { t with settledSinceIdle := false }) ht

/-- All changes that wait are kept in one place. -/
lemma awaitedChanges_eq (hl : r.Linked) (ha : r.active = some a) {w : Waiting Unit (List Page.Mutation)}
    (hw : w ∈ a.mutations.waiting) : K.awaitedChanges a = K.pageChanges w.payload := by
  have hnodup := (hl.active a ha).mutations.nodup
  have hall : a.mutations.waiting = [w] := by
    match hwaiting : a.mutations.waiting with
    | [] => simp [hwaiting] at hw
    | [v] =>
      rw [hwaiting, List.mem_singleton] at hw
      rw [hw]
    | v :: v' :: rest => simp [hwaiting] at hnodup
  simp [awaitedChanges, hall]

section GoOff

variable (hp : K.Alike p p') (h : K.Similar r r') {t t' : Timer Alarm} (ht : t ∈ r.clock.timers)
  (hfirst : ∀ u ∈ r.clock.timers, t.Ahead u)
include hp h ht hfirst

/-- **The same timer goes off** in both. -/
lemma goOff_abreast (ht' : t' ∈ r'.clock.timers) (hfirst' : ∀ u ∈ r'.clock.timers, t'.Ahead u) (hdue : t.due = t'.due)
    (halarm : t.alarm = t'.alarm) :
    EndAbreast K.Twin (fun _ _ => True) ((goOff p t.alarm).run { r with clock := r.clock.ring t })
      ((goOff p' t'.alarm).run { r' with clock := r'.clock.ring t' }) := by
  have hl := h.neat.linked
  have hl' := h.neat'.linked
  have hs : (r.clock.ring t).Sound := hl.sound.ring hfirst
  have hs' : (r'.clock.ring t').Sound := hl'.sound.ring hfirst'
  have hsessions {a a' : Active} (ha : r.active = some a) (ha' : r'.active = some a') : K.SimilarSessions a a' := by
    have hactive := h.active
    rw [ha, ha'] at hactive
    cases hactive with
    | some haa => exact haa
  rw [← halarm]
  cases hta : t.alarm with
  | input k =>
    obtain ⟨a, w, ha, hw, rfl, htw, hrun⟩ := wakeText_taken p hl ht hta
    obtain ⟨a', w', ha', hw', hk', htw', hrun'⟩ := wakeText_taken p' hl' ht' (halarm ▸ hta)
    have haa := hsessions ha ha'
    have hpayload : w.payload = w'.payload := by
      have hfind := haa.find? w.key
      rw [(hl.active a ha).inputs.find?_eq hw, ← hk', (hl'.active a' ha').inputs.find?_eq hw'] at hfind
      exact (congrArg Prod.snd (Option.some.inj hfind) :)
    have hring : (r.clock.ring t).timers = (r.clock.cancel w.timer).timers := by rw [htw]; rfl
    have hring' : (r'.clock.ring t').timers = (r'.clock.cancel w'.timer).timers := by rw [htw']; rfl
    have htaken := h.takeText ha ha' haa hw hw' hk' hring hring' hs hs'
    show EndAbreast K.Twin _ ((wakeText p w.key).run _) ((wakeText p' w.key).run _)
    rw [hrun, hrun', ← hpayload]
    exact recordText_abreast hp w.key (haa.typed (w.key, w.payload) (List.mem_map_of_mem hw)) _ _ ⟨htaken, hdue⟩
  | mutations =>
    obtain ⟨a, w, ha, hw, htw, hrun⟩ := wakeMutations_run p hl ht hta
    obtain ⟨a', w', ha', hw', htw', hrun'⟩ := wakeMutations_run p' hl' ht' (halarm ▸ hta)
    have haa := hsessions ha ha'
    have hchanges := awaitedChanges_eq (K := K) hl ha hw
    have hsame : K.pageChanges w.payload = K.pageChanges w'.payload := by
      rw [← hchanges, haa.changes, awaitedChanges_eq hl' ha' hw']
    have hknows : ∀ m ∈ K.pageChanges w.payload, K.Knows m := hchanges ▸ haa.knows
    have hring : (r.clock.ring t).timers = (r.clock.cancel w.timer).timers := by rw [htw]; rfl
    have hring' : (r'.clock.ring t').timers = (r'.clock.cancel w'.timer).timers := by rw [htw']; rfl
    have htaken := h.takeChanges ha ha' haa hw hring hs hw' hring' hs'
    show EndAbreast K.Twin _ ((wakeMutations p).run _) ((wakeMutations p').run _)
    rw [hrun, hrun']
    refine Abreast.bind_get (fun s s' hss => ?_) _ _ ⟨htaken, hdue⟩
    rw [hss.isRecording]
    exact .ite Iff.rfl (fun _ => (noteFields_abreast hp hsame hknows).bind fun _ _ _ =>
      noteLoaded_abreast hp hsame hknows) fun _ => .pure trivial
  | idle =>
    obtain ⟨a, ha, hrun⟩ := wakeIdle_run hl ht
    obtain ⟨a', ha', hrun'⟩ := wakeIdle_run hl' ht'
    have hring : (r.clock.ring t).timers = (r.clock.cancel t.seq).timers := rfl
    have hring' : (r'.clock.ring t').timers = (r'.clock.cancel t'.seq).timers := rfl
    have htaken := h.takeIdle ha ha' (hsessions ha ha') ht ht' hta (halarm ▸ hta) hring hring' hs hs'
    show EndAbreast K.Twin _ (wakeIdle.run _) (wakeIdle.run _)
    rw [hrun, hrun']
    refine Abreast.bind_get (fun s s' hss => ?_) _ _ ⟨htaken, hdue⟩
    rw [hss.isRecording]
    exact .ite Iff.rfl (fun _ => noteIdle_abreast) fun _ => .pure trivial

/-- **A timer for changes of the tool alone** goes off without a trace. -/
lemma hidden_goesOff (hta : t.alarm = .mutations) (hnone : K.waitingChanges r = []) :
    ∃ s, (goOff p t.alarm).run { r with clock := r.clock.ring t } = (.ok ⟨⟩, s) ∧ K.Similar s r' := by
  have hl := h.neat.linked
  obtain ⟨a, w, ha, hw, htw, hrun⟩ := wakeMutations_run p hl ht hta
  obtain ⟨ha', -⟩ | ⟨b, a', hb, ha', haa⟩ := h.sessions
  · cases ha.symm.trans ha'
  · obtain rfl := Option.some.inj (ha.symm.trans hb)
    rw [waitingChanges_of_some ha] at hnone
    have hown : K.pageChanges w.payload = [] := awaitedChanges_eq (K := K) hl ha hw ▸ hnone
    have hring : (r.clock.ring t).timers = (r.clock.cancel w.timer).timers := by rw [htw]; rfl
    have htaken := h.takeOwnChanges ha ha' haa hw hring (hl.sound.ring hfirst) hnone
    refine ⟨_, ?_, htaken⟩
    rw [hta]
    show (wakeMutations p).run _ = _
    rw [hrun, Course.run_bind, Course.run_get]
    dsimp only
    split
    · rw [Course.run_bind, noteFields_own hp hown htaken.config]
      exact noteLoaded_own hp hown
    · rfl

end GoOff

/-! ### Time -/

/-- The timer of a recorder is for changes of the tool alone. -/
def Hides (K : Stage) (r : Recorder) (t : Timer Alarm) : Prop := t.alarm = .mutations ∧ K.waitingChanges r = []

/-- What counts of the timers is set. -/
lemma mem_shown {e : Rat × Alarm} (h : e ∈ K.shown r) : ∃ t ∈ r.clock.timers, (t.due, t.alarm) = e :=
  List.mem_map.1 (List.mem_filter.1 h).1

/-- If the timer that is due first counts, it is the first of those that do. -/
lemma first?_shown (hr : r.Neat) {t : Timer Alarm} (ht : t ∈ r.clock.timers) (hfirst : ∀ u ∈ r.clock.timers, t.Ahead u)
    (hshown : ¬ K.Hides r t) : Plan.first? (K.shown r) = some (t.due, t.alarm) := by
  refine Plan.first?_filter _ (hr.sorted.first?_plan ht hfirst) ?_
  by_cases hta : t.alarm = .mutations
  · have hne : K.waitingChanges r ≠ [] := fun hnone => hshown ⟨hta, hnone⟩
    simp [hne]
  · simp [hta]

lemma runDue_of_none {target : Rat} (p : Page) (h : r.clock.popDue? target = none) (n : ℕ) :
    (runDue p target n).run r = (.ok ⟨⟩, r) := by
  cases n with
  | zero => rfl
  | succ n => rw [runDue_succ, h]

/-- If a timer that counts is due first in one recorder, then in the other one it is due first too, or one for changes
of the tool alone. -/
lemma popDue?_shown (h : K.Similar r r') {target : Rat} {t : Timer Alarm} (ht : t ∈ r.clock.timers)
    (hfirst : ∀ u ∈ r.clock.timers, t.Ahead u) (hdue : t.due ≤ target) (hshown : ¬ K.Hides r t) :
    ∃ t', r'.clock.popDue? target = some (t', r'.clock.ring t') ∧
      (K.Hides r' t' ∨ t.due = t'.due ∧ t.alarm = t'.alarm) := by
  have hplan := first?_shown h.neat ht hfirst hshown
  rw [h.shown] at hplan
  cases hpop : r'.clock.popDue? target with
  | none =>
    obtain ⟨u, hu, he⟩ := mem_shown (Plan.first?_mem hplan)
    have hlate := Clock.popDue?_eq_none hpop u hu
    rw [show u.due = t.due from congrArg Prod.fst he] at hlate
    exact absurd hdue (not_le.2 hlate)
  | some q =>
    obtain ⟨t', c⟩ := q
    obtain ⟨ht', hfirst', -, rfl⟩ := Clock.popDue?_eq_some hpop
    refine ⟨t', rfl, or_iff_not_imp_left.2 fun hshown' => ?_⟩
    have hsame := hplan.symm.trans (first?_shown h.neat' ht' hfirst' hshown')
    exact Prod.mk.inj (Option.some.inj hsame)

/-- The timers that are due have gone off in two recorders: both have failed at the same timer, or no timer is left
that is due. -/
inductive Settled (K : Stage) (target : Rat) : Except Fault Unit × Recorder → Except Fault Unit × Recorder → Prop
  | failed {fault : Fault} {s s' : Recorder} (h : K.Twin s s') : Settled K target (.error fault, s) (.error fault, s')
  | rests {s s' : Recorder} (h : K.Similar s s') (hs : ∀ t ∈ s.clock.timers, target < t.due)
    (hs' : ∀ t ∈ s'.clock.timers, target < t.due) : Settled K target (.ok ⟨⟩, s) (.ok ⟨⟩, s')

protected lemma Settled.symm {target : Rat} {x y : Except Fault Unit × Recorder} (h : K.Settled target x y) :
    K.Settled target y x := by
  cases h with
  | failed h => exact .failed h.symm
  | rests h hs hs' => exact .rests h.symm hs' hs

/-- **The timers that are due go off** in both, those for changes of the tool alone in one. -/
lemma runDue_settled (hp : K.Alike p p') (h : K.Similar r r') (target : Rat) {n n' : ℕ}
    (hn : r.clock.timers.length ≤ n) (hn' : r'.clock.timers.length ≤ n') :
    K.Settled target ((runDue p target n).run r) ((runDue p' target n').run r') := by
  -- by the number of timers that are set in both
  induction hk : r.clock.timers.length + r'.clock.timers.length using Nat.strong_induction_on
    generalizing p p' r r' n n' with | _ k ih => ?_
  -- a timer of the tool goes off in one of the two
  have hhidden : ∀ {p p' : Page} {r r' : Recorder} {n n' : ℕ} {t : Timer Alarm}, K.Alike p p' → K.Similar r r' →
      r.clock.timers.length ≤ n → r'.clock.timers.length ≤ n' → r.clock.timers.length + r'.clock.timers.length = k →
      r.clock.popDue? target = some (t, r.clock.ring t) → K.Hides r t →
      K.Settled target ((runDue p target n).run r) ((runDue p' target n').run r') := by
    intro p p' r r' n n' t hp h hn hn' hk hpop hhides
    obtain ⟨ht, hfirst, -, -⟩ := Clock.popDue?_eq_some hpop
    obtain ⟨s, hgo, hs⟩ := hidden_goesOff hp h ht hfirst hhides.1 hhides.2
    obtain ⟨-, hlt⟩ := goOff_fewer h.neat.linked hpop hgo
    obtain ⟨n, rfl⟩ : ∃ m, n = m + 1 := ⟨n - 1, by omega⟩
    rw [runDue_succ, hpop]
    dsimp only
    rw [Course.run_bind, hgo]
    exact ih _ (by omega) hp hs (by omega) hn' rfl
  cases hpop : r.clock.popDue? target with
  | none =>
    rw [runDue_of_none p hpop]
    cases hpop' : r'.clock.popDue? target with
    | none =>
      rw [runDue_of_none p' hpop']
      exact .rests h (Clock.popDue?_eq_none hpop) (Clock.popDue?_eq_none hpop')
    | some q =>
      obtain ⟨t', c⟩ := q
      obtain ⟨ht', hfirst', hdue', rfl⟩ := Clock.popDue?_eq_some hpop'
      by_cases hhides : K.Hides r' t'
      · rw [← runDue_of_none p hpop n]
        exact (hhidden hp.symm h.symm hn' hn (by omega) hpop' hhides).symm
      · obtain ⟨t, hpop'', -⟩ := popDue?_shown h.symm ht' hfirst' hdue' hhides
        cases hpop.symm.trans hpop''
  | some q =>
    obtain ⟨t, c⟩ := q
    obtain ⟨ht, hfirst, hdue, rfl⟩ := Clock.popDue?_eq_some hpop
    by_cases hhides : K.Hides r t
    · exact hhidden hp h hn hn' hk hpop hhides
    obtain ⟨t', hpop', hhides' | ⟨hsame, halarm⟩⟩ := popDue?_shown h ht hfirst hdue hhides
    · exact (hhidden hp.symm h.symm hn' hn (by omega) hpop' hhides').symm
    -- the same timer goes off in both
    obtain ⟨ht', hfirst', -, -⟩ := Clock.popDue?_eq_some hpop'
    obtain ⟨n, rfl⟩ : ∃ m, n = m + 1 := ⟨n - 1, by have := List.length_pos_of_mem ht; omega⟩
    obtain ⟨n', rfl⟩ : ∃ m, n' = m + 1 := ⟨n' - 1, by have := List.length_pos_of_mem ht'; omega⟩
    have hgo := goOff_abreast hp h ht hfirst ht' hfirst' hsame halarm
    rw [runDue_succ, hpop, runDue_succ, hpop']
    dsimp only
    rw [Course.run_bind, Course.run_bind]
    rcases hrun : (goOff p t.alarm).run { r with clock := r.clock.ring t } with ⟨x, s⟩
    rcases hrun' : (goOff p' t'.alarm).run { r' with clock := r'.clock.ring t' } with ⟨x', s'⟩
    rw [hrun, hrun'] at hgo
    cases hgo with
    | failed hs => exact .failed hs
    | answered hs _ =>
      obtain ⟨-, hlt⟩ := goOff_fewer h.neat.linked hpop hrun
      obtain ⟨-, hlt'⟩ := goOff_fewer h.neat'.linked hpop' hrun'
      exact ih _ (by omega) hp hs.toSimilar (by omega) (by omega) rfl

/-- Once no timer is due, the clocks go to the same time. -/
lemma Similar.goTo (h : K.Similar r r') {target : Rat} (hr : ∀ t ∈ r.clock.timers, target < t.due)
    (hr' : ∀ t ∈ r'.clock.timers, target < t.due) :
    K.Twin { r with clock := { r.clock with now := target } } { r' with clock := { r'.clock with now := target } } := by
  have hneat : ∀ {r : Recorder}, r.Neat → (∀ t ∈ r.clock.timers, target < t.due) →
      ({ r with clock := { r.clock with now := target } } : Recorder).Neat := fun {r} hr hdue =>
    have hmove : Move anything r { r with clock := { r.clock with now := target } } :=
      .passed target (fun t ht => (hdue t ht).le) (.inl rfl)
    ⟨hmove.linked hr.linked, hr.sorted⟩
  exact ⟨⟨hneat h.neat hr, hneat h.neat' hr', h.config, h.rest, h.stopped, h.active, h.shown⟩, rfl⟩

lemma advanceTo_abreast (hp : K.Alike p p') (target : Rat) :
    Abreast K.Twin (fun _ _ => True) (advanceTo p target) (advanceTo p' target) := by
  intro r r' h
  have hsettled : K.Settled target ((runDue p target r.clock.pending).run r)
      ((runDue p' target r'.clock.pending).run r') := runDue_settled hp h.toSimilar target le_rfl le_rfl
  unfold advanceTo
  rw [Course.run_bind, Course.run_bind, Course.run_get, Course.run_get]
  dsimp only
  rw [Course.run_bind, Course.run_bind]
  generalize (runDue p target r.clock.pending).run r = x at hsettled ⊢
  generalize (runDue p' target r'.clock.pending).run r' = x' at hsettled ⊢
  cases hsettled with
  | failed hs => exact .failed hs
  | rests hs hdue hdue' => exact .answered (hs.goTo hdue hdue') trivial

/-- **As time passes, both record the same.** -/
theorem advance_abreast (hp : K.Alike p p') (ms : Rat) :
    Abreast K.Twin (fun _ _ => True) (advance p ms) (advance p' ms) :=
  .bind_get fun r r' h => by
    rw [h.time]
    exact advanceTo_abreast hp _

/-! ### Until no timer is set -/

/-- The time at which the last timer is due, or the time it is. -/
def latest (c : Clock Alarm) : Rat := c.timers.foldr (fun t time => max t.due time) c.now

lemma latest_le_iff {c : Clock Alarm} {time : Rat} : latest c ≤ time ↔ c.now ≤ time ∧ ∀ t ∈ c.timers, t.due ≤ time := by
  unfold latest
  induction c.timers with
  | nil => simp
  | cons t rest ih => rw [List.foldr_cons, max_le_iff, ih, List.forall_mem_cons, and_left_comm]

/-- The timers that are left are those that are due later. -/
lemma runDue_timers (hl : r.Linked) {target : Rat} {n : ℕ} (hn : r.clock.timers.length ≤ n) {u : Unit} {s : Recorder}
    (h : (runDue p target n).run r = (.ok u, s)) (t : Timer Alarm) :
    t ∈ s.clock.timers ↔ t ∈ r.clock.timers ∧ target < t.due := by
  induction n generalizing r with
  | zero =>
    cases h
    simp [List.length_eq_zero_iff.1 (Nat.le_zero.1 hn)]
  | succ n ih =>
    rw [runDue_succ] at h
    cases hpop : r.clock.popDue? target with
    | none =>
      rw [hpop] at h
      cases h
      exact (and_iff_left_of_imp (Clock.popDue?_eq_none hpop t)).symm
    | some q =>
      obtain ⟨v, c⟩ := q
      obtain ⟨hv, hfirst, hdue, rfl⟩ := Clock.popDue?_eq_some hpop
      rw [hpop] at h
      dsimp only at h
      rw [Course.run_bind] at h
      rcases hgo : (goOff p v.alarm).run { r with clock := r.clock.ring v } with ⟨_ | _, w⟩ <;> rw [hgo] at h
      · cases h
      · have hlt := goOff_fewer hl hpop hgo
        have hclock := (goOff_leads anything p hl hv hfirst).2
        rw [hgo] at hclock
        rw [ih hlt.1 (by omega) h, hclock _ rfl, Clock.mem_ring]
        refine ⟨fun ht => ⟨ht.1.1, ht.2⟩, fun ht => ⟨⟨ht.1, fun hseq => ?_⟩, ht.2⟩⟩
        rw [hl.sound.apart t ht.1 v hv hseq] at ht
        exact absurd hdue (not_le.2 ht.2)

/-- What time leaves of the timers: those that are due later, and so less than before if one was due. -/
lemma advanceTo_timers (hl : r.Linked) {target : Rat} {u : Unit} {s : Recorder}
    (h : (advanceTo p target).run r = (.ok u, s)) : s.Linked ∧ s.clock.now = target ∧
      (∀ t, t ∈ s.clock.timers ↔ t ∈ r.clock.timers ∧ target < t.due) ∧
      (r.clock.popDue? target ≠ none → s.clock.timers.length < r.clock.timers.length) := by
  have hpath : Path anything r ((advanceTo p target).run r).2 := (advanceTo_runs p target r hl (.inl rfl)).1
  have hlinked := hpath.linked hl
  rw [h] at hlinked
  unfold advanceTo at h
  rw [Course.run_bind, Course.run_get] at h
  dsimp only at h
  rw [Course.run_bind] at h
  rcases hdue : (runDue p target r.clock.pending).run r with ⟨_ | _, w⟩ <;> rw [hdue] at h <;> cases h
  have htimers := runDue_timers (n := r.clock.pending) hl le_rfl hdue
  refine ⟨hlinked, rfl, htimers, fun hpop => ?_⟩
  obtain ⟨⟨t, c⟩, hpop⟩ := Option.ne_none_iff_exists'.1 hpop
  obtain ⟨ht, -⟩ := Clock.popDue?_eq_some hpop
  obtain ⟨n, hn⟩ : ∃ n, r.clock.pending = n + 1 := Nat.exists_eq_succ_of_ne_zero (List.length_pos_of_mem ht).ne'
  rw [hn, runDue_succ, hpop] at hdue
  dsimp only at hdue
  rw [Course.run_bind] at hdue
  rcases hgo : (goOff p t.alarm).run { r with clock := c } with ⟨_ | _, v⟩ <;> rw [hgo] at hdue
  · cases hdue
  · obtain ⟨hv, hlt⟩ := goOff_fewer hl hpop hgo
    exact (runDue_fewer hv hdue).2.trans_lt hlt

/-- To let time pass until no timer is set is to let it pass until the last one is due. -/
lemma runTimers_eq (hl : r.Linked) {n : ℕ} (hn : r.clock.timers.length ≤ n) :
    (runTimers p n).run r = (advanceTo p (latest r.clock)).run r := by
  have hrest : ∀ {r : Recorder}, r.clock.timers = [] → (advanceTo p (latest r.clock)).run r = (.ok ⟨⟩, r) := by
    intro r ht
    have hlatest : latest r.clock = r.clock.now := by rw [latest, ht, List.foldr_nil]
    unfold advanceTo
    rw [Course.run_bind, Course.run_get]
    dsimp only
    rw [Course.run_bind, runDue_of_timers_eq_nil p _ ht, hlatest]
    rfl
  induction n generalizing r with
  | zero => exact (hrest (List.length_eq_zero_iff.1 (Nat.le_zero.1 hn))).symm
  | succ n ih =>
    unfold runTimers
    rw [Course.run_bind, Course.run_get]
    dsimp only
    cases hfirst : r.clock.earliest? with
    | none => exact (hrest (Clock.earliest?_eq_none.1 hfirst)).symm
    | some t =>
      obtain ⟨ht, hahead⟩ := Clock.earliest?_eq_some hfirst
      have hnow := hl.sound.ahead t ht
      have hdue : t.due ≤ latest r.clock := (latest_le_iff.1 le_rfl).2 t ht
      have hpop : r.clock.popDue? t.due ≠ none := fun hnone => lt_irrefl _ (Clock.popDue?_eq_none hnone t ht)
      dsimp only
      rw [max_eq_right hnow, ← advanceTo_split p hl hdue, Course.run_bind, Course.run_bind]
      rcases hto : (advanceTo p t.due).run r with ⟨_ | u, s⟩
      · rfl
      · obtain ⟨hs, hsnow, htimers, hlt⟩ := advanceTo_timers hl hto
        have hfewer := hlt hpop
        have hlatest : latest s.clock = latest r.clock := by
          refine eq_of_forall_ge_iff fun time => ?_
          rw [latest_le_iff, latest_le_iff, hsnow]
          refine ⟨fun h => ⟨hnow.trans h.1, fun v hv => ?_⟩, fun h => ⟨h.2 t ht, fun v hv => h.2 v ((htimers v).1 hv).1⟩⟩
          by_cases hlate : t.due < v.due
          · exact h.2 v ((htimers v).2 ⟨hv, hlate⟩)
          · exact (not_lt.1 hlate).trans h.1
        dsimp only
        rw [ih hs (by omega), hlatest]

/-- **Until no timer is set**, both record the same if the last timer of each is due at the same time. -/
theorem runAll_abreast (hp : K.Alike p p') (h : K.Twin r r') (hlatest : latest r.clock = latest r'.clock) :
    EndAbreast K.Twin (fun _ _ => True) ((runAll p).run r) ((runAll p').run r') := by
  have hrun : ∀ {r : Recorder} (q : Page), r.Linked → (runAll q).run r = (advanceTo q (latest r.clock)).run r :=
    fun q hl => runTimers_eq hl le_rfl
  rw [hrun p h.neat.linked, hrun p' h.neat'.linked, ← hlatest]
  exact advanceTo_abreast hp _ r r' h

end PageTape.Recorder.Stage
