import PageTape.Proofs.Html.Read
import PageTape.Proofs.Scene.Delivered

/-!
# Elements that a browser adds and removes

* `append_fragment` — an element of a text that is added to another one is in it then, and all elements stay numbered;
* `Shown s m t` — a change is shown to those who watch for it, and nothing else happens.  To tell of a change does this
  and nothing else, whoever watches (`notify_run`);
* `added_holds`, `removed_taken`, `removed_missed` — what becomes of the reports that an element was added and removed;
* `sync_holds` — an element stays where it is when a control in it is brought to a state, and as it is but for what a
  user enters;
* `removal_mirrored` — so an element that was added, and of which events were told, is removed again when a browser tells
  so, unless the user has entered something that it keeps among its attributes.
-/

namespace PageTape

open Dom (Forest Id Location Node Tag Attrs Retouch idsOf)

/-! ### An element of a text is put into another one -/

namespace Dom.Forest

variable {f : Forest} {id : Id} {l : Location} {gone : Tag} {html : String}

/-- The tree that is made of the first element of a text. -/
lemma addFragment_first (f : Forest) (h : Scene.firstElement? html = some gone) :
    ∃ n ∈ (Html.read f.nextId html).1, n.tag? = some { gone with id := gone.id + f.nextId } ∧
      f.addFragment html =
        .ok (gone.id + f.nextId, { f with nextId := (Html.read f.nextId html).2 }.addTree n) := by
  unfold Scene.firstElement? at h
  obtain ⟨before, n, after, hread, htag, hbefore⟩ := List.findSome?_eq_some_iff.1 h
  have hrenumbered := Html.read_renumber f.nextId html
  rw [hread, List.map_append, List.map_cons] at hrenumbered
  have htag' : (n.renumber f.nextId).tag? = some { gone with id := gone.id + f.nextId } := by
    rw [Node.tag?_renumber, htag]
    rfl
  refine ⟨n.renumber f.nextId, by rw [hrenumbered]; simp, htag', ?_⟩
  have hfirst : (Html.read f.nextId html).1.findSome? (fun n => n.tag?.map fun tag => (tag.id, n)) =
      some (gone.id + f.nextId, n.renumber f.nextId) := by
    refine List.findSome?_eq_some_iff.2 ⟨_, _, _, hrenumbered, by rw [htag']; rfl, fun x hx => ?_⟩
    obtain ⟨y, hy, rfl⟩ := List.mem_map.1 hx
    rw [Node.tag?_renumber, hbefore y hy]
    rfl
  unfold addFragment
  simp only [hfirst]

/-- The first element of a text has no attribute twice. -/
lemma attrs_first (h : Scene.firstElement? html = some gone) : (gone.attrs.map (·.1)).Nodup := by
  obtain ⟨n, hn, htag⟩ := List.exists_of_findSome?_eq_some h
  exact Html.attrs_read 0 html gone (mem_tagsOf hn htag)

/-- **An element of a text that is added to another one** is in it then. -/
theorem append_fragment (h : f.Numbered) (hl : f.locate? id = some l)
    (hgone : Scene.firstElement? html = some gone) : ∃ f₁, f.addFragment html = .ok (gone.id + f.nextId, f₁) ∧
      (f₁.append id (gone.id + f.nextId)).Numbered ∧
      (f₁.append id (gone.id + f.nextId)).Holds id { gone with id := gone.id + f.nextId } := by
  obtain ⟨n, hn, htag, hadded⟩ := addFragment_first f hgone
  obtain ⟨hle, hnodup, hids⟩ := Html.ids_read f.nextId html
  generalize Html.read f.nextId html = read at hn hadded hle hnodup hids
  have hmem := mem_locations_of_locate? hl
  obtain rfl := tag_id_of_locate? hl
  obtain ⟨before, after, hread⟩ := List.append_of_mem hn
  have hsub : ∀ i ∈ idsOf [n], i ∈ idsOf read.1 := fun i hi => by
    rw [idsOf_flatMap]
    exact List.mem_flatMap.2 ⟨n, hn, hi⟩
  have hself : gone.id + f.nextId ∈ idsOf ([] ++ n :: []) := id_mem_idsOf htag
  have hnew : gone.id + f.nextId ∉ idsOf f.trees := fun hin =>
    Nat.lt_irrefl _ (Nat.lt_of_lt_of_le (h.below _ hin) (hids _ (hsub _ hself)).1)
  have hnodup' : (idsOf [n]).Nodup := by
    rw [hread, idsOf_append, idsOf_cons] at hnodup
    exact (List.nodup_append.1 (List.nodup_append.1 hnodup).2.1).1
  have hnumbered := h.append hmem hle hnodup' fun i hi => hids i (hsub i hi)
  have hgrown := append_new (f := { f with nextId := read.2 }) (l := l) hl htag hnew
  obtain ⟨m, hm, hrewritten⟩ :=
    locate?_rewrite (f := { f with nextId := read.2 }) (refilling fun _ children => children ++ [n]) hl
  obtain ⟨c, hc, hctag, -, hparent⟩ := locate?_child hnumbered.distinct (mem_locations_of_locate? hm)
    hrewritten.children htag
  refine ⟨_, hadded, hgrown ▸ hnumbered, ?_⟩
  rw [hgrown]
  exact ⟨hnumbered.distinct, c, m, hc, hctag, hparent, congrArg (·.id) hrewritten.tag⟩

end Dom.Forest

namespace Scene

variable {s t u : Scene} {l : Location} {p html : String} {gone : Tag}

/-! ### Those who watch -/

/-- Those who watch for a change, each as often as it does. -/
def watching (p : Page) (m : Page.Mutation) : List Page.Observer := (p.watches.filter (·.sees p.forest m)).map (·.observer)

/-- What the functions of the page are shown of a change. -/
def shownTo (f : Forest) (m : Page.Mutation) : List Page.Observer → List Entry :=
  List.filterMap fun
    | .recorder => none
    | .page name => some (match m.change with
      | .children added removed => .children name (nameOf f m.target) (added.map (nameOf f)) (removed.map (nameOf f))
      | .attr changed => .attr name (nameOf f m.target) changed)

/-- The recorder after a change was shown to observers, each time that it is one of them. -/
def heeding (m : Page.Mutation) (observers : List Page.Observer) (r : Recorder) : Recorder :=
  (observers.filter (· == .recorder)).foldl (fun r _ => { ((Recorder.heed [m]).run r).2 with notices := [] }) r

/-- **A change is shown** to all who watch for it, and nothing else happens. -/
structure Shown (s : Scene) (m : Page.Mutation) (t : Scene) : Prop extends Untouched s t where
  recorder : t.recorder = heeding m (watching s.page m) s.recorder
  seen : t.log.filter (!·.isStep) = s.log.filter (!·.isStep) ++ shownTo s.page.forest m (watching s.page m)

/-- An observer is shown a change. -/
lemma callObserver_run (m : Page.Mutation) (observer : Page.Observer) (s : Scene) :
    ∃ t, (callObserver m observer).run s = (.ok ⟨⟩, t) ∧ Untouched s t ∧ t.recorder = heeding m [observer] s.recorder ∧
      t.log.filter (!·.isStep) = s.log.filter (!·.isStep) ++ shownTo s.page.forest m [observer] := by
  cases observer with
  | page name =>
    obtain ⟨target, change⟩ := m
    cases change <;> exact ⟨_, rfl, ⟨rfl, rfl, rfl, rfl⟩, rfl, by rw [List.filter_append]; rfl⟩
  | recorder =>
    refine ⟨((byRecorder fun _ => Recorder.heed [m]).run s).2, ?_, ?_, ?_, ?_⟩
    · unfold callObserver
      rw [run_quietly]
    · rw [byRecorder_run]
      exact ⟨rfl, rfl, rfl, rfl⟩
    · rw [byRecorder_run]
      rfl
    · rw [byRecorder_run, List.filter_append]
      congr 1
      simp [List.filter_eq_nil_iff, Entry.isStep, shownTo]

/-- Observers are shown a change one after another. -/
lemma callObservers_run (m : Page.Mutation) (watches : List Page.Watch) (s : Scene) :
    ∃ t, (watches.forM fun w => callObserver m w.observer).run s = (.ok ⟨⟩, t) ∧ Untouched s t ∧
      t.recorder = heeding m (watches.map (·.observer)) s.recorder ∧
      t.log.filter (!·.isStep) = s.log.filter (!·.isStep) ++ shownTo s.page.forest m (watches.map (·.observer)) := by
  induction watches generalizing s with
  | nil => exact ⟨s, rfl, .refl s, rfl, (List.append_nil _).symm⟩
  | cons w rest ih =>
    obtain ⟨t, ht, hst, hrecorder, hseen⟩ := callObserver_run m w.observer s
    obtain ⟨u, hu, htu, hrecorder', hseen'⟩ := ih t
    refine ⟨u, ?_, hst.trans htu, ?_, ?_⟩
    · show (callObserver m w.observer >>= fun _ => rest.forM fun w => callObserver m w.observer).run s = _
      rw [Course.run_bind, ht]
      exact hu
    · rw [hrecorder', hrecorder, List.map_cons]
      unfold heeding
      rw [← List.foldl_append, ← List.filter_append, List.singleton_append]
    · rw [hseen', hseen, hst.page, List.append_assoc, List.map_cons]
      unfold shownTo
      rw [← List.filterMap_append, List.singleton_append]

/-- **A change is shown** to those who watch, and nothing else happens. -/
lemma notify_run (target : Id) (change : Page.Change) (s : Scene) :
    ∃ t, (notify target change).run s = (.ok ⟨⟩, t) ∧ Shown s ⟨target, change⟩ t := by
  obtain ⟨t, ht, hst, hrecorder, hseen⟩ :=
    callObservers_run ⟨target, change⟩ (s.page.watches.filter (·.sees s.page.forest ⟨target, change⟩)) s
  exact ⟨t, ht, hst, hrecorder, hseen⟩

/-! ### Reports -/

/-- The report of an element that was added to another one or removed from it. -/
def childReport (type selector html : String) : Datum :=
  .map [("type", .text type), ("parent", .text selector), ("html", .text html)]

lemma parent_report (type selector html : String) :
    (reportText (childReport type selector html) "parent").plain = selector := reportText_of_text rfl

lemma html_report (type selector html : String) :
    (reportText (childReport type selector html) "html").plain = html := reportText_of_text rfl

lemma bring_added (selector html : String) : bring (childReport "added" selector html) = (do
    if !(← get).browser.isLinked then return
    bringAdded (childReport "added" selector html)) := rfl

lemma bring_removed (selector html : String) : bring (childReport "removed" selector html) = (do
    if !(← get).browser.isLinked then return
    bringRemoved (childReport "removed" selector html)) := rfl

/-- The parent that a report names is found. -/
lemma named?_parent (hparent : s.page.document.query? p = .ok (some l)) (type html : String) :
    (named? (reportText (childReport type p html) "parent")).run { s with log := [] } =
      (.ok (some l), { s with log := [] }) := by
  rw [← parent_report type p html] at hparent
  exact named?_run (s := { s with log := [] }) (Page.isEmpty_of_query? hparent) hparent

/-- **The browser reports that an element was added**: it is in the one that was named, and all who watch are told. -/
theorem added_holds (hlinked : s.browser.isLinked = true) (h : s.page.forest.Numbered)
    (hparent : s.page.document.query? p = .ok (some l)) (hgone : firstElement? html = some gone) :
    ∃ f t, f.Numbered ∧ f.Holds l.tag.id { gone with id := gone.id + s.page.forest.nextId } ∧
      Shown { s with page := s.page.changeForest fun _ => f, log := [] }
        ⟨l.tag.id, .children [gone.id + s.page.forest.nextId] []⟩ t ∧
      s.step (.bring (childReport "added" p html)) = ⟨.ok .nothing, t.log, { t with log := [] }⟩ := by
  have hl := h.distinct.locate? (Page.mem_locations_of_query? hparent)
  obtain ⟨f₁, hadded, hnumbered, hholds⟩ := Dom.Forest.append_fragment h hl hgone
  have hne : (l.tag.id == gone.id + s.page.forest.nextId) = false := by
    have hbelow := h.below l.tag.id (Dom.Forest.map_id_trees s.page.forest ▸
      List.mem_map_of_mem (Dom.Forest.mem_locations_of_locate? hl))
    exact beq_eq_false_iff_ne.2 (Nat.ne_of_lt (Nat.lt_of_lt_of_le hbelow (Nat.le_add_left _ _)))
  obtain ⟨t, ht, hshown⟩ := notify_run l.tag.id (.children [gone.id + s.page.forest.nextId] [])
    { s with page := s.page.changeForest fun _ => f₁.append l.tag.id (gone.id + s.page.forest.nextId), log := [] }
  refine ⟨_, t, hnumbered, hholds, hshown, step_bring_run hlinked (bring_added p html) ?_⟩
  have happend : (appendHtml l.tag.id html).run { s with log := [] } = (.ok (gone.id + s.page.forest.nextId), t) := by
    unfold appendHtml append
    rw [Course.run_bind, Course.run_get]
    dsimp only
    simp only [hadded, ofExcept, Course.run_bind, Course.run_pure]
    unfold changeForest changePage
    simp only [hne, Bool.false_eq_true, if_false, Course.run_bind, Course.run_modify]
    rw [show (s.page.changeForest fun _ => f₁).changeForest (·.append l.tag.id (gone.id + s.page.forest.nextId)) =
      s.page.changeForest fun _ => f₁.append l.tag.id (gone.id + s.page.forest.nextId) from rfl, ht]
  unfold bringAdded
  rw [Course.run_bind, named?_parent hparent]
  dsimp only
  rw [html_report, Course.run_bind, Course.run_tryCatch, Course.run_bind, Course.run_discard, happend]
  rfl

/-- The child of an element that is taken for one that was removed: the first of the same name and attributes. -/
def twin? (gone : Tag) (l : Location) : Option Tag :=
  (l.children.filterMap Node.tag?).find? fun tag => tag.name == gone.name && Attrs.same tag.attrs gone.attrs

lemma twin?_eq_some {u : Tag} (h : twin? gone l = some u) : u ∈ l.children.filterMap Node.tag? ∧ u.name = gone.name := by
  have halike := List.find?_some h
  rw [Bool.and_eq_true, beq_iff_eq] at halike
  exact ⟨List.mem_of_find?_eq_some h, halike.1⟩

/-- An element has lost one child, and no other. -/
def HasLost (l : Location) (u : Tag) (f : Forest) : Prop :=
  ∃ m xs n ys, l.children = xs ++ n :: ys ∧ n.tag? = some u ∧
    f.locate? l.tag.id = some m ∧ m.tag = l.tag ∧ m.children = xs ++ ys

/-- The browser reports that an element was removed: the child that is taken for it, if there is one, is removed. -/
lemma bringRemoved_run (hparent : s.page.document.query? p = .ok (some l)) (hgone : firstElement? html = some gone) :
    (bringRemoved (childReport "removed" p html)).run { s with log := [] } =
      (match twin? gone l with
        | some u => remove u.id
        | none => return).run { s with log := [] } := by
  unfold bringRemoved
  rw [Course.run_bind, named?_parent hparent]
  dsimp only
  rw [html_report, hgone]
  rfl

/-- **A child is taken for an element that was removed**: it is removed, and all who watch are told. -/
theorem removed_taken (hlinked : s.browser.isLinked = true) (hd : s.page.forest.Distinct)
    (hparent : s.page.document.query? p = .ok (some l)) (hgone : firstElement? html = some gone) {u : Tag}
    (htwin : twin? gone l = some u) :
    ∃ t, HasLost l u t.page.forest ∧ Shown (changed s (·.detach u.id)) ⟨l.tag.id, .children [] [u.id]⟩ t ∧
      s.step (.bring (childReport "removed" p html)) = ⟨.ok .nothing, t.log, { t with log := [] }⟩ := by
  have hl := Page.mem_locations_of_query? hparent
  obtain ⟨n, hn, hu⟩ := List.mem_filterMap.1 (twin?_eq_some htwin).1
  obtain ⟨xs, ys, hchildren⟩ := List.append_of_mem hn
  obtain ⟨c, hc, -, -, hcparent⟩ := Dom.Forest.locate?_child hd hl hchildren hu
  obtain ⟨m, hm, htag, hrest⟩ := Dom.Forest.locate?_detach hd hl hchildren hu
  obtain ⟨t, ht, hshown⟩ := notify_run l.tag.id (.children [] [u.id]) (changed s (·.detach u.id))
  refine ⟨t, ⟨m, xs, n, ys, hchildren, hu, hshown.page ▸ hm, htag, hrest⟩, hshown,
    step_bring_run hlinked (bring_removed p html) ?_⟩
  rw [bringRemoved_run hparent hgone, htwin]
  unfold remove
  rw [Course.run_bind, Course.run_get]
  dsimp only
  rw [hc, Option.bind_some, hcparent]
  exact ht

/-- No child is taken for it: nothing happens. -/
theorem removed_missed (hlinked : s.browser.isLinked = true) (hparent : s.page.document.query? p = .ok (some l))
    (hgone : firstElement? html = some gone) (htwin : twin? gone l = none) :
    s.step (.bring (childReport "removed" p html)) = ⟨.ok .nothing, [], { s with log := [] }⟩ := by
  have hrun : (bringRemoved (childReport "removed" p html)).run { s with log := [] } =
      (.ok ⟨⟩, { s with log := [] }) := by
    rw [bringRemoved_run hparent hgone, htwin]
    rfl
  exact step_bring_run hlinked (bring_removed p html) hrun

/-! ### What a user enters -/

/-- The element keeps what a user enters among its attributes. -/
def keepsEntry (t : Tag) : Bool :=
  t.name.map Char.toLower == "input" || toggleOf t != .none ||
    (t.isFormField && !(t.lowerName == "select" || t.lowerName == "textarea" || t.isEditable))

/-- The same element, of which the user may have entered something else. -/
structure SameButEntry (t t' : Tag) : Prop where
  id : t'.id = t.id
  name : t'.name = t.name
  attr? : ∀ n, n ≠ "value" → n ≠ "checked" → t'.attr? n = t.attr? n

namespace SameButEntry

variable {a b c : Tag}

lemma refl (t : Tag) : SameButEntry t t := ⟨rfl, rfl, fun _ _ _ => rfl⟩

lemma trans (h : SameButEntry a b) (h' : SameButEntry b c) : SameButEntry a c :=
  ⟨h'.id.trans h.id, h'.name.trans h.name, fun n hv hc => (h'.attr? n hv hc).trans (h.attr? n hv hc)⟩

end SameButEntry

section Entry

variable {f : Forest} {k : Location} {parent : Id} {tag : Tag}

/-- What is checked or let go are elements that keep it. -/
lemma exists_checking (hk : k ∈ f.locations) {checked : Bool} {change : Id × Bool} (h : change ∈ checking f k checked) :
    ∃ m ∈ f.locations, m.tag.id = change.1 ∧ keepsEntry m.tag = true := by
  have hself : toggleOf k.tag ≠ .none → ∃ m ∈ f.locations, m.tag.id = k.tag.id ∧ keepsEntry m.tag = true := fun htoggle =>
    ⟨k, hk, rfl, by simp [keepsEntry, htoggle]⟩
  unfold checking at h
  cases htoggle : toggleOf k.tag with
  | none => rw [htoggle] at h; cases h
  | box =>
    rw [htoggle] at h
    obtain rfl := List.mem_singleton.1 h
    exact hself (by simp [htoggle])
  | radio =>
    rw [htoggle] at h
    rcases List.mem_append.1 h with h | h
    · have h : change ∈ letGo f k := by
        cases checked with
        | false => cases h
        | true => exact h
      unfold letGo at h
      split at h
      · cases h
      · obtain ⟨r, hr, rfl⟩ := List.mem_map.1 h
        obtain ⟨hmem, hradio⟩ := List.mem_filter.1 hr
        refine ⟨r, Forest.mem_locations_of_mem_document hmem, rfl, ?_⟩
        simp only [Bool.and_eq_true] at hradio
        simp [keepsEntry, hradio.1.1]
    · obtain rfl := List.mem_singleton.1 h
      exact hself (by simp [htoggle])

/-- Flags of other elements are put. -/
lemma flagging_other {key : String} {changes : List (Id × Bool)} (h : ∀ change ∈ changes, change.1 ≠ tag.id) :
    (Retouch.flagging key (Forest.upsOf changes)).tag tag = tag := by
  have hnone : Forest.upsOf changes tag.id = [] := by
    unfold Forest.upsOf
    rw [List.map_eq_nil_iff, List.filter_eq_nil_iff]
    exact fun change hchange => by simpa using h change hchange
  show ({ tag with attrs := tag.attrs.flags key (Forest.upsOf changes tag.id) } : Tag) = tag
  rw [hnone]
  rfl

/-- An element stays where it is when others are checked, and as it is if it does not keep that. -/
lemma check_holds (h : f.Holds parent tag) (hk : k ∈ f.locations) (checked : Bool) :
    ∃ tag', ((checking f k checked).foldl (Forest.putFlag "checked") f).Holds parent tag' ∧ SameButEntry tag tag' ∧
      (keepsEntry tag = false → tag' = tag) := by
  rw [Forest.putFlags_eq h.distinct]
  set g := Retouch.flagging "checked" (Forest.upsOf (checking f k checked)) with hg
  refine ⟨g.tag tag, h.retouch g, ⟨g.id tag, g.name tag, fun n _ hn => Dom.attr?_flagging hn _ tag⟩, fun hentry => ?_⟩
  refine flagging_other fun change hchange hid => ?_
  obtain ⟨m, hm, hmid, hkeeps⟩ := exists_checking hk hchange
  obtain ⟨m', -, hm', rfl, -⟩ := h.located
  obtain rfl : m = m' := h.distinct.eq (Forest.mem_locations_of_locate? hm') hm (hmid.trans hid)
  rw [hkeeps] at hentry
  cases hentry

/-- An element stays where it is when a field is given a value that is in it or is it itself. -/
lemma setValue_holds (h : f.Holds parent tag) (hk : f.locate? k.tag.id = some k) (hin : ∃ m ∈ k.outward, m.tag.id = tag.id)
    (hfield : k.tag.isFormField = true) (value : String) :
    ∃ tag', (f.setValue k.tag.id value).Holds parent tag' ∧ SameButEntry tag tag' ∧
      (keepsEntry tag = false → tag' = tag) := by
  have hkmem := Forest.mem_locations_of_locate? hk
  obtain ⟨x, hx, hxid⟩ := hin
  obtain ⟨m, -, hm, rfl, -⟩ := h.located
  obtain rfl : x = m :=
    h.distinct.eq (Forest.mem_locations_of_locate? hm) (Forest.mem_locations_outward hkmem hx) hxid
  by_cases hs : k.tag.lowerName = "select"
  · -- the options are in the select, the element is not
    refine ⟨x.tag, ?_, .refl _, fun _ => rfl⟩
    have hother : ∀ change ∈ Dom.choosing value k.node.options, change.1 ≠ x.tag.id := by
      intro change hchange hid
      have hup : change.2 ∈ Forest.upsOf (Dom.choosing value k.node.options) x.tag.id :=
        List.mem_map_of_mem (List.mem_filter.2 ⟨hchange, by simpa using hid⟩)
      exact Location.not_mem_descendants hx
        (Dom.upsOf_choosing h.distinct hkmem (Forest.mem_locations_of_locate? hm) hup).1
    have hretouched := h.retouch (Retouch.flagging "selected" (Forest.upsOf (Dom.choosing value k.node.options)))
    rw [Dom.setValue_select hk (beq_iff_eq.2 hs), Forest.putFlags_eq h.distinct]
    rwa [flagging_other hother] at hretouched
  · unfold Forest.setValue
    rw [hk]
    simp only [beq_eq_false_iff_ne.2 hs, Bool.false_eq_true, if_false]
    split
    · exact ⟨x.tag, h.setText hk ⟨x, hx, rfl⟩ value, .refl _, fun _ => rfl⟩
    · rename_i htext
      rw [Forest.setAttr_eq h.distinct]
      refine ⟨_, h.retouch _, ⟨Retouch.id _ x.tag, Retouch.name _ x.tag, fun n hn _ => ?_⟩, fun hentry => ?_⟩
      · by_cases hid : x.tag.id = k.tag.id
        · simp only [Retouch.attrs, hid, if_true]
          exact (Dom.Tag.attr?_set x.tag n "value" (.text value)).trans (if_neg hn)
        · simp only [Retouch.attrs, hid, if_false]
      · have hid : x.tag.id ≠ k.tag.id := fun hid => by
          obtain rfl : x = k := h.distinct.eq hkmem (Forest.mem_locations_of_locate? hm) hid
          simp only [Bool.or_eq_true, beq_iff_eq, not_or] at htext
          simp [keepsEntry, hfield, hs, htext] at hentry
        simp only [Retouch.attrs, hid, if_false]

/-- **An element stays where it is** when a control is brought to a state that is in it or is it itself.  It stays as it
is, but for what the user has entered if it keeps that itself. -/
lemma sync_holds (h : f.Holds parent tag) (hk : f.locate? k.tag.id = some k) (hin : ∃ m ∈ k.outward, m.tag.id = tag.id)
    (value : Option String) (checked : Option Bool) :
    ∃ tag', (syncControl f k value checked).Holds parent tag' ∧ SameButEntry tag tag' ∧
      (keepsEntry tag = false ∨ (value = none ∧ checked = none) → tag' = tag) := by
  have hsame : ∃ tag', f.Holds parent tag' ∧ SameButEntry tag tag' ∧
      (keepsEntry tag = false ∨ (value = none ∧ checked = none) → tag' = tag) := ⟨tag, h, .refl tag, fun _ => rfl⟩
  by_cases htoggle : toggleOf k.tag = .none
  · cases value with
    | none =>
      have hnothing : syncControl f k none checked = f := by
        unfold syncControl
        rw [htoggle]
      rwa [hnothing]
    | some v =>
      by_cases hfield : k.tag.isFormField = true
      · rw [sync_field f htoggle hfield]
        obtain ⟨tag', h', hrest, hkept⟩ := setValue_holds h hk hin hfield v
        exact ⟨tag', h', hrest, fun hquiet => hkept (hquiet.resolve_right (by simp))⟩
      · have hnothing : syncControl f k (some v) checked = f := by
          unfold syncControl
          rw [htoggle]
          exact if_neg hfield
        rwa [hnothing]
  · cases checked with
    | none =>
      have hnothing : syncControl f k value none = f := by
        unfold syncControl
        cases htoggle' : toggleOf k.tag with
        | none => exact absurd htoggle' htoggle
        | _ => rfl
      rwa [hnothing]
    | some b =>
      rw [syncControl_eq f k value htoggle]
      obtain ⟨tag', h', hrest, hkept⟩ := check_holds h (Forest.mem_locations_of_locate? hk) b
      exact ⟨tag', h', hrest, fun hquiet => hkept (hquiet.resolve_right (by simp))⟩

end Entry

/-! ### From an addition to the removal -/

/-- The events that are told of an element between its addition and its removal. -/
def passingEvents : List String := ["input", "change", "click", "keydown"]

/-- Reports reach a scene one after another, each of an event of an element or of one in it. -/
inductive Passing (id : Id) : Scene → List Told → Scene → Prop
  | nil (s : Scene) : Passing id s [] s
  | cons {s t : Scene} {told : Told} {rest : List Told} {selector : String} {k : Location} (url : String)
      (htype : told.type ∈ passingEvents) (hfound : s.page.document.query? selector = .ok (some k))
      (hin : ∃ m ∈ k.outward, m.tag.id = id)
      (hrest : Passing id (s.step (.bring (told.report selector url))).scene rest t) : Passing id s (told :: rest) t

/-- Nothing is told of a value, nor of whether a control is checked. -/
def Told.IsSilent (told : Told) : Prop := told.value = none ∧ told.checked = none

/-- **An element that is told of stays where it is**, and as it is but for what the user has entered. -/
lemma Passing.holds {id parent : Id} {tag : Tag} {tells : List Told} (h : Passing id s tells t) (hid : tag.id = id)
    (hlinked : s.browser.isLinked = true) (hholds : s.page.forest.Holds parent tag) :
    t.browser.isLinked = true ∧ ∃ tag', t.page.forest.Holds parent tag' ∧ SameButEntry tag tag' ∧
      (keepsEntry tag = false ∨ (∀ told ∈ tells, told.IsSilent) → tag' = tag) := by
  induction h generalizing tag with
  | nil s => exact ⟨hlinked, tag, hholds, .refl tag, fun _ => rfl⟩
  | @cons s t told rest selector k url htype hfound hin hrest ih =>
    have htype' : told.type ∈ Recorder.documentEvents := by
      have hall : ∀ type ∈ passingEvents, type ∈ Recorder.documentEvents := by decide
      exact hall _ htype
    obtain ⟨u, hdelivered, hstep⟩ := bring_delivers hlinked hholds.distinct htype' hfound url
    have hk := hholds.distinct.locate? (Page.mem_locations_of_query? hfound)
    obtain ⟨tag₁, hholds₁, hsame₁, hkept₁⟩ := sync_holds hholds hk (hid ▸ hin) told.value told.checked
    rw [hstep] at ih
    obtain ⟨hlinked', tag₂, hholds₂, hsame₂, hkept₂⟩ := ih (hsame₁.id.trans hid) (hdelivered.browser ▸ hlinked)
      (by rw [show ({ u with log := [] } : Scene).page = u.page from rfl, hdelivered.page]; exact hholds₁)
    refine ⟨hlinked', tag₂, hholds₂, hsame₁.trans hsame₂, fun hquiet => ?_⟩
    have hfirst : tag₁ = tag := hkept₁ (hquiet.imp_right fun hall => hall told List.mem_cons_self)
    subst hfirst
    exact hkept₂ (hquiet.imp_right fun hall told' hmem => hall told' (List.mem_cons_of_mem _ hmem))

/-- **A removal that a browser reports is mirrored.**  An element is added as a browser tells, then events of it and of
what is in it are told, and then the same element is removed.  All the time it is a child of the element that it was
added to, and the same but for what the user has entered.  If that is what was there before, or nothing was entered that
it keeps among its attributes, a child is taken for it; and the child that is taken, and no other one, is removed, and
all who watch are told.  If none is taken, nothing happens. -/
theorem removal_mirrored {l' : Location} {tells : List Told} (hlinked : s.browser.isLinked = true)
    (h : s.page.forest.Numbered) (hparent : s.page.document.query? p = .ok (some l))
    (hgone : firstElement? html = some gone)
    (htells : Passing (gone.id + s.page.forest.nextId) (s.step (.bring (childReport "added" p html))).scene tells t)
    (hagain : t.page.document.query? p = .ok (some l')) (hsame : l'.tag.id = l.tag.id) :
    let o := t.step (.bring (childReport "removed" p html))
    (∃ tag ∈ l'.children.filterMap Node.tag?, SameButEntry { gone with id := gone.id + s.page.forest.nextId } tag ∧
      (Attrs.same tag.attrs gone.attrs = true → (twin? gone l').isSome = true)) ∧
    (keepsEntry gone = false ∨ (∀ told ∈ tells, told.IsSilent) → (twin? gone l').isSome = true) ∧
    (∀ u, twin? gone l' = some u → u.name = gone.name ∧ ∃ v, HasLost l' u v.page.forest ∧
      Shown (changed t (·.detach u.id)) ⟨l'.tag.id, .children [] [u.id]⟩ v ∧
        o = ⟨.ok .nothing, v.log, { v with log := [] }⟩) ∧
    (twin? gone l' = none → o = ⟨.ok .nothing, [], { t with log := [] }⟩) := by
  intro o
  obtain ⟨f, v, -, hholds, hshown, hstep⟩ := added_holds hlinked h hparent hgone
  rw [hstep] at htells
  obtain ⟨hlinked', tag, hholds', hentry, hkept⟩ := htells.holds rfl (hshown.browser ▸ hlinked)
    (by rw [show ({ v with log := [] } : Scene).page = v.page from rfl, hshown.page]; exact hholds)
  have htag : tag ∈ l'.children.filterMap Node.tag? :=
    (hsame ▸ hholds').mem_children (Page.mem_locations_of_query? hagain)
  have hfound : Attrs.same tag.attrs gone.attrs = true → (twin? gone l').isSome = true := fun hattrs =>
    List.find?_isSome.2 ⟨tag, htag, by simp [hentry.name, hattrs]⟩
  refine ⟨⟨tag, htag, hentry, hfound⟩, fun hquiet => hfound ?_, fun u htwin => ?_, removed_missed hlinked' hagain hgone⟩
  · rw [hkept hquiet]
    show Attrs.same gone.attrs gone.attrs = true
    exact Attrs.same_self (Forest.attrs_first hgone)
  · exact ⟨(twin?_eq_some htwin).2, removed_taken hlinked' hholds'.distinct hagain hgone htwin⟩

/-- The element that a selector finds. -/
def found? (p : Page) (selector : String) : Option Location := (p.document.query? selector).toOption.bind id

lemma query?_of_found? {p : Page} {selector : String} (h : found? p selector = some l) :
    p.document.query? selector = .ok (some l) := by
  unfold found? at h
  cases hquery : p.document.query? selector with
  | error fault => simp [hquery, Except.toOption] at h
  | ok found => simpa [hquery, Except.toOption] using h

/-- A page with a box for which a function watches, linked to a browser. -/
def box : Scene :=
  (showing [.element ⟨1, "div", [("id", .text "box")]⟩ []] 2 {}).after
    [.observe "watcher" { observer := .page "watcher", root := some 1 } .watch]

/-- What an element holds: the names and the attributes of the elements in it. -/
def heldBy (s : Scene) (id : Id) : Option (List (String × Attrs)) :=
  (s.page.forest.locate? id).map fun l => (l.children.filterMap Node.tag?).map fun t => (t.name, t.attrs)

/-- A line with a field is added to the box, the field is told a value, and the line is removed. -/
theorem line_removed :
    let html := "<p><input id=\"x\"></p>"
    let told : Told := { type := "input", element := 3, value := some "a" }
    let s := box.after [.bring (childReport "added" "#box" html)]
    let t := (s.step (.bring (told.report "#x" ""))).scene
    let o := t.step (.bring (childReport "removed" "#box" html))
    stateOf t.page.forest 3 = some ("a", false) ∧ (∃ l u, l.tag.id = 1 ∧ u.name = "p" ∧ HasLost l u o.scene.page.forest) ∧
      o.seen.filterMap (fun | .children observer target added removed => some (observer, target, added, removed)
                            | _ => none) = [("watcher", "#box", [], ["p"])] := by
  intro html told s t o
  obtain ⟨hnumbered, hgone, hbox, hid⟩ : box.page.forest.Numbered ∧ firstElement? html = some ⟨0, "p", []⟩ ∧
      (found? box.page "#box").isSome = true ∧ ∀ l ∈ found? box.page "#box", l.tag.id = 1 := by decide +kernel
  obtain ⟨hfield, hin, hbox', hid', hstate, hseen⟩ : (found? s.page "#x").isSome = true ∧
      (∀ k ∈ found? s.page "#x", ∃ m ∈ k.outward, m.tag.id = 0 + box.page.forest.nextId) ∧
      (found? t.page "#box").isSome = true ∧ (∀ l ∈ found? t.page "#box", l.tag.id = 1) ∧
      stateOf t.page.forest 3 = some ("a", false) ∧
      o.seen.filterMap (fun | .children observer target added removed => some (observer, target, added, removed)
                            | _ => none) = [("watcher", "#box", [], ["p"])] := by decide +kernel
  obtain ⟨l, hl⟩ := Option.isSome_iff_exists.1 hbox
  obtain ⟨k, hk⟩ := Option.isSome_iff_exists.1 hfield
  obtain ⟨l', hl'⟩ := Option.isSome_iff_exists.1 hbox'
  have hpassing : Passing (0 + box.page.forest.nextId) s [told] t :=
    .cons "" (by decide) (query?_of_found? hk) (hin k hk) (.nil t)
  obtain ⟨-, htwin, htaken, -⟩ := removal_mirrored rfl hnumbered (query?_of_found? hl) hgone hpassing
    (query?_of_found? hl') ((hid' l' hl').trans (hid l hl).symm)
  obtain ⟨u, hu⟩ := Option.isSome_iff_exists.1 (htwin (.inl (by decide +kernel)))
  obtain ⟨hname, v, hlost, -, hstep⟩ := htaken u hu
  refine ⟨hstate, ⟨l', u, hid' l' hl', hname, ?_⟩, hseen⟩
  rw [show o = _ from hstep]
  exact hlost

/-- **A field of which a value was told stays** when the browser reports that it was removed: the value is among its
attributes, and no child has the attributes that are told. -/
theorem entered_field_stays :
    let html := "<input id=\"x\">"
    let told : Told := { type := "input", element := 2, value := some "a" }
    let t := box.after [.bring (childReport "added" "#box" html)]
    let u := (t.step (.bring (told.report "#x" ""))).scene
    let o := u.step (.bring (childReport "removed" "#box" html))
    heldBy (t.step (.bring (childReport "removed" "#box" html))).scene 1 = some [] ∧
      heldBy o.scene 1 = some [("input", [("id", .text "x"), ("value", .text "a")])] ∧ o.seen.length = 0 := by
  decide +kernel

end Scene

end PageTape
