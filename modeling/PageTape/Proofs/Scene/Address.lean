import PageTape.Proofs.Scene.Delivered

/-!
# The address of a page that is linked to a browser

* `Anchors before url` — an address is another one with a fragment, which no second sharp begins;
* `tells? s a` — the address that the browser tells of, with a report of it or when it has loaded a page;
* `lastTold s url actions` — the one that it has told of last;
* `address_follows` — the page is at the address that was told last, and nobody hears of a page that is loaded there.  A
  move in the history and a page that is loaded are followed in any case, a new fragment only where it is one.
-/

namespace PageTape

namespace Page

/-- An address is another one with a fragment, which no second sharp begins. -/
def Anchors (before url : String) : Prop :=
  ∃ fragment : List Char, fragment.head? ≠ some '#' ∧ url.toList = (withoutHash before).toList ++ '#' :: fragment

/-- **When a fragment alone brings a page to an address.** -/
lemma urlWithHash_eq_iff (before url : String) :
    urlWithHash before (Scene.afterSharp url) = url ↔ Anchors before url := by
  have hurl : urlWithHash before (Scene.afterSharp url) = url ↔ (withoutHash before).toList ++
      '#' :: (((url.toList.dropWhile (· != '#')).drop 1).dropWhile (· == '#')) = url.toList := by
    rw [← String.toList_inj, urlWithHash, Scene.afterSharp, hashOf]
    simp only [String.toList_append, String.toList_ofList, List.append_assoc]
    rfl
  have hsharp : ∀ c ∈ (withoutHash before).toList, (c != '#') = true := by
    rw [withoutHash, String.toList_ofList]
    exact List.all_eq_true.1 List.all_takeWhile
  rw [hurl]
  constructor
  · intro h
    refine ⟨_, fun hhead => ?_, h.symm⟩
    have hnot := List.head?_dropWhile_not (· == '#') ((url.toList.dropWhile (· != '#')).drop 1)
    rw [hhead] at hnot
    exact absurd hnot (by decide)
  · rintro ⟨fragment, hhead, hurl⟩
    have hkept : fragment.dropWhile (· == '#') = fragment := by
      cases fragment with
      | nil => rfl
      | cons c rest => exact List.dropWhile_cons_of_neg (by simpa using hhead)
    rw [hurl, List.dropWhile_append_of_pos hsharp, List.dropWhile_cons_of_neg (by decide), List.drop_one, List.tail_cons,
      hkept]

instance (before url : String) : Decidable (Anchors before url) := decidable_of_iff _ (urlWithHash_eq_iff before url)

end Page

namespace Scene

open Page (Anchors)

variable {s t : Scene} {a : Action} {actions : List Action} {url : String} {report : Datum}

/-! ### What the browser tells -/

/-- The address that the browser tells of, if it is linked. -/
def tells? (s : Scene) (a : Action) : Option String :=
  if s.browser.isLinked && a.isArrival then
    some (match a with
      | .bring report => plainEntry report "url"
      | _ => s.browser.url)
  else none

/-- The browser tells of a new fragment. -/
def Action.isFragment : Action → Bool
  | bring report => plainEntry report "type" == "hashchange"
  | _ => false

/-- The address that the browser has told of last, if it told of one before. -/
def lastTold (s : Scene) (url : String) : List Action → String
  | [] => url
  | a :: rest => (s.step a).scene.lastTold ((s.tells? a).getD url) rest

/-- Where the browser tells of a new fragment, the address is the one it has told of before with that fragment. -/
def Anchored (s : Scene) (url : String) : List Action → Prop
  | [] => True
  | a :: rest => (∀ told ∈ s.tells? a, a.isFragment = true → Anchors url told) ∧
      (s.step a).scene.Anchored ((s.tells? a).getD url) rest

instance Anchored.decidable (s : Scene) (url : String) (actions : List Action) : Decidable (s.Anchored url actions) := by
  induction actions generalizing s url with
  | nil => exact .isTrue trivial
  | cons a rest ih => exact @instDecidableAnd _ _ _ (ih _ _)

/-! ### While the browser tells of no address -/

/-- Programs that keep the page in order and leave it where it is. -/
def resting : Course Scene where
  holds := Attached
  leads s t := tidyCourse.leads s t ∧ t.page.url = s.page.url
  refl _ := ⟨id, rfl⟩
  trans h h' := ⟨h'.1 ∘ h.1, h'.2.trans h.2⟩
  keeps h hs := h.1 hs

instance : Admits resting true true true true false where
  orderly h := h.toOrderly
  changed page browser listeners observers log _ hr hn _ _ hu _ :=
    ⟨(Move.changed _ page browser listeners observers log hr hn).attached, hu.resolve_left nofun⟩
  obeyed signal _ hin hc _ _ := ⟨(Move.obeyed _ signal _ hin hc).attached, rfl⟩

lemma stop_rests : resting.Runs (fun _ => True) stop fun _ s => s.recorder.active = none := by
  intro s hs _
  obtain ⟨htidy, hactive⟩ := stop_runs s hs trivial
  refine ⟨⟨htidy, ?_⟩, hactive⟩
  obtain ⟨r, -, ⟨fault, hrun⟩ | ⟨session, hrun⟩⟩ := stop_run hs.linked <;> rw [hrun]
  dsimp only
  split <;> rfl

lemma clear_rests : resting.Runs (fun _ => True) clear fun _ _ => True := by
  intro s hs _
  refine ⟨⟨clear_runs.leads hs trivial, ?_⟩, fun _ _ => trivial⟩
  rw [clear_run]
  dsimp only
  split <;> rfl

lemma start_rests : resting.Runs (fun _ => True) start fun _ _ => True :=
  start_runs_of stop_rests fun serial s hs hfree => by
    refine ⟨⟨(begin_attach_runs serial).leads hs hfree, ?_⟩, fun _ _ => trivial⟩
    rw [begin_attach_run]
    rfl

/-- **The page stays where it is**, whatever happens, unless it goes somewhere itself or the browser tells of it. -/
lemma perform_rests (ha : (a.isRoam || a.isArrival) = false) :
    resting.Runs (fun _ => True) (perform a) fun _ _ => True := by
  cases a with
  | start => exact .map start_rests
  | stop => exact .map (stop_rests.weaken fun _ _ _ => trivial)
  | clear => exact .bind clear_rests fun _ => .pure fun _ _ _ => trivial
  | _ =>
    exact perform_runs _ rfl (fun _ => rfl) (.inr rfl) (fun _ => rfl) (fun _ => rfl) fun h => by rw [ha] at h; cases h

lemma url_untold (h : s.Attached) (hroam : a.isRoam = false) (htold : s.tells? a = none) :
    (s.step a).scene.page.url = s.page.url := by
  by_cases harrival : a.isArrival = true
  · -- the page is not linked, so the browser is not heard
    have hlinked : s.browser.isLinked = false := by
      by_contra hlinked
      simp [tells?, harrival, Bool.eq_true_of_not_eq_false hlinked] at htold
    cases a with
    | pageLoaded => simp [step, perform, unanswered, pageLoaded, Course.run_bind, hlinked]
    | bring report => simp [step, perform, unanswered, bring, Course.run_bind, hlinked]
    | _ => cases harrival
  · exact ((perform_rests (by simp [hroam, harrival])).leads (h.withLog []) trivial).2

/-! ### When it tells of one -/

/-- The scene at an address, of which nobody has been told. -/
def movedTo (s : Scene) (url : String) : Scene := { s with page := { s.page with url }, log := [] }

/-- The page is brought to an address, and then an event of the window is heard. -/
lemma moved_run (s : Scene) (f : String → String) (type : String) :
    ∃ t, Delivered .window (s.movedTo (f s.page.url)) [⟨type, .window, none⟩] t ∧
      (do changePage fun p => { p with url := f p.url }
          discard <| deliver .window { type, target := .window } : Act Unit).run { s with log := [] } = (.ok ⟨⟩, t) := by
  obtain ⟨t, ht, hevent⟩ := deliver_run .window ⟨type, .window, none⟩ (s.movedTo (f s.page.url))
  refine ⟨t, hevent, ?_⟩
  have hmove : (changePage fun p => { p with url := f p.url }).run { s with log := [] } =
      (.ok ⟨⟩, s.movedTo (f s.page.url)) := rfl
  rw [Course.run_bind, hmove]
  dsimp only
  rw [Course.run_discard, ht]
  rfl

/-- A new fragment is put behind the address that the page has. -/
lemma url_fragment (hlinked : s.browser.isLinked = true) (htype : plainEntry report "type" = "hashchange") :
    (s.step (.bring report)).scene.page.url = Page.urlWithHash s.page.url (afterSharp (plainEntry report "url")) := by
  obtain ⟨t, hevent, hrun⟩ := moved_run s (Page.urlWithHash · (afterSharp (plainEntry report "url"))) "hashchange"
  have hact : bring report = (do
      if !(← get).browser.isLinked then return
      setHash (afterSharp (plainEntry report "url"))) := by
    unfold bring
    rw [htype]
    rfl
  rw [step_bring_run hlinked hact hrun]
  exact congrArg Page.url hevent.page

/-- A move in the history brings the page to its address. -/
lemma url_popState (hlinked : s.browser.isLinked = true) (htype : plainEntry report "type" = "popstate") :
    (s.step (.bring report)).scene.page.url = plainEntry report "url" := by
  obtain ⟨t, hevent, hrun⟩ := moved_run s (fun _ => plainEntry report "url") "popstate"
  have hact : bring report = (do
      if !(← get).browser.isLinked then return
      popState (plainEntry report "url")) := by
    unfold bring
    rw [htype]
    rfl
  rw [step_bring_run hlinked hact hrun]
  exact congrArg Page.url hevent.page

/-! ### When it has loaded a page -/

lemma snd_run_pageLoaded (s : Scene) : (pageLoaded.run s).2 = if s.browser.isLinked then
    if s.browser.url != s.page.url then ((navigate s.browser.url >>= fun _ => syncContent).run s).2
    else (syncContent.run s).2
    else s := by
  unfold pageLoaded
  rw [Course.run_bind, Course.run_get]
  dsimp only
  split
  · split <;> rfl
  · rfl

/-- What a page that is loaded does is known from the state that it leaves. -/
lemma step_pageLoaded (h : ((perform .pageLoaded).run { s with log := [] }).2 = t) :
    (s.step .pageLoaded).seen = t.log ∧ (s.step .pageLoaded).scene.recorder = t.recorder ∧
      (s.step .pageLoaded).scene.page.url = t.page.url := by
  subst h
  exact ⟨rfl, rfl, rfl⟩

/-- **A page is loaded where the page is already**: nobody is told, and nothing is recorded. -/
lemma pageLoaded_there (hurl : s.browser.url = s.page.url) : (s.step .pageLoaded).seen = [] ∧
    (s.step .pageLoaded).scene.recorder = s.recorder ∧ (s.step .pageLoaded).scene.page.url = s.page.url := by
  have hafter : ((perform .pageLoaded).run { s with log := [] }).2 =
      if s.browser.isLinked then { s with log := [] }.reloaded else { s with log := [] } := by
    unfold perform
    rw [snd_run_unanswered, snd_run_pageLoaded]
    simp [hurl, syncContent_run]
  split at hafter <;> exact step_pageLoaded hafter

/-- A page is loaded elsewhere: those who listen hear that the page is left. -/
lemma pageLoaded_elsewhere (hlinked : s.browser.isLinked = true) (hurl : s.browser.url ≠ s.page.url) :
    ∃ t, Delivered .window { s with log := [] } [⟨"beforeunload", .window, none⟩] t ∧
      (s.step .pageLoaded).seen = t.log ∧ (s.step .pageLoaded).scene.recorder = t.recorder ∧
      (s.step .pageLoaded).scene.page.url = s.browser.url := by
  obtain ⟨t, ht, hevent⟩ := deliver_run .window ⟨"beforeunload", .window, none⟩ { s with log := [] }
  refine ⟨t, hevent, ?_⟩
  have hafter : ((perform .pageLoaded).run { s with log := [] }).2 =
      { t with page := { t.page with url := s.browser.url } }.reloaded := by
    unfold perform
    rw [snd_run_unanswered, snd_run_pageLoaded, if_pos hlinked, if_pos (by simpa using hurl)]
    unfold navigate
    rw [Course.run_bind, Course.run_bind, Course.run_discard, ht]
    exact congrArg Prod.snd (syncContent_run _)
  exact step_pageLoaded hafter

/-! ### Over a whole run -/

/-- **The page is at the address that the browser tells of**, but for a new fragment of another address, or one that a
sharp begins. -/
lemma url_told (htold : s.tells? a = some url) :
    (s.step a).scene.page.url = url ↔ (a.isFragment = true → Anchors s.page.url url) := by
  obtain ⟨⟨hlinked, harrival⟩, rfl⟩ := by simpa [tells?] using htold
  cases a with
  | pageLoaded =>
    refine iff_of_true ?_ nofun
    by_cases hurl : s.browser.url = s.page.url
    · exact (pageLoaded_there hurl).2.2.trans hurl.symm
    · obtain ⟨t, -, -, -, h⟩ := pageLoaded_elsewhere hlinked hurl
      exact h
  | bring report =>
    dsimp only
    rcases (by simpa [Action.isArrival] using harrival : _ ∨ _) with htype | htype
    · rw [url_fragment hlinked htype, Page.urlWithHash_eq_iff]
      simp [Action.isFragment, htype]
    · exact iff_of_true (url_popState hlinked htype) (by simp [Action.isFragment, htype])
  | _ => cases harrival

/-- Step by step, the page stays at the address that was told last. -/
lemma url_lastTold (h : s.Attached) (hroam : ∀ a ∈ actions, a.isRoam = false) (hanchored : s.Anchored s.page.url actions) :
    (s.after actions).page.url = s.lastTold s.page.url actions := by
  induction actions generalizing s with
  | nil => rfl
  | cons a rest ih =>
    obtain ⟨hfirst, hrest⟩ := List.forall_mem_cons.1 hroam
    obtain ⟨hanchors, hlater⟩ := hanchored
    have hurl : (s.step a).scene.page.url = (s.tells? a).getD s.page.url := by
      cases htold : s.tells? a with
      | none => exact url_untold h hfirst htold
      | some told => exact (url_told htold).2 (hanchors told htold)
    rw [lastTold, ← hurl]
    exact ih (h.step a) hrest (hurl ▸ hlater)

/-- **The page follows its browser.**  Whatever happens, as long as the page does not go anywhere itself, a move in the
history and a page that is loaded bring it to the address that the browser tells of, and a new fragment does so just
where it is one of the address that the page has.  While all of them are, the page is at the address that was told last:
a page that is loaded there is heard of by nobody and records nothing, and one that is loaded elsewhere leaves it. -/
theorem address_follows (h : Reachable s) (hroam : ∀ a ∈ actions, a.isRoam = false) :
    let t := s.after actions
    (∀ a url, t.tells? a = some url →
      ((t.step a).scene.page.url = url ↔ (a.isFragment = true → Anchors t.page.url url))) ∧
    (s.Anchored s.page.url actions →
      t.page.url = s.lastTold s.page.url actions ∧
      (t.browser.url = s.lastTold s.page.url actions →
        (t.step .pageLoaded).seen = [] ∧ (t.step .pageLoaded).scene.recorder = t.recorder) ∧
      (t.browser.isLinked = true → t.browser.url ≠ s.lastTold s.page.url actions →
        ∃ u, Delivered .window { t with log := [] } [⟨"beforeunload", .window, none⟩] u ∧
          (t.step .pageLoaded).seen = u.log ∧ (t.step .pageLoaded).scene.recorder = u.recorder)) := by
  intro t
  refine ⟨fun a url => url_told, fun hanchored => ?_⟩
  have hurl : t.page.url = s.lastTold s.page.url actions := url_lastTold h.attached hroam hanchored
  rw [← hurl]
  refine ⟨rfl, fun hthere => ?_, fun hlinked helsewhere => ?_⟩
  · obtain ⟨hseen, hrecorder, -⟩ := pageLoaded_there hthere
    exact ⟨hseen, hrecorder⟩
  · obtain ⟨u, hevent, hseen, hrecorder, -⟩ := pageLoaded_elsewhere hlinked helsewhere
    exact ⟨u, hevent, hseen, hrecorder⟩

/-- The report of an address. -/
def addressReport (type url : String) : Datum := .map [("type", .text type), ("url", .text url)]

/-- A shop in a browser, of which a part is looked at, then the page before, and then another part of that one. -/
def browsed : List Action := [
  .bring (addressReport "hashchange" "https://shop.test/#cart"),
  .showPage (some "https://shop.test/#cart") none,
  .pageLoaded,
  .bring (addressReport "popstate" "https://shop.test/list"),
  .bring (addressReport "hashchange" "https://shop.test/list#end"),
  .showPage (some "https://shop.test/list#end") none]

/-- A page with a body, which is recorded. -/
def blank : Scene := showing [.element ⟨1, "body", []⟩ []] 2 {}

lemma blank_reachable : Reachable blank := (Reachable.fresh ⟨⟨rfl, rfl, rfl, rfl⟩, rfl, rfl, rfl, rfl, rfl⟩).after _

theorem browsed_followed : (blank.after browsed).page.url = "https://shop.test/list#end" ∧
    ((blank.after browsed).step .pageLoaded).scene.recorder.steps.map (fun step => (step.kind, step.url)) =
      [(.navigate, some "https://shop.test/"), (.waitForUrl, some "https://shop.test/#cart"),
        (.waitForUrl, some "https://shop.test/list"), (.waitForUrl, some "https://shop.test/list#end")] := by
  have hroam : ∀ a ∈ browsed, a.isRoam = false := by decide
  obtain ⟨-, hfollows⟩ := address_follows blank_reachable hroam
  obtain ⟨hurl, hthere, -⟩ := hfollows (by decide +kernel)
  obtain ⟨-, hrecorder⟩ := hthere (by decide +kernel)
  rw [hurl, hrecorder]
  decide +kernel

/-- **A fragment that is removed** is taken for an empty one: the page is at an address that the browser never had, and
when the page is loaded again it is taken for another one. -/
theorem fragment_removed :
    blank.tells? (.bring (addressReport "hashchange" "https://shop.test/")) = some "https://shop.test/" ∧
    (blank.step (.bring (addressReport "hashchange" "https://shop.test/"))).scene.page.url = "https://shop.test/#" ∧
    (blank.after [.bring (addressReport "hashchange" "https://shop.test/"), .pageLoaded]).recorder.steps.map
      (fun step => (step.kind, step.url)) =
        [(.navigate, some "https://shop.test/"), (.waitForUrl, some "https://shop.test/#"),
          (.navigate, some "https://shop.test/#")] := by
  decide +kernel

end Scene

end PageTape
