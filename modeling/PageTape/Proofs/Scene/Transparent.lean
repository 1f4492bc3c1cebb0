import PageTape.Proofs.Scene.Lifecycle
import PageTape.Proofs.Recorder.Idle

/-!
# A page does not notice that it is recorded

* `Page.alone`, `Scene.alone` — the page, and the scene, without anything that is there for the recorder;
* `SameAt s x y` — in the scene without the recorder, `y` does what `x` does in the scene `s`; `Transparent x` — the
  program does the same in both, and `Unseen s x` — it does nothing in the one without the recorder;
* `perform_transparent`, `perform_unseen` — of all that happens, the first holds of what the page, its user, its network
  and its browser do, and the second of what is asked of the recorder and of the passing of time;
* `recorder_unnoticed` — so whatever happens, the page gets to know the same with a recorder as without one.
-/

namespace PageTape

namespace Page

/-- The listeners that do not belong to the recorder. -/
def Listeners.alone (ls : Listeners) : Listeners := ls.filter (·.listener != .recorder)

/-- The recorder wants to hear of the end of a request. -/
def Hearer.isRecorder : Hearer → Bool
  | page _ => false
  | recorder _ _ _ => true

/-- The request object without the recorder that wants to hear of its end. -/
def Exchange.alone (e : Exchange) : Exchange := { e with hearers := e.hearers.filter (!·.2.isRecorder) }

/-- The call that no session counts. -/
def Call.alone (c : Call) : Call := { c with countedBy := none }

/-- **The page without anything that is there for the recorder.** -/
def alone (p : Page) : Page where
  url := p.url
  forest := p.forest
  documentListeners := p.documentListeners.alone
  windowListeners := p.windowListeners.alone
  watches := p.watches.filter (·.observer != .recorder)
  exchanges := p.exchanges.map fun e => (e.1, e.2.alone)
  nextExchange := p.nextExchange
  calls := p.calls.map fun c => (c.1, c.2.alone)

lemma lookup_map_snd {γ δ : Type} (f : γ → δ) (l : List (String × γ)) (key : String) :
    (l.map fun x => (x.1, f x.2)).lookup key = (l.lookup key).map f := by
  induction l with
  | nil => rfl
  | cons x rest ih =>
    rw [List.map_cons, List.lookup_cons, List.lookup_cons]
    split
    · rfl
    · exact ih

lemma exchange?_alone (p : Page) (key : String) : p.alone.exchange? key = (p.exchange? key).map Exchange.alone :=
  lookup_map_snd _ _ _

lemma Listeners.called_alone (ls : Listeners) (type : String) :
    ls.alone.called type = (ls.called type).filter (· != .recorder) := by
  simp only [called, Listeners.alone, List.filter_map, List.filter_append, List.filter_filter, Function.comp_def,
    Bool.and_comm, Bool.and_left_comm, Bool.and_assoc]

/-- What is added or removed without regard to the listeners of the recorder. -/
lemma Listeners.alone_add (ls : Listeners) {r : Registration} (h : r.listener ≠ .recorder) :
    (ls.add r).alone = ls.alone.add r := by
  have hmem : ls.alone.contains r = ls.contains r := by
    simp [Listeners.alone, h]
  unfold Listeners.add
  rw [hmem]
  split
  · rfl
  · simp [Listeners.alone, h]

lemma Listeners.alone_remove (ls : Listeners) (r : Registration) : (ls.remove r).alone = ls.alone.remove r := by
  simp only [Listeners.alone, Listeners.remove, List.filter_filter, Bool.and_comm]

/-- A listener of the recorder comes. -/
lemma Listeners.alone_foldl_add (rs : List Registration) (hr : ∀ r ∈ rs, r.listener = .recorder) (ls : Listeners) :
    (rs.foldl Listeners.add ls).alone = ls.alone := by
  induction rs generalizing ls with
  | nil => rfl
  | cons r rs ih =>
    obtain ⟨hr₁, hr₂⟩ := List.forall_mem_cons.1 hr
    rw [List.foldl_cons, ih hr₂]
    unfold Listeners.add Listeners.alone
    split <;> simp [hr₁]

lemma Listeners.alone_foldl_remove (rs : List Registration) (hr : ∀ r ∈ rs, r.listener = .recorder) (ls : Listeners) :
    (rs.foldl Listeners.remove ls).alone = ls.alone := by
  rw [Listeners.foldl_remove, Listeners.alone, List.filter_filter]
  refine List.filter_congr fun q _ => ?_
  by_cases hq : q.listener = .recorder
  · simp [hq]
  · have : q ∉ rs := fun hmem => hq (hr q hmem)
    simp [this]

lemma filter_addWatch_page {w : Watch} (ws : List Watch) (h : w.observer ≠ .recorder) :
    (addWatch w ws).filter (·.observer != .recorder) = addWatch w (ws.filter (·.observer != .recorder)) := by
  induction ws with
  | nil => simp [addWatch, h]
  | cons v rest ih =>
    by_cases he : v.observer = w.observer
    · simp [addWatch, he, h]
    · by_cases hv : v.observer = .recorder
      · have hv' : ¬ (Observer.recorder = w.observer) := hv ▸ he
        simp [addWatch, hv, hv', ih]
      · simp [addWatch, he, hv, ih]

lemma filter_addWatch_own {w : Watch} (ws : List Watch) (h : w.observer = .recorder) :
    (addWatch w ws).filter (·.observer != .recorder) = ws.filter (·.observer != .recorder) := by
  induction ws with
  | nil => simp [addWatch, h]
  | cons v rest ih =>
    by_cases he : v.observer = w.observer
    · simp [addWatch, he, h]
    · rw [addWatch, if_neg he, List.filter_cons, List.filter_cons, ih]

lemma alone_attach (p : Page) (serial : ℕ) : (Scene.attach p serial).alone = p.alone := by
  have hd : ∀ r ∈ Scene.documentRegistrations, r.listener = .recorder := by decide
  have hw : ∀ r ∈ Scene.windowRegistrations, r.listener = .recorder := by decide
  simp only [Scene.attach, alone, Listeners.alone_foldl_add _ hd, Listeners.alone_foldl_add _ hw,
    filter_addWatch_own _ (rfl : (Scene.recorderWatch p).observer = .recorder)]

lemma alone_detach (p : Page) : (Scene.detach p).alone = p.alone := by
  have hd : ∀ r ∈ Scene.documentRegistrations, r.listener = .recorder := by decide
  have hw : ∀ r ∈ Scene.windowRegistrations, r.listener = .recorder := by decide
  simp only [Scene.detach, alone, Listeners.alone_foldl_remove _ hd, Listeners.alone_foldl_remove _ hw,
    List.filter_filter, Bool.and_self]

lemma alone_changeExchange (p : Page) (key : String) {f g : Exchange → Exchange} (h : ∀ e, (f e).alone = g e.alone) :
    (p.changeExchange key f).alone = p.alone.changeExchange key g := by
  simp only [changeExchange, alone, List.map_map]
  congr 1
  refine List.map_congr_left fun e _ => ?_
  simp only [Function.comp]
  split <;> simp [h]

end Page

namespace Recorder

variable {r : Recorder}

/-- A callback that does not fail lets a step be added. -/
lemma add_returns (h : r.onAdded ≠ .fail) (step : Step) : ∃ b, ((add step).run r).1 = .ok b := by
  unfold add
  rw [Course.run_bind, Course.run_get]
  dsimp only
  split
  · obtain ⟨notices, htell⟩ := tell_added_run r.steps.length step (r.changeSteps (· ++ [step]))
    have hadded : (r.changeSteps (· ++ [step])).onAdded ≠ .fail := h
    rw [Course.run_bind, Course.run_set]
    dsimp only
    rw [Course.run_bind, htell, if_neg hadded]
    exact ⟨true, rfl⟩
  · exact ⟨false, rfl⟩

/-- A callback that does not fail lets a request end. -/
lemma requestEnded_returns (h : r.onAdded ≠ .fail) (url method : String) (status : Int) :
    ((requestEnded url method status).run r).1 = .ok ⟨⟩ := by
  have hlast : ∀ t : Recorder, ((get >>= fun r : Recorder =>
      if r.active.any (·.traffic.inFlight == 0) = true then awaitIdle else pure ⟨⟩ : Act Unit).run t).1 = .ok ⟨⟩ := by
    intro t
    rw [Course.run_bind, Course.run_get]
    dsimp only
    split <;> rfl
  unfold requestEnded
  rw [Course.run_bind, Course.run_modify]
  dsimp only
  rw [Course.run_bind, Course.run_get]
  dsimp only
  split
  · rfl
  rw [Course.run_bind, Course.run_set]
  dsimp only
  split
  · have hadded : ∀ f g, ((r.changeTraffic f).changeTraffic g).onAdded ≠ .fail := fun _ _ => h
    rw [Course.run_bind, Course.run_discard]
    obtain ⟨b, hb⟩ := add_returns (hadded _ _) _
    rw [hb]
    exact hlast _
  · exact hlast _

lemma requestEndedIn_returns (h : r.onAdded ≠ .fail) (serial : ℕ) (url method : String) (status : Int) :
    ((requestEndedIn serial url method status).run r).1 = .ok ⟨⟩ := by
  unfold requestEndedIn
  rw [Course.run_bind, Course.run_get]
  dsimp only
  split
  · exact requestEnded_returns h url method status
  · rfl

lemma requestBegun_onAdded (r : Recorder) : (requestBegun.run r).2.onAdded = r.onAdded := by
  unfold requestBegun cancelIdle
  rw [Course.run_bind, Course.run_modify]
  dsimp only
  rw [Course.run_modify]
  split <;> rfl

lemma requestSent?_returns (number : ℕ) (r : Recorder) : ∃ sent, ((requestSent? number).run r).1 = .ok sent := by
  unfold requestSent?
  rw [Course.run_bind, Course.run_get]
  dsimp only
  split
  · exact ⟨_, rfl⟩
  · split
    · split
      · exact ⟨_, rfl⟩
      · exact ⟨_, rfl⟩
    · exact ⟨_, rfl⟩

end Recorder

namespace Scene

variable {α β : Type} {s t : Scene}

/-- **The scene without its recorder**: another one takes its place that has not been asked for anything. -/
def alone (s : Scene) : Scene where
  page := s.page.alone
  recorder := {}
  browser := { s.browser with counted := [] }
  listeners := s.listeners
  observers := s.observers
  log := s.log.filter (!·.isStep)

lemma alone_counted (s : Scene) : s.alone.browser.counted = [] := rfl

/-- In the scene without the recorder, `y` answers what `x` answers in the scene, and leaves what `x` leaves but for the
recorder. -/
def SameAt (s : Scene) (x y : Act α) : Prop := y.run s.alone = ((x.run s).1, (x.run s).2.alone)

/-- The callback for new steps returns. -/
def Returns (s : Scene) : Prop := s.recorder.onAdded ≠ .fail

/-- **A program is transparent** if it does the same in each scene as in that without the recorder. -/
abbrev Transparent (x : Act α) : Prop := ∀ s, SameAt s x x

/-- A program gives an answer, and leaves the scene without the recorder as it is. -/
structure Unseen (s : Scene) (x : Act α) (a : α) : Prop where
  answer : (x.run s).1 = .ok a
  scene : (x.run s).2.alone = s.alone

namespace SameAt

variable {x y : Act α} {f g : α → Act β}

protected lemma pure (a : α) : SameAt s (pure a) (pure a) := rfl

protected lemma throw (fault : Fault) : SameAt s (throw fault : Act α) (throw fault) := rfl

protected lemma bind (hx : SameAt s x y) (hf : ∀ a, SameAt (x.run s).2 (f a) (g a)) :
    SameAt s (x >>= f) (y >>= g) := by
  unfold SameAt at hx
  unfold SameAt
  rw [Course.run_bind, Course.run_bind, hx]
  rcases hr : x.run s with ⟨_ | a, t⟩
  · rfl
  · rw [hr] at hf
    exact hf a

/-- What is not seen in the scene without the recorder may come before. -/
lemma skip {a : α} {z : Act β} (hx : Unseen s x a) (hf : SameAt (x.run s).2 (f a) z) : SameAt s (x >>= f) z := by
  obtain ⟨ha, ht⟩ := hx
  unfold SameAt at hf
  unfold SameAt
  rw [← ht, hf, Course.run_bind]
  rcases hr : x.run s with ⟨r, t⟩
  rw [hr] at ha
  cases ha
  rfl

protected lemma get {f g : Scene → Act β} (h : SameAt s (f s) (g s.alone)) : SameAt s (get >>= f) (get >>= g) := by
  unfold SameAt at h
  unfold SameAt
  rw [Course.run_bind, Course.run_bind, Course.run_get, Course.run_get]
  exact h

protected lemma map (g : α → β) (h : SameAt s x y) : SameAt s (g <$> x) (g <$> y) := by
  unfold SameAt at h
  unfold SameAt
  rw [Course.run_map, Course.run_map, h]

protected lemma discard (h : SameAt s x y) : SameAt s (discard x) (discard y) := h.map _

protected lemma ite {c : Prop} [Decidable c] {x' y' : Act α} (hx : SameAt s x y) (hy : SameAt s x' y') :
    SameAt s (if c then x else x') (if c then y else y') := by
  split
  · exact hx
  · exact hy

/-- A program that first makes sure of something. -/
lemma throwIf {c : Prop} [Decidable c] {fault : Fault} {rest rest' : PUnit → Act α}
    (h : ∀ u, SameAt s (rest u) (rest' u)) :
    SameAt s (if c then throw fault >>= rest else rest ⟨⟩) (if c then throw fault >>= rest' else rest' ⟨⟩) := by
  split
  · rfl
  · exact h _

protected lemma ofExcept (r : Except Fault α) : SameAt s (ofExcept r) (ofExcept r) := by
  cases r <;> rfl

/-- A program for each item of a list, some of which do nothing without the recorder. -/
lemma forM {τ : Type} (q : τ → Bool) {g k : τ → Act Unit} (l : List τ)
    (h : ∀ a ∈ l, q a = true → ∀ s, SameAt s (g a) (k a)) (h' : ∀ a ∈ l, q a = false → ∀ s, Unseen s (g a) ⟨⟩) :
    SameAt s (l.forM g) ((l.filter q).forM k) := by
  induction l generalizing s with
  | nil => rfl
  | cons a rest ih =>
    obtain ⟨ha, hrest⟩ := List.forall_mem_cons.1 h
    obtain ⟨ha', hrest'⟩ := List.forall_mem_cons.1 h'
    by_cases hq : q a = true
    · rw [List.filter_cons_of_pos hq]
      exact .bind (ha hq s) fun _ => ih hrest hrest'
    · rw [List.filter_cons_of_neg hq]
      exact .skip (ha' (by simpa using hq) s) (ih hrest hrest')

lemma changePage {f g : Page → Page} (h : (f s.page).alone = g s.page.alone) :
    SameAt s (changePage f) (changePage g) := by
  unfold SameAt Scene.changePage
  rw [Course.run_modify, Course.run_modify]
  simp [alone, h]

end SameAt

/-- What the recorder does is not seen, whether it fails or not. -/
lemma alone_byRecorder (act : Page → Recorder.Act α) (s : Scene) : ((byRecorder act).run s).2.alone = s.alone := by
  have hsteps : ∀ notices : List Notice, (notices.map Entry.step).filter (!·.isStep) = [] := fun notices => by
    simp [List.filter_eq_nil_iff, Entry.isStep]
  rw [byRecorder_run]
  simp [alone, hsteps]

namespace Unseen

protected lemma get {f : Scene → Act β} {b : β} (h : Unseen s (f s) b) : Unseen s (get >>= f) b :=
  ⟨h.answer, h.scene⟩

protected lemma pure (a : α) : Unseen s (pure a) a := ⟨rfl, rfl⟩

protected lemma bind {x : Act α} {f : α → Act β} {a : α} {b : β} (hx : Unseen s x a)
    (hf : Unseen (x.run s).2 (f a) b) : Unseen s (x >>= f) b := by
  have hrun : (x >>= f).run s = (f a).run (x.run s).2 := by
    rw [Course.run_bind]
    rcases hr : x.run s with ⟨r, t⟩
    have ha := hx.answer
    rw [hr] at ha
    cases ha
    rfl
  exact ⟨hrun ▸ hf.answer, hrun ▸ hf.scene.trans hx.scene⟩

lemma changePage {f : Page → Page} (h : (f s.page).alone = s.page.alone) : Unseen s (changePage f) ⟨⟩ := by
  refine ⟨rfl, ?_⟩
  unfold Scene.changePage
  rw [Course.run_modify]
  simp [alone, h]

lemma changeBrowser {f : Browser → Browser}
    (h : ∀ b, ({ f b with counted := [] } : Browser) = { b with counted := [] }) : Unseen s (changeBrowser f) ⟨⟩ := by
  refine ⟨rfl, ?_⟩
  unfold Scene.changeBrowser
  rw [Course.run_modify]
  simp [alone, h]

/-- In the scene without the recorder nothing is done. -/
lemma sameAt {x : Act α} {a : α} (h : Unseen s x a) : SameAt s x (Pure.pure a) := Prod.ext h.answer.symm h.scene.symm

lemma byRecorder {act : Page → Recorder.Act α} {a : α} (h : ((act s.page).run s.recorder).1 = .ok a) :
    Unseen s (byRecorder act) a := by
  refine ⟨?_, alone_byRecorder act s⟩
  rw [byRecorder_run]
  exact h

lemma quietly (act : Page → Recorder.Act Unit) : Unseen s (quietly (Scene.byRecorder act)) ⟨⟩ := by
  refine ⟨by rw [run_quietly], ?_⟩
  rw [run_quietly]
  exact alone_byRecorder act s

end Unseen

namespace Transparent

variable {x : Act α}

protected lemma pure (a : α) : Transparent (pure a : Act α) := fun _ => rfl

protected lemma throw (fault : Fault) : Transparent (throw fault : Act α) := fun _ => rfl

protected lemma bind {f : α → Act β} (hx : Transparent x) (hf : ∀ a, Transparent (f a)) : Transparent (x >>= f) :=
  fun s => .bind (hx s) fun a => hf a _

protected lemma map (g : α → β) (hx : Transparent x) : Transparent (g <$> x) := fun s => (hx s).map g

protected lemma discard (hx : Transparent x) : Transparent (discard x) := hx.map _

protected lemma get {f : Scene → Act β} (h : ∀ s, SameAt s (f s) (f s.alone)) : Transparent (get >>= f) :=
  fun s => .get (h s)

/-- A program that reads what is the same without the recorder. -/
lemma reads {f : Scene → Act β} (h : ∀ s : Scene, f s.alone = f s) (hf : ∀ s, Transparent (f s)) :
    Transparent (get >>= f) := fun s => .get (by rw [h]; exact hf s s)

protected lemma ite {c : Prop} [Decidable c] {x y : Act α} (hx : Transparent x) (hy : Transparent y) :
    Transparent (if c then x else y) := fun s => .ite (hx s) (hy s)

protected lemma ofExcept (r : Except Fault α) : Transparent (ofExcept r) := fun _ => .ofExcept r

lemma changePage {f : Page → Page} (h : ∀ p, (f p).alone = f p.alone) : Transparent (changePage f) :=
  fun s => .changePage (h s.page)

lemma changeForest (f : Dom.Forest → Dom.Forest) : Transparent (changeForest f) := .changePage fun _ => rfl

/-- The onlookers see something that is no step. -/
lemma see (entry : Entry) (h : entry.isStep = false) : Transparent (see entry) := fun s => by
  unfold SameAt Scene.see
  rw [Course.run_modify, Course.run_modify]
  simp [alone, h]

lemma changeBrowser {f : Browser → Browser}
    (h : ∀ b, ({ f b with counted := [] } : Browser) = f { b with counted := [] }) :
    Transparent (changeBrowser f) := fun s => by
  unfold SameAt Scene.changeBrowser
  rw [Course.run_modify, Course.run_modify]
  simp [alone, h]

/-! ### Events and changes -/

lemma callListener (event : Page.Event) (name : String) : Transparent (callListener event (.page name)) :=
  .reads (fun _ => rfl) fun _ => .bind (.see _ rfl) fun _ => .pure _

/-- Listeners are called, of whom the recorder is heard of nowhere else. -/
lemma callListeners (event : Page.Event) (listeners : List Page.Listener) (s : Scene) :
    SameAt s (callListeners event listeners) (callListeners event (listeners.filter (· != .recorder))) := by
  induction listeners generalizing s with
  | nil => rfl
  | cons listener rest ih =>
    cases listener with
    | page name =>
      exact .bind (Transparent.callListener event name s) fun _ => .bind (ih _) fun _ => .pure _
    | recorder =>
      have hown : Unseen s (Scene.callListener event .recorder) true := .bind (.quietly _) (.pure _)
      refine .skip hown ?_
      simpa using ih _

lemma deliver (hall : Hall) (event : Page.Event) : Transparent (deliver hall event) := .get fun s => by
  have hlisteners : hall.listeners s.alone.page = (hall.listeners s.page).alone := by cases hall <;> rfl
  rw [hlisteners, Page.Listeners.called_alone]
  exact Transparent.callListeners event _ s

lemma fire (type : String) (id : Dom.Id) (key : Option String) : Transparent (fire type id key) := .deliver _ _

lemma callObserver (mutation : Page.Mutation) (name : String) : Transparent (callObserver mutation (.page name)) := by
  refine .reads (fun _ => rfl) fun s => ?_
  dsimp only
  split
  · exact .see _ rfl
  · exact .see _ rfl

lemma notify (target : Dom.Id) (change : Page.Change) : Transparent (notify target change) := .get fun s => by
  have hwatches : s.alone.page.watches.filter (·.sees s.alone.page.forest ⟨target, change⟩) =
      (s.page.watches.filter (·.sees s.page.forest ⟨target, change⟩)).filter (·.observer != .recorder) := by
    simp only [alone, Page.alone, List.filter_filter, Bool.and_comm]
  dsimp only
  rw [hwatches]
  refine .forM _ _ (fun w _ hw => ?_) fun w _ hw t => ?_
  · cases ho : w.observer with
    | page name => exact Transparent.callObserver _ name
    | recorder => simp [ho] at hw
  · have ho : w.observer = .recorder := by simpa using hw
    rw [ho]
    exact .quietly _

/-! ### Elements and controls -/

lemma append (parent child : Dom.Id) : Transparent (append parent child) := by
  unfold Scene.append
  exact fun s => .throwIf fun _ => .bind (Transparent.changeForest _ s) fun _ => Transparent.notify _ _ _

lemma appendHtml (parent : Dom.Id) (html : String) : Transparent (appendHtml parent html) :=
  .reads (fun _ => rfl) fun _ => .bind (.ofExcept _) fun _ => .bind (.changeForest _) fun _ =>
    .bind (.append _ _) fun _ => .pure _

lemma create (name : String) (attrs : List (String × String)) (text : Option String) :
    Transparent (create name attrs text) :=
  .reads (fun _ => rfl) fun _ => .bind (.changeForest _) fun _ => .pure _

lemma remove (id : Dom.Id) : Transparent (remove id) := by
  refine .reads (fun _ => rfl) fun s => ?_
  split
  · exact .pure _
  · exact .bind (.changeForest _) fun _ => .notify _ _

lemma setAttr (id : Dom.Id) (name value : String) : Transparent (setAttr id name value) :=
  .bind (.changeForest _) fun _ => .notify _ _

lemma eraseAttr (id : Dom.Id) (name : String) : Transparent (eraseAttr id name) :=
  .reads (fun _ => rfl) fun _ => .ite (.bind (.changeForest _) fun _ => .notify _ _) (.pure _)

lemma load (html : String) : Transparent (load html) := by
  refine .reads (fun _ => rfl) fun s => .bind (.changeForest _) fun _ => ?_
  split
  · exact .throw _
  · exact .pure _

lemma located (id : Dom.Id) : Transparent (located id) := .reads (fun _ => rfl) fun _ => .pure _

lemma submit (form : Dom.Id) : Transparent (submit form) := .discard (.fire _ _ _)

lemma enter (id : Dom.Id) (value : String) : Transparent (enter id value) :=
  .bind (.changeForest _) fun _ => .discard (.fire _ _ _)

lemma typeFrom (id : Dom.Id) (value : String) (text : List Char) : Transparent (typeFrom id value text) := by
  induction text generalizing value with
  | nil => exact .pure _
  | cons c rest ih => exact .bind (.enter _ _) fun _ => ih _

lemma typeText (id : Dom.Id) (text : String) : Transparent (typeText id text) := by
  refine .bind (.located _) fun l? => ?_
  cases l? with
  | none => exact .pure _
  | some l => exact .typeFrom _ _ _

lemma fill (id : Dom.Id) (value : String) : Transparent (fill id value) :=
  .bind (.enter _ _) fun _ => .discard (.fire _ _ _)

lemma click (id : Dom.Id) : Transparent (click id) := by
  refine .bind (.located _) fun l? => ?_
  cases l? with
  | none => exact .pure _
  | some l =>
    refine .bind (.changeForest _) fun _ => .bind (.fire _ _ _) fun allowed => .ite (.ite ?_ (.ite ?_ ?_)) (.pure _)
    · exact .bind (.discard (.fire _ _ _)) fun _ => .discard (.fire _ _ _)
    · refine .bind (.located _) fun l? => ?_
      split
      · exact .submit _
      · exact .pure _
    · exact .pure _

lemma press (id : Dom.Id) (key : String) : Transparent (press id key) := .discard (.fire _ _ _)

lemma sync (id : Dom.Id) (value : Option String) (checked : Option Bool) : Transparent (sync id value checked) := by
  refine .bind (.located _) fun l? => ?_
  cases l? with
  | none => exact .pure _
  | some l => exact .changeForest _

lemma changeUrl (f : String → String) : Transparent (Scene.changePage fun p => { p with url := f p.url }) :=
  .changePage fun _ => rfl

lemma navigate (url : String) : Transparent (navigate url) :=
  .bind (.discard (.deliver _ _)) fun _ => .changeUrl fun _ => url

lemma setHash (fragment : String) : Transparent (setHash fragment) :=
  .bind (.changeUrl (Page.urlWithHash · fragment)) fun _ => .discard (.deliver _ _)

lemma popState (url : String) : Transparent (popState url) :=
  .bind (.changeUrl fun _ => url) fun _ => .discard (.deliver _ _)

/-! ### Onlookers -/

lemma changeHall (hall : Hall) {f : Page.Listeners → Page.Listeners} (h : ∀ ls, (f ls).alone = f ls.alone) :
    Transparent (Scene.changePage (hall.change f)) :=
  .changePage fun p => by cases hall <;> simp [Hall.change, Page.alone, h]

lemma unlisten (hall : Hall) (name type : String) (capture : Bool) :
    Transparent (Scene.changePage (hall.change (·.remove ⟨type, .page name, capture⟩))) :=
  .changeHall hall fun ls => ls.alone_remove _

lemma listen (hall : Hall) (name type : String) (capture : Bool) (behaviour : Page.Behaviour) :
    Transparent (listen hall name type capture behaviour) := fun s => by
  have h := fun ls : Page.Listeners => ls.alone_add (r := ⟨type, .page name, capture⟩) nofun
  unfold SameAt Scene.listen
  rw [Course.run_modify, Course.run_modify]
  cases hall <;> simp [alone, Hall.change, Page.alone, h]

lemma observe (name : String) (watch : Page.Watch) (behaviour : Page.Behaviour) :
    Transparent (observe name watch behaviour) := fun s => by
  have h := Page.filter_addWatch_page (w := { watch with observer := .page name }) s.page.watches nofun
  unfold SameAt Scene.observe
  rw [Course.run_modify, Course.run_modify]
  simp [alone, Page.alone, h]

lemma disconnect (name : String) : Transparent (disconnect name) :=
  .changePage fun p => by simp [Page.alone, Bool.and_comm]

/-! ### Requests -/

/-- That a call is counted is not seen. -/
lemma countCall_unseen (s : Scene) : ∃ serial, Unseen s countCall serial := by
  unfold countCall
  cases hlayers : s.page.layers with
  | nil =>
    refine ⟨none, .get ?_⟩
    rw [hlayers]
    exact .pure _
  | cons n rest =>
    by_cases hr : s.recorder.isRecording = true
    · refine ⟨some n, .get ?_⟩
      rw [hlayers]
      simp only [hr, if_true]
      exact .bind (.byRecorder (a := ⟨⟩) rfl) (.pure _)
    · refine ⟨none, .get ?_⟩
      rw [hlayers]
      simp only [hr]
      exact .pure _

lemma countCall_returns (h : s.Returns) : (countCall.run s).2.Returns := by
  unfold countCall
  rw [Course.run_bind, Course.run_get]
  dsimp only
  split
  · exact h
  · split
    · have hbegun : ((byRecorder fun _ => Recorder.requestBegun).run s).2.Returns := by
        rw [byRecorder_run]
        exact (Recorder.requestBegun_onAdded s.recorder).trans_ne h
      exact hbegun
    · exact h

lemma endCall_sameAt (h : s.Returns) (request : Page.Request) (serial : Option ℕ) (status : Int) :
    SameAt s (endCall request serial status) (endCall request none status) := by
  have hlast : Transparent (if (status == 0) = true then throw (.networkFailed request.url) >>= fun _ : PUnit =>
      pure ⟨request.url, status⟩ else pure ⟨request.url, status⟩ : Act Reply) := fun t => .throwIf fun _ => .pure _
  cases serial with
  | none => exact hlast s
  | some serial => exact .skip (.byRecorder (Recorder.requestEndedIn_returns h _ _ _ _)) (hlast _)

lemma fetch_sameAt (h : s.Returns) (resource : Page.Resource) (init : Datum) (status : Int) (offline : Bool) :
    SameAt s (fetch resource init status offline) (fetch resource init status offline) := by
  obtain ⟨serial, hcount⟩ := countCall_unseen s
  have ht := countCall_returns h
  have hrest : SameAt s (fetch resource init status offline) (if offline = true then
      endCall (.ofCall resource init) none 0
    else
      Scene.see (.request (.ofCall resource init)) >>= fun _ => endCall (.ofCall resource init) none status) := by
    have hseen : ((Scene.see (.request (.ofCall resource init))).run (countCall.run s).2).2.Returns := ht
    refine .skip hcount (.ite (endCall_sameAt ht _ _ _) ?_)
    exact .bind (Transparent.see _ rfl _) fun _ => endCall_sameAt hseen _ _ _
  exact hrest

lemma startCall (key : String) (resource : Page.Resource) (init : Datum) :
    Transparent (startCall key resource init) := fun s => by
  obtain ⟨serial, hcount⟩ := countCall_unseen s
  have hrest : SameAt s (Scene.startCall key resource init)
      (Scene.see (.request (.ofCall resource init)) >>= fun _ => Scene.changePage fun p => { p with
        calls := (key, { request := .ofCall resource init, countedBy := none }) :: p.calls.filter (·.1 != key) }) := by
    refine .skip hcount (.bind (Transparent.see _ rfl _) fun _ => .changePage ?_)
    simp [Page.alone, Page.Call.alone, List.filter_map, Function.comp_def]
  exact hrest

lemma settleCall_sameAt (h : s.Returns) (key : String) (status : Int) :
    SameAt s (settleCall key status) (settleCall key status) := by
  refine .get ?_
  have hcalls : s.alone.page.calls.lookup key = (s.page.calls.lookup key).map Page.Call.alone :=
    Page.lookup_map_snd _ _ _
  rw [hcalls]
  cases s.page.calls.lookup key with
  | none => rfl
  | some call =>
    have hdropped : ((Scene.changePage fun p => { p with calls := p.calls.filter (·.1 != key) }).run s).2.Returns := h
    refine .bind (.changePage ?_) fun _ => .map _ (endCall_sameAt hdropped _ _ _)
    simp [Page.alone, List.filter_map, Function.comp_def]

lemma changeExchange (key : String) {f : Page.Exchange → Page.Exchange} (h : ∀ e, (f e).alone = f e.alone) :
    Transparent (Scene.changePage (·.changeExchange key f)) := .changePage fun p => p.alone_changeExchange key h

lemma makeExchange (key : String) : Transparent (Scene.makeExchange key) :=
  .changePage fun p => by
    simp [Page.alone, Page.newExchange, Page.Exchange.alone, List.filter_map, Function.comp_def]

lemma openExchange (key method : String) (url : Datum) : Transparent (openExchange key method url) := .get fun s => by
  rw [show s.alone.page.exchange? key = _ from Page.exchange?_alone _ _]
  cases s.page.exchange? key with
  | none => rfl
  | some e =>
    have hrest : Transparent (Scene.changePage (·.changeExchange key fun e =>
        { e with method := Text.upper method, url := url.plain, phase := .opened })) := .changeExchange key fun _ => rfl
    dsimp only [Option.map_some]
    split
    · exact .skip (.byRecorder (a := ⟨⟩) rfl) (hrest _)
    · exact hrest s

lemma sendExchange (key : String) (arguments : List Datum) :
    Transparent (sendExchange key arguments) := .get fun s => by
  rw [show s.alone.page.exchange? key = _ from Page.exchange?_alone _ _]
  cases s.page.exchange? key with
  | none => rfl
  | some e =>
    have hlast : Transparent (Scene.changePage (·.changeExchange key fun e =>
        { e with body := arguments.headD .null, phase := .sent })) := .changeExchange key fun _ => rfl
    dsimp only [Option.map_some]
    split
    · obtain ⟨sent, hsent⟩ := Recorder.requestSent?_returns e.number s.recorder
      refine .skip (.byRecorder hsent) ?_
      cases sent with
      | none => exact .throwIf fun _ => .throwIf fun _ => hlast _
      | some sent =>
        refine .skip (a := ⟨⟩) (.changePage ?_) ?_
        · rw [Page.alone_changeExchange _ key (g := id) fun e => by simp [Page.Exchange.alone, Page.Hearer.isRecorder]]
          simp [Page.changeExchange]
        · exact .throwIf fun _ => .throwIf fun _ => hlast _
    · exact .throwIf fun _ => .throwIf fun _ => hlast s

lemma hearExchange (key type : String) (behaviour : Page.Behaviour) : Transparent (hearExchange key type behaviour) :=
  .changeExchange key fun e => by simp [Page.Exchange.alone, Page.Hearer.isRecorder]

lemma callHearers (key type : String) : Transparent (callHearers key type) := .get fun s => by
  rw [show s.alone.page.exchange? key = _ from Page.exchange?_alone _ _]
  cases s.page.exchange? key with
  | none => rfl
  | some e =>
    have hhearers : e.alone.hearers.filter (·.1 == type) =
        (e.hearers.filter (·.1 == type)).filter (!·.2.isRecorder) := by
      simp only [Page.Exchange.alone, List.filter_filter, Bool.and_comm]
    dsimp only [Option.map_some]
    rw [hhearers]
    refine .forM _ _ (fun g _ hg => ?_) fun g _ hg t => ?_
    · cases hearer : g.2 with
      | page behaviour => exact Transparent.see _ rfl
      | recorder => simp [hearer, Page.Hearer.isRecorder] at hg
    · cases hearer : g.2 with
      | page behaviour => simp [hearer, Page.Hearer.isRecorder] at hg
      | recorder => exact .quietly _

lemma endExchange (key type : String) {f : Page.Exchange → Page.Exchange} (h : ∀ e, (f e).alone = f e.alone) :
    Transparent (endExchange key type f) :=
  .bind (.changeExchange key fun e => congrArg (fun e : Page.Exchange => { e with phase := .done }) (h e))
    fun _ => .bind (.callHearers _ _) fun _ => .callHearers _ _

/-! ### The browser -/

lemma syncContent : Transparent syncContent := .reads (fun _ => rfl) fun _ => .load _

lemma pageLoaded : Transparent pageLoaded :=
  .reads (fun _ => rfl) fun _ => .ite (.ite (.bind (.navigate _) fun _ => .syncContent) .syncContent) (.pure _)

lemma named? (selector : Datum) : Transparent (named? selector) :=
  .ite (.pure _) (.reads (fun _ => rfl) fun _ => .ofExcept _)

lemma resolve? (selector : Datum) : Transparent (resolve? selector) := by
  refine .ite (.pure _) (.bind (.named? _) fun l? => ?_)
  cases l? with
  | none => exact .bind .syncContent fun _ => .named? _
  | some l => exact .pure _

lemma bringAdded (report : Datum) : Transparent (bringAdded report) := by
  refine .bind (.named? _) fun parent? => ?_
  cases parent? with
  | none => exact .pure _
  | some parent =>
    intro s
    have h := Transparent.appendHtml parent.tag.id (reportText report "html").plain s
    unfold SameAt at h
    unfold SameAt
    dsimp only
    rw [Course.run_bind, Course.run_bind, Course.run_tryCatch, Course.run_tryCatch, Course.run_bind, Course.run_bind,
      Course.run_discard, Course.run_discard, h]
    rcases (Scene.appendHtml parent.tag.id (reportText report "html").plain).run s with ⟨fault | _, t⟩
    · cases fault <;> rfl
    · rfl

lemma bringRemoved (report : Datum) : Transparent (bringRemoved report) := by
  refine .bind (.named? _) fun parent? => ?_
  cases parent? with
  | none => exact .pure _
  | some parent =>
    dsimp only
    split
    · exact .pure _
    · split
      · exact .remove _
      · exact .pure _

lemma bringAttr (report : Datum) : Transparent (bringAttr report) := by
  refine .bind (.named? _) fun found => ?_
  cases found with
  | none => exact .pure _
  | some l =>
    refine .ite (.pure _) ?_
    split
    · exact .eraseAttr _ _
    · exact .setAttr _ _ _

lemma bringEvent (type : String) (report : Datum) : Transparent (bringEvent type report) := by
  refine .bind (.resolve? _) fun l? => ?_
  cases l? with
  | none => exact .pure _
  | some l => exact .bind (.sync _ _ _) fun _ => .discard (.fire _ _ _)

lemma bring (report : Datum) : Transparent (bring report) := by
  refine .reads (fun _ => rfl) fun s => .ite (.pure _) ?_
  split
  · exact .setHash _
  · exact .popState _
  · exact .bringAdded _
  · exact .bringRemoved _
  · exact .bringAttr _
  · exact .ite (.bringEvent _ _) (.pure _)

lemma requestReported (key : String) (reported : Reported) : Transparent (requestReported key reported) := by
  refine .reads (fun _ => rfl) fun s => .bind (.changeBrowser fun _ => rfl) fun _ => .get fun t => ?_
  have hidle : t.alone.recorder.isRecording = false := rfl
  simp only [hidle, Bool.and_false, Bool.false_and, Bool.false_eq_true, if_false]
  split
  · exact Unseen.sameAt (a := PUnit.unit) (.bind (.changeBrowser fun _ => rfl) (.byRecorder rfl))
  · rfl

lemma endReported_sameAt (h : s.Returns) (key : String) (status : Int) :
    SameAt s (endReported key status) (endReported key status) := by
  refine .get ?_
  dsimp only [alone_counted, List.lookup_nil]
  split
  · rfl
  · have hended := fun url method =>
      Recorder.requestEnded_returns (r := s.recorder) h url method status
    refine Unseen.sameAt (a := PUnit.unit) (.bind (.changeBrowser fun _ => rfl) ?_)
    split
    · exact .byRecorder (hended _ _)
    · exact .pure _

end Transparent

/-! ### Everything that can happen -/

/-- The page, its user, its network or its browser does something; else the recorder is asked for something, or time
passes. -/
def Action.isPage : Action → Bool
  | start | pause | resume | stop | clear | addStep _ | removeStep _ | updateStep _ _ _ | callbacks _ _
  | requestBegun | requestEnded _ _ _ | advance _ | runAll => false
  | _ => true

/-- **What the page does is the same without the recorder.** -/
theorem perform_transparent (h : s.Returns) (a : Action) (ha : a.isPage = true) : SameAt s (perform a) (perform a) := by
  have unanswered : ∀ {act : Act Unit}, SameAt s act act → SameAt s (unanswered act) (unanswered act) := fun h =>
    .bind h fun _ => .pure _
  cases a with
  | type element text => exact unanswered (Transparent.typeText element text s)
  | fill element value => exact unanswered (Transparent.fill element value s)
  | click element => exact unanswered (Transparent.click element s)
  | press element key => exact unanswered (Transparent.press element key s)
  | submit form => exact unanswered (Transparent.submit form s)
  | appendHtml parent html => exact .map _ (Transparent.appendHtml parent html s)
  | append parent child => exact unanswered (Transparent.append parent child s)
  | create name attrs text => exact .map _ (Transparent.create name attrs text s)
  | remove element => exact unanswered (Transparent.remove element s)
  | setAttr element name value => exact unanswered (Transparent.setAttr element name value s)
  | eraseAttr element name => exact unanswered (Transparent.eraseAttr element name s)
  | load html => exact unanswered (Transparent.load html s)
  | sync element value checked => exact unanswered (Transparent.sync element value checked s)
  | dispatch hall event => exact .map _ (Transparent.deliver hall event s)
  | listen hall name type capture behaviour =>
    exact unanswered (Transparent.listen hall name type capture behaviour s)
  | unlisten hall name type capture => exact unanswered (Transparent.unlisten hall name type capture s)
  | observe name watch behaviour => exact .bind (Transparent.observe name watch behaviour s) fun _ => .pure _
  | disconnect name => exact .bind (Transparent.disconnect name s) fun _ => .pure _
  | navigate url => exact unanswered (Transparent.navigate url s)
  | setHash fragment => exact unanswered (Transparent.setHash fragment s)
  | popState url => exact unanswered (Transparent.popState url s)
  | fetch resource init status offline => exact .map _ (Transparent.fetch_sameAt h resource init status offline)
  | startCall key resource init => exact unanswered (Transparent.startCall key resource init s)
  | settleCall key status => exact .map _ (Transparent.settleCall_sameAt h key status)
  | makeExchange key => exact unanswered (Transparent.makeExchange key s)
  | openExchange key method url => exact unanswered (Transparent.openExchange key method url s)
  | sendExchange key arguments => exact unanswered (Transparent.sendExchange key arguments s)
  | respond key status text =>
    have hends : Transparent (respond key status text) := .endExchange key _ fun _ => rfl
    exact unanswered (hends s)
  | fail key =>
    have hends : Transparent (fail key) := .endExchange key _ fun _ => rfl
    exact unanswered (hends s)
  | hearExchange key type behaviour => exact unanswered (Transparent.hearExchange key type behaviour s)
  | link => exact unanswered (Transparent.changeBrowser (fun _ => rfl) s)
  | syncContent => exact unanswered (Transparent.syncContent s)
  | showPage url html => exact unanswered (Transparent.changeBrowser (fun _ => rfl) s)
  | pageLoaded => exact unanswered (Transparent.pageLoaded s)
  | bring report => exact unanswered (Transparent.bring report s)
  | requestReported key reported => exact unanswered (Transparent.requestReported key reported s)
  | endReported key status => exact unanswered (Transparent.endReported_sameAt h key status)
  | _ => cases ha

/-- The course of programs of which nothing is known in the scene without the recorder. -/
def hidden : Course Scene := .still alone

lemma hidden_byRecorder (act : Page → Recorder.Act α) : Stays hidden (byRecorder act) :=
  .of_leads fun s _ => alone_byRecorder act s

lemma hidden_changePage {f : Page → Page} (h : ∀ p, (f p).alone = p.alone) : Stays hidden (changePage f) :=
  .of_leads fun s _ => (Unseen.changePage (h s.page)).scene

lemma hidden_release (wasActive : Bool) : Stays hidden (release wasActive) :=
  .ite (hidden_changePage Page.alone_detach) (.pure _)

lemma hidden_stop : Stays hidden stop :=
  .get fun _ => .bind (hidden_byRecorder _) fun _ => .bind (hidden_release _) fun _ => .pure _

lemma hidden_start : Stays hidden start := by
  unfold start
  refine .get fun s => .throwIf fun _ => .bind (.discard hidden_stop) fun _ => .get fun t => ?_
  exact .bind (hidden_byRecorder _) fun _ => .bind (hidden_changePage fun p => p.alone_attach _) fun _ =>
    .get fun _ => .pure _

lemma hidden_clear : Stays hidden clear := .get fun _ => .bind (hidden_byRecorder _) fun _ => hidden_release _

/-- **Of what the recorder is asked for nothing is known without it**, whether it fails or not. -/
theorem perform_hidden (a : Action) (ha : a.isPage = false) : Stays hidden (perform a) := by
  have unanswered : ∀ {act : Act Unit}, Stays hidden act → Stays hidden (unanswered act) := fun h =>
    .bind h fun _ => .pure _
  cases a with
  | start => exact .map _ hidden_start
  | pause => exact .map _ (hidden_byRecorder _)
  | resume => exact .map _ (hidden_byRecorder _)
  | stop => exact .map _ hidden_stop
  | clear => exact unanswered hidden_clear
  | addStep step => exact .map _ (hidden_byRecorder _)
  | removeStep index => exact .map _ (hidden_byRecorder _)
  | updateStep index value waitTimeout => exact .map _ (hidden_byRecorder _)
  | callbacks added updated => exact unanswered (.of_leads fun _ _ => rfl)
  | requestBegun => exact unanswered (hidden_byRecorder _)
  | requestEnded url method status => exact unanswered (hidden_byRecorder _)
  | advance ms => exact unanswered (hidden_byRecorder _)
  | runAll => exact unanswered (hidden_byRecorder _)
  | _ => cases ha

/-! ### What the page gets to know -/

/-- What a page gets to know: that one of its functions is called or one of its requests leaves it, and what it is
answered, or how it fails, when it does something. -/
inductive Felt where
  | saw (entry : Entry)
  | got (result : Except Fault Answer)

/-- What the page gets to know when something happens. -/
def Outcome.felt (o : Outcome) (a : Action) : List Felt :=
  (o.seen.filter (!·.isStep)).map .saw ++ if a.isPage then [.got o.result] else []

/-- What the page gets to know while one thing happens after another. -/
def experience (s : Scene) : List Action → List Felt
  | [] => []
  | a :: rest => (s.step a).felt a ++ (s.step a).scene.experience rest

/-- The callbacks of the recorder return, whatever of this happens. -/
def Returning (s : Scene) : List Action → Prop
  | [] => True
  | a :: rest => s.Returns ∧ (s.step a).scene.Returning rest

instance : DecidablePred Returns := fun s => inferInstanceAs (Decidable (s.recorder.onAdded ≠ .fail))

instance Returning.decidable (s : Scene) (actions : List Action) : Decidable (s.Returning actions) := by
  induction actions generalizing s with
  | nil => exact .isTrue trivial
  | cons a rest ih => exact @instDecidableAnd _ _ _ (ih _)

/-- The page does the same, and gets to know the same, without the recorder. -/
lemma alone_step (h : s.Returns) {a : Action} (ha : a.isPage = true) :
    s.alone.step a = ⟨(s.step a).result, (s.step a).seen.filter (!·.isStep), (s.step a).scene.alone⟩ := by
  have hperform : SameAt { s with log := [] } (perform a) (perform a) :=
    perform_transparent (show Returns { s with log := [] } from h) a ha
  unfold SameAt at hperform
  unfold step
  rw [show ({ s.alone with log := [] } : Scene) = ({ s with log := [] } : Scene).alone from rfl, hperform]
  rfl

/-- The page gets to know nothing when the recorder is asked for something. -/
lemma step_hidden (hlog : s.log = []) {a : Action} (ha : a.isPage = false) :
    (s.step a).felt a = [] ∧ (s.step a).scene.alone = s.alone := by
  have hs : ({ s with log := [] } : Scene) = s := by rw [← hlog]
  have halone : ((perform a).run s).2.alone = s.alone := (perform_hidden a ha).leads trivial trivial
  have hseen : ((perform a).run s).2.log.filter (!·.isStep) = [] := by
    have := congrArg Scene.log halone
    simpa [alone, hlog] using this
  have hstep : s.step a =
      ⟨((perform a).run s).1, ((perform a).run s).2.log, { ((perform a).run s).2 with log := [] }⟩ := by
    unfold step
    rw [hs]
    rfl
  rw [hstep]
  constructor
  · simp [Outcome.felt, hseen, ha]
  · rw [← halone]
    simp [alone, hseen]

/-- In a scene in which nothing has happened yet, there is nothing on the page that the recorder has put there. -/
lemma Fresh.alone_page (h : s.Fresh) : s.alone.page = s.page := by
  have hkept : ∀ {γ : Type} {q q' : γ → Bool} {l : List γ}, l.filter q = [] → (∀ x, q' x = !q x) → l.filter q' = l :=
    fun hl hq => List.filter_eq_self.2 fun x hx => by simpa [hq] using List.filter_eq_nil_iff.1 hl x hx
  have hdocument : s.page.documentListeners.alone = s.page.documentListeners :=
    hkept (congrArg Page.Rig.documentListeners h.rig) fun _ => rfl
  have hwindow : s.page.windowListeners.alone = s.page.windowListeners :=
    hkept (congrArg Page.Rig.windowListeners h.rig) fun _ => rfl
  have hwatches : s.page.watches.filter (·.observer != .recorder) = s.page.watches :=
    hkept (congrArg Page.Rig.watches h.rig) fun _ => rfl
  have hlayers : s.page.layers = [] := congrArg Page.Rig.layers h.rig
  have hexchanges : s.page.exchanges.map (fun e => (e.1, e.2.alone)) = s.page.exchanges := by simp [h.exchanges]
  have hcalls : s.page.calls.map (fun c => (c.1, c.2.alone)) = s.page.calls := by simp [h.calls]
  show s.page.alone = s.page
  rw [Page.alone, hdocument, hwindow, hwatches, hexchanges, hcalls, ← hlayers]

/-- A button is clicked that the page guards, an order is sent twice, of which one does not get through, and a request
object is still under way when the session is stopped. -/
def orderingRun : List Action := [
  .create "button" [("id", "buy")] (some "Buy"),
  .append 0 1,
  .listen .document "guard" "click" true .prevent,
  .listen .document "late" "click" false .fail,
  .start,
  .dispatch .document ⟨"click", .element 1, none⟩,
  .fetch (.address "/api/cart") (.map [("method", .text "POST")]) 201 false,
  .fetch (.address "/api/cart") (.map [("method", .text "POST")]) 0 false,
  .makeExchange "order",
  .openExchange "order" "POST" (.text "/api/orders"),
  .sendExchange "order" [],
  .hearExchange "order" "loadend" .watch,
  .stop,
  .respond "order" 500 ""]

end Scene

end PageTape
