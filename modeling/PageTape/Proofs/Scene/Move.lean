import PageTape.Proofs.Recorder.Account
import PageTape.Proofs.Recorder.Gate
import PageTape.Scene.Action

/-!
# The moves of a scene

* `Page.rig`, `Page.network` — what the recorder has put on a page, and the requests of the page;
* `Orderly s` — the recorder is linked, and all that is kept of its sessions on the page is of one that has begun;
* `Scene.Move counts` — one thing that happens in a scene: the page and the onlookers change, but not what the recorder
  has put there, or a signal of its session reaches the recorder.  Unless `counts` holds, no request is made or ends;
* `Admits C` — a course on which all moves stay; `Stays C` — a program stays on a course, wherever it is begun.  Of
  everything that page, user, network and browser do, and of all that is asked of the recorder while a session lasts,
  this holds for any course that admits it (`perform_runs`), so for that of the moves (`perform_stays`).
-/

namespace PageTape

namespace Page

/-- The listeners that belong to the recorder. -/
def Listeners.ofRecorder (ls : Listeners) : Listeners := ls.filter (·.listener == .recorder)

/-- What the recorder has put on a page: its listeners, its watches, and the layers before the network. -/
structure Rig where
  documentListeners : Listeners
  windowListeners : Listeners
  watches : List Watch
  layers : List Nat

/-- What the recorder has put on the page. -/
def rig (p : Page) : Rig where
  documentListeners := p.documentListeners.ofRecorder
  windowListeners := p.windowListeners.ofRecorder
  watches := p.watches.filter (·.observer == .recorder)
  layers := p.layers

/-- All that hears of events and changes of a page, be it the recorder's or not. -/
def ears (p : Page) : Listeners × Listeners × List Watch := (p.documentListeners, p.windowListeners, p.watches)

/-- The requests of a page: its request objects, the number of the next one, and its calls. -/
structure Network where
  exchanges : List (String × Exchange)
  nextExchange : Nat
  calls : List (String × Call)

/-- The requests of the page. -/
def network (p : Page) : Network := ⟨p.exchanges, p.nextExchange, p.calls⟩

/-- Where the recorder hears of a request object, it hears of all ends, for a session before `bound`. -/
def IsKnown (bound : Nat) (hearer : String × Hearer) : Prop :=
  ∀ serial url method, hearer.2 = .recorder serial url method → hearer.1 = "loadend" ∧ serial < bound

/-- The requests are kept apart by their names and numbers, and those that are counted are so for sessions before
`bound`. -/
structure Network.Numbered (N : Network) (bound : Nat) : Prop where
  calls : ∀ c ∈ N.calls, ∀ serial, c.2.countedBy = some serial → serial < bound
  hearers : ∀ x ∈ N.exchanges, ∀ h ∈ x.2.hearers, IsKnown bound h
  keys : (N.exchanges.map (·.1)).Nodup
  numbers : (N.exchanges.map (·.2.number)).Nodup
  fresh : ∀ x ∈ N.exchanges, x.2.number < N.nextExchange

namespace Network.Numbered

variable {p : Page} {b : Nat}

lemma mono {N : Network} {b' : Nat} (h : N.Numbered b) (hb : b ≤ b') : N.Numbered b' :=
  { h with
    calls := fun c hc n hn => (h.calls c hc n hn).trans_le hb
    hearers := fun x hx g hg n u m e => (h.hearers x hx g hg n u m e).imp_right (·.trans_le hb) }

lemma changeExchange (h : p.network.Numbered b) (key : String) {f : Exchange → Exchange}
    (hnumber : ∀ e, (f e).number = e.number)
    (hhearers : ∀ e, ∀ g ∈ (f e).hearers, g ∈ e.hearers ∨ IsKnown b g) :
    (p.changeExchange key f).network.Numbered b where
  calls := h.calls
  hearers x hx g hg := by
    obtain ⟨y, hy, rfl⟩ := List.mem_map.1 hx
    split at hg
    · exact (hhearers _ g hg).elim (h.hearers y hy g) id
    · exact h.hearers y hy g hg
  keys := by
    have hkeys : (p.changeExchange key f).network.exchanges.map (·.1) = p.network.exchanges.map (·.1) := by
      simp only [network, Page.changeExchange, List.map_map]
      refine List.map_congr_left fun y _ => ?_
      simp only [Function.comp]
      split <;> rfl
    exact hkeys ▸ h.keys
  numbers := by
    have hnumbers : (p.changeExchange key f).network.exchanges.map (·.2.number) =
        p.network.exchanges.map (·.2.number) := by
      simp only [network, Page.changeExchange, List.map_map]
      refine List.map_congr_left fun y _ => ?_
      simp only [Function.comp]
      split
      · exact hnumber _
      · rfl
    exact hnumbers ▸ h.numbers
  fresh x hx := by
    obtain ⟨y, hy, rfl⟩ := List.mem_map.1 hx
    have := h.fresh y hy
    split
    · exact (hnumber y.2).trans_lt this
    · exact this

lemma newExchange (h : p.network.Numbered b) (key : String) : (p.newExchange key).network.Numbered b where
  calls := h.calls
  hearers x hx := by
    rcases List.mem_cons.1 hx with rfl | hx
    · exact nofun
    · exact h.hearers x (List.mem_filter.1 hx).1
  keys := by
    refine List.nodup_cons.2 ⟨?_, h.keys.sublist (List.filter_sublist.map _)⟩
    simp
  numbers := by
    refine List.nodup_cons.2 ⟨fun hmem => ?_, h.numbers.sublist (List.filter_sublist.map _)⟩
    obtain ⟨x, hx, hnumber⟩ := List.mem_map.1 hmem
    exact (h.fresh x (List.mem_filter.1 hx).1).ne hnumber
  fresh x hx := by
    rcases List.mem_cons.1 hx with rfl | hx
    · exact Nat.lt_succ_self _
    · exact (h.fresh x (List.mem_filter.1 hx).1).trans (Nat.lt_succ_self _)

lemma dropCall (h : p.network.Numbered b) (key : String) :
    Network.Numbered (network { p with calls := p.calls.filter (·.1 != key) }) b :=
  { h with calls := fun c hc => h.calls c (List.mem_filter.1 hc).1 }

lemma addCall (h : p.network.Numbered b) (key : String) (call : Call)
    (hcall : ∀ serial, call.countedBy = some serial → serial < b) :
    Network.Numbered (network { p with calls := (key, call) :: p.calls.filter (·.1 != key) }) b :=
  { h with
    calls := fun c hc => by
      rcases List.mem_cons.1 hc with rfl | hc
      · exact hcall
      · exact h.calls c (List.mem_filter.1 hc).1 }

end Network.Numbered

lemma Listeners.ofRecorder_add (ls : Listeners) {r : Registration} (h : r.listener ≠ .recorder) :
    (ls.add r).ofRecorder = ls.ofRecorder := by
  unfold Listeners.add Listeners.ofRecorder
  split <;> simp [h]

lemma Listeners.ofRecorder_remove (ls : Listeners) {r : Registration} (h : r.listener ≠ .recorder) :
    (ls.remove r).ofRecorder = ls.ofRecorder := by
  unfold Listeners.remove Listeners.ofRecorder
  rw [List.filter_filter]
  refine List.filter_congr fun q _ => ?_
  by_cases hq : q.listener = .recorder
  · have : q ≠ r := fun e => h (e ▸ hq)
    simp [hq, this]
  · simp [hq]

lemma filter_addWatch {w : Watch} (ws : List Watch) (h : w.observer ≠ .recorder) :
    (addWatch w ws).filter (·.observer == .recorder) = ws.filter (·.observer == .recorder) := by
  induction ws with
  | nil => simp [addWatch, h]
  | cons v rest ih =>
    unfold addWatch
    split
    · rename_i he
      simp [h, he]
    · rw [List.filter_cons, ih, List.filter_cons]

end Page

namespace Scene

open Recorder (Signal)

variable {C : Course Scene} {counts opens outside listens travels : Bool} {α β : Type} {s t : Scene}

/-! ### Moves -/

/-- The recorder is linked and has given all its notices; what it has put on the page, and the requests that it counts,
are of sessions that have begun. -/
structure Orderly (s : Scene) : Prop where
  linked : s.recorder.Linked
  notices : s.recorder.notices = []
  serial : ∀ a, s.recorder.active = some a → a.serial < s.recorder.nextSerial
  layers : ∀ n ∈ s.page.layers, n < s.recorder.nextSerial
  network : s.page.network.Numbered s.recorder.nextSerial

/-- The recorder moves on with the session that it has. -/
lemma Orderly.onward (h : s.Orderly) {r : Recorder} (hl : r.Linked) (hs : Recorder.SameSession s.recorder r)
    (hn : r.notices = []) (log : List Entry) : ({ s with recorder := r, log } : Scene).Orderly where
  linked := hl
  notices := hn
  serial a ha := by
    obtain ⟨b, hb, hba⟩ := hs.before ha
    have := h.serial b hb
    exact hba ▸ hs.nextSerial ▸ this
  layers n hn := (h.layers n hn).trans_eq hs.nextSerial.symm
  network := by
    have := h.network
    rwa [← hs.nextSerial] at this

lemma linked_forget {r : Recorder} (hl : r.Linked) : ({ r with notices := [] } : Recorder).Linked :=
  ⟨hl.sound, hl.free, hl.active⟩

/-- **One thing that happens in a scene.** -/
inductive Move (counts : Bool) : Scene → Scene → Prop
  /-- the page or the onlookers change -/
  | changed (s : Scene) (page : Page) (browser : Browser) (listeners observers : List (String × Page.Behaviour))
      (log : List Entry) (hr : page.rig = s.page.rig)
      (hn : (counts = true ∧ page.network.Numbered s.recorder.nextSerial) ∨ page.network = s.page.network) :
      Move counts s { s with page, browser, listeners, observers, log }
  /-- a signal reaches the recorder -/
  | obeyed (s : Scene) (signal : Signal) (log : List Entry) (hin : signal.isInner = true)
      (hc : signal.counts = true → counts = true) :
      Move counts s { s with recorder := { s.recorder.obey signal with notices := [] }, log }

/-- Any number of moves. -/
abbrev Path (counts : Bool) : Scene → Scene → Prop := Relation.ReflTransGen (Move counts)

lemma Move.orderly (h : Move counts s t) (hs : s.Orderly) : t.Orderly := by
  cases h with
  | changed page browser listeners observers log hr hn =>
    have hlayers : page.layers = s.page.layers := congrArg Page.Rig.layers hr
    exact {
      linked := hs.linked
      notices := hs.notices
      serial := hs.serial
      layers := hlayers ▸ hs.layers
      network := hn.elim (·.2) fun hn => hn ▸ hs.network }
  | obeyed signal log hin hc =>
    exact hs.onward (linked_forget (hs.linked.obey_any _)) (hs.linked.sameSession hin).forget rfl log

/-- The course of a scene. -/
def course (counts : Bool) : Course Scene where
  holds := Orderly
  leads := Path counts
  refl _ := .refl
  trans := .trans
  keeps h hs := by
    induction h with
    | refl => exact hs
    | tail _ hm ih => exact hm.orderly ih

/-- Moves begin and end no session. -/
lemma Path.sameSession (hp : Path counts s t) (hs : s.Orderly) : Recorder.SameSession s.recorder t.recorder := by
  induction hp with
  | refl => exact .refl _
  | tail hp hm ih =>
    cases hm with
    | changed page browser listeners observers log hr hn => exact ih
    | obeyed signal log hin hc =>
      have ho := (course counts).keeps hp hs
      exact ih.trans (ho.linked.sameSession hin).forget

/-! ### Courses of a scene -/

/-- The onlookers are told of a step. -/
def Entry.isStep : Entry → Bool
  | .step _ => true
  | _ => false

/-- The onlookers may have seen more, but no step. -/
def Quiet (log log' : List Entry) : Prop := ∃ entries, log' = log ++ entries ∧ ∀ e ∈ entries, e.isStep = false

lemma Quiet.refl (log : List Entry) : Quiet log log :=
  ⟨[], (List.append_nil log).symm, fun _ h => absurd h List.not_mem_nil⟩

lemma Quiet.trans {log log' log'' : List Entry} (h : Quiet log log') (h' : Quiet log' log'') : Quiet log log'' := by
  obtain ⟨entries, rfl, hentries⟩ := h
  obtain ⟨entries', rfl, hentries'⟩ := h'
  refine ⟨entries ++ entries', List.append_assoc _ _ _, fun e he => ?_⟩
  exact (List.mem_append.1 he).elim (hentries e) (hentries' e)

/-- **A course that allows all that happens while a session lasts**: the page and the onlookers change, but not what the
recorder has put there, and signals reach the recorder.  Unless `counts` holds, no request is made or ends, be it one of
the page or of its browser; unless `opens` holds, no signal comes that gets past a recorder that is not recording;
unless `outside` holds, no time passes and no steps are edited by hand; unless `listens` holds, the page hears of as
much as before; and unless `travels` holds, it stays at its address. -/
class Admits (C : Course Scene) (counts opens outside listens travels : outParam Bool) : Prop where
  orderly {s : Scene} : C.holds s → s.Orderly
  changed {s : Scene} (page : Page) (browser : Browser) (listeners observers : List (String × Page.Behaviour))
    (log : List Entry) : C.holds s → page.rig = s.page.rig →
      (counts = true ∧ page.network.Numbered s.recorder.nextSerial) ∨ page.network = s.page.network →
        counts = true ∨ browser.counted = s.browser.counted →
          listens = true ∨ page.ears = s.page.ears → travels = true ∨ page.url = s.page.url →
            Quiet s.log log → C.leads s { s with page, browser, listeners, observers, log }
  obeyed {s : Scene} (signal : Signal) : C.holds s → signal.isInner = true →
    (signal.counts = true → counts = true) → signal.isGated = true ∨ opens = true →
    (signal.isOutside = true → outside = true) →
      C.leads s { s with
        recorder := { s.recorder.obey signal with notices := [] }
        log := s.log ++ (s.recorder.obey signal).notices.map .step }

instance (counts : Bool) : Admits (course counts) counts true true true true where
  orderly h := h
  changed page browser listeners observers log _ hr hn _ _ _ _ :=
    .single (.changed _ page browser listeners observers log hr hn)
  obeyed signal _ hin hc _ _ := .single (.obeyed _ signal _ hin hc)

/-- A program stays on a course, wherever on it it is begun. -/
abbrev Stays (C : Course Scene) (act : Act α) : Prop := C.Runs (fun _ => True) act fun _ _ => True

namespace Stays

lemma of_leads {act : Act α} (h : ∀ s : Scene, C.holds s → C.leads s (act.run s).2) : Stays C act := fun s hs _ =>
  ⟨h s hs, fun _ _ => trivial⟩

protected lemma pure (a : α) : Stays C (pure a) := Course.Runs.pure fun _ _ _ => trivial

protected lemma throw (fault : Fault) : Stays C (throw fault : Act α) := Course.Runs.throw

protected lemma bind {x : Act α} {f : α → Act β} (hx : Stays C x) (hf : ∀ a, Stays C (f a)) :
    Stays C (x >>= f) := Course.Runs.bind hx hf

protected lemma map {x : Act α} (g : α → β) (hx : Stays C x) : Stays C (g <$> x) := Course.Runs.map hx

protected lemma discard {x : Act α} (hx : Stays C x) : Stays C (discard x) := Course.Runs.discard hx

protected lemma get {f : Scene → Act β} (hf : ∀ s, Stays C (f s)) : Stays C (get >>= f) :=
  .bind_get fun s => (hf s).strengthen fun _ _ _ => trivial

protected lemma ite {c : Prop} [Decidable c] {x y : Act α} (hx : Stays C x) (hy : Stays C y) :
    Stays C (if c then x else y) := Course.Runs.ite (fun _ => hx) fun _ => hy

/-- A program that first makes sure of something. -/
lemma throwIf {c : Prop} [Decidable c] {fault : Fault} {rest : PUnit → Act α} (h : ∀ u, Stays C (rest u)) :
    Stays C (if c then throw fault >>= rest else rest ⟨⟩) := .ite (.bind (.throw _) h) (h _)

protected lemma forM {τ : Type} (l : List τ) {g : τ → Act Unit} (h : ∀ a, Stays C (g a)) :
    Stays C (l.forM g) := Course.Runs.forM (I := fun _ _ => True) (fun a _ => h a) l

protected lemma ofExcept (x : Except Fault α) : Stays C (ofExcept x) := by
  cases x
  · exact Stays.throw _
  · exact Stays.pure _

variable [hC : Admits C counts opens outside listens travels]
include hC

/-- The page changes, but not what the recorder has put there, and not its requests. -/
lemma changePage {f : Page → Page} (hr : ∀ p, (f p).rig = p.rig) (hn : ∀ p, (f p).network = p.network)
    (he : listens = true ∨ ∀ p, (f p).ears = p.ears) (hu : travels = true ∨ ∀ p, (f p).url = p.url) : Stays C (changePage f) :=
  .of_leads fun s hs => hC.changed (f s.page) s.browser s.listeners s.observers s.log hs (hr _) (.inr (hn _)) (.inr rfl)
    (he.imp_right fun he => he _) (hu.imp_right fun hu => hu _) (.refl _)

lemma changeForest (f : Dom.Forest → Dom.Forest) : Stays C (changeForest f) :=
  .changePage (fun _ => rfl) (fun _ => rfl) (.inr fun _ => rfl) (.inr fun _ => rfl)

lemma changeBrowser {f : Browser → Browser} (hf : counts = true ∨ ∀ b, (f b).counted = b.counted) :
    Stays C (changeBrowser f) :=
  .of_leads fun s hs => hC.changed s.page (f s.browser) s.listeners s.observers s.log hs rfl (.inr rfl)
    (hf.imp_right fun hf => hf _) (.inr rfl) (.inr rfl) (.refl _)

/-- The onlookers see something that is no step. -/
lemma see (entry : Entry) (h : entry.isStep = false) : Stays C (see entry) :=
  .of_leads fun s hs => hC.changed s.page s.browser s.listeners s.observers (s.log ++ [entry]) hs rfl (.inr rfl)
    (.inr rfl) (.inr rfl) (.inr rfl) ⟨[entry], rfl, fun _ hmem => List.mem_singleton.1 hmem ▸ h⟩

end Stays

lemma byRecorder_run (act : Page → Recorder.Act α) (s : Scene) :
    (byRecorder act).run s = (((act s.page).run s.recorder).1, { s with
      recorder := { ((act s.page).run s.recorder).2 with notices := [] }
      log := s.log ++ ((act s.page).run s.recorder).2.notices.map .step }) := by
  unfold byRecorder
  rw [Course.run_bind, Course.run_modifyGet]
  dsimp only
  rcases (act s.page).run s.recorder with ⟨_ | _, _⟩ <;> rfl

/-- The recorder does what a signal asks for. -/
lemma Stays.byRecorder [hC : Admits C counts opens outside listens travels] {act : Page → Recorder.Act α} (signal : Page → Signal)
    (h : ∀ p r, ((act p).run r).2 = Recorder.obey r (signal p)) (hin : ∀ p, (signal p).isInner = true)
    (hc : ∀ p, (signal p).counts = true → counts = true) (ho : ∀ p, (signal p).isGated = true ∨ opens = true)
    (ht : ∀ p, (signal p).isOutside = true → outside = true) : Stays C (byRecorder act) := by
  refine .of_leads fun s hs => ?_
  rw [byRecorder_run, h]
  exact hC.obeyed (signal s.page) hs (hin _) (hc _) (ho _) (ht _)

lemma run_quietly (act : Act Unit) (s : Scene) : (quietly act).run s = (.ok ⟨⟩, (act.run s).2) := by
  unfold quietly
  rw [Course.run_bind, Course.run_tryCatch, Course.run_bind]
  rcases act.run s with ⟨_ | _, _⟩ <;> rfl

lemma snd_run_unanswered (act : Act Unit) (s : Scene) : ((unanswered act).run s).2 = (act.run s).2 := by
  unfold unanswered
  rw [Course.run_bind]
  rcases act.run s with ⟨_ | _, _⟩ <;> rfl

lemma snd_run_map {α β : Type} (f : α → β) (act : Act α) (s : Scene) : ((f <$> act).run s).2 = (act.run s).2 :=
  congrArg Prod.snd (Course.run_map s f act)

/-- The end of a call changes what the recorder changes that is told of it, and nothing if none is. -/
lemma snd_run_endCall (request : Page.Request) (countedBy : Option Nat) (status : Int) (s : Scene) :
    ((endCall request countedBy status).run s).2 = match countedBy with
      | some n => ((byRecorder fun _ => Recorder.requestEndedIn n request.url request.method status).run s).2
      | none => s := by
  have hanswer : ∀ t : Scene, ((if (status == 0) = true then throw (.networkFailed request.url) >>= fun _ : PUnit =>
      pure ⟨request.url, status⟩ else pure ⟨request.url, status⟩ : Act Reply).run t).2 = t := fun t => by
    split <;> rfl
  unfold endCall
  cases countedBy with
  | none => exact hanswer s
  | some n =>
    dsimp only
    rw [Course.run_bind]
    rcases (byRecorder fun _ => Recorder.requestEndedIn n request.url request.method status).run s with ⟨_ | _, t⟩
    · rfl
    · exact hanswer t

lemma Stays.quietly {act : Act Unit} (h : Stays C act) : Stays C (quietly act) :=
  .of_leads fun s hs => by
    rw [run_quietly]
    exact h.leads hs trivial

/-! ### Events and changes -/

namespace Stays

variable [hC : Admits C counts opens outside listens travels]
include hC

lemma callListener (event : Page.Event) (listener : Page.Listener) : Stays C (callListener event listener) := by
  cases listener with
  | recorder =>
    exact .bind (.quietly (.byRecorder (.hear · event) (fun _ _ => rfl) (fun _ => rfl) nofun (fun _ => .inl rfl) nofun))
      fun _ => .pure _
  | page name => exact .get fun s => .bind (.see _ rfl) fun _ => .pure _

lemma callListeners (event : Page.Event) (listeners : List Page.Listener) :
    Stays C (callListeners event listeners) := by
  induction listeners with
  | nil => exact .pure _
  | cons listener rest ih => exact .bind (.callListener event listener) fun _ => .bind ih fun _ => .pure _

lemma deliver (hall : Hall) (event : Page.Event) : Stays C (deliver hall event) :=
  .get fun _ => .callListeners event _

lemma fire (type : String) (id : Dom.Id) (key : Option String) : Stays C (fire type id key) := .deliver _ _

lemma callObserver (mutation : Page.Mutation) (observer : Page.Observer) :
    Stays C (callObserver mutation observer) := by
  cases observer with
  | recorder =>
    exact .quietly (.byRecorder (fun _ => .heed [mutation]) (fun _ _ => rfl) (fun _ => rfl) nofun (fun _ => .inl rfl)
      nofun)
  | page name =>
    refine .get fun s => ?_
    dsimp only
    split
    · exact .see _ rfl
    · exact .see _ rfl

lemma notify (target : Dom.Id) (change : Page.Change) : Stays C (notify target change) :=
  .get fun _ => .forM _ fun _ => .callObserver _ _

/-! ### Elements and controls -/

lemma append (parent child : Dom.Id) : Stays C (append parent child) := by
  unfold Scene.append
  exact .throwIf fun _ => .bind (.changeForest _) fun _ => .notify _ _

lemma appendHtml (parent : Dom.Id) (html : String) : Stays C (appendHtml parent html) :=
  .get fun _ => .bind (.ofExcept _) fun _ => .bind (.changeForest _) fun _ => .bind (.append _ _) fun _ => .pure _

lemma create (name : String) (attrs : List (String × String)) (text : Option String) :
    Stays C (create name attrs text) :=
  .get fun _ => .bind (.changeForest _) fun _ => .pure _

lemma remove (id : Dom.Id) : Stays C (remove id) := by
  refine .get fun s => ?_
  split
  · exact .pure _
  · exact .bind (.changeForest _) fun _ => .notify _ _

lemma setAttr (id : Dom.Id) (name value : String) : Stays C (setAttr id name value) :=
  .bind (.changeForest _) fun _ => .notify _ _

lemma eraseAttr (id : Dom.Id) (name : String) : Stays C (eraseAttr id name) :=
  .get fun _ => .ite (.bind (.changeForest _) fun _ => .notify _ _) (.pure _)

lemma load (html : String) : Stays C (load html) := by
  refine .get fun s => .bind (.changeForest _) fun _ => ?_
  split
  · exact .throw _
  · exact .pure _

omit hC in
lemma located (id : Dom.Id) : Stays C (located id) := .get fun _ => .pure _

lemma submit (form : Dom.Id) : Stays C (submit form) := .discard (.fire _ _ _)

lemma enter (id : Dom.Id) (value : String) : Stays C (enter id value) :=
  .bind (.changeForest _) fun _ => .discard (.fire _ _ _)

lemma typeFrom (id : Dom.Id) (value : String) (text : List Char) : Stays C (typeFrom id value text) := by
  induction text generalizing value with
  | nil => exact .pure _
  | cons c rest ih => exact .bind (.enter _ _) fun _ => ih _

lemma typeText (id : Dom.Id) (text : String) : Stays C (typeText id text) := by
  refine .bind (.located _) fun l? => ?_
  cases l? with
  | none => exact .pure _
  | some l => exact .typeFrom _ _ _

lemma fill (id : Dom.Id) (value : String) : Stays C (fill id value) :=
  .bind (.enter _ _) fun _ => .discard (.fire _ _ _)

lemma click (id : Dom.Id) : Stays C (click id) := by
  refine .bind (.located _) fun l? => ?_
  cases l? with
  | none => exact .pure _
  | some l =>
    refine .bind (.changeForest _) fun _ => .bind (.fire _ _ _) fun allowed => .ite (.ite ?_ (.ite ?_ ?_)) (.pure _)
    · exact .bind (.discard (.fire _ _ _)) fun _ => .discard (.fire _ _ _)
    · refine .bind (.located _) fun l? => ?_
      split
      · exact .submit _
      · exact .pure _
    · exact .pure _

lemma press (id : Dom.Id) (key : String) : Stays C (press id key) := .discard (.fire _ _ _)

lemma sync (id : Dom.Id) (value : Option String) (checked : Option Bool) : Stays C (sync id value checked) := by
  refine .bind (.located _) fun l? => ?_
  cases l? with
  | none => exact .pure _
  | some l => exact .changeForest _

lemma changeUrl (ht : travels = true) (f : String → String) :
    Stays C (Scene.changePage fun p => { p with url := f p.url }) :=
  .changePage (fun _ => rfl) (fun _ => rfl) (.inr fun _ => rfl) (.inl ht)

lemma navigate (ht : travels = true) (url : String) : Stays C (navigate url) :=
  .bind (.discard (.deliver _ _)) fun _ => .changeUrl ht fun _ => url

lemma setHash (ht : travels = true) (fragment : String) : Stays C (setHash fragment) :=
  .bind (.changeUrl ht (Page.urlWithHash · fragment)) fun _ => .discard (.deliver _ _)

lemma popState (ht : travels = true) (url : String) : Stays C (popState url) :=
  .bind (.changeUrl ht fun _ => url) fun _ => .discard (.deliver _ _)

/-! ### Onlookers -/

lemma changeHall (hl : listens = true) (hall : Hall) {f : Page.Listeners → Page.Listeners}
    (h : ∀ ls, (f ls).ofRecorder = ls.ofRecorder) : Stays C (Scene.changePage (hall.change f)) := by
  refine .changePage (fun p => ?_) (fun p => ?_) (.inl hl) (.inr fun p => ?_)
  · cases hall <;> simp [Hall.change, Page.rig, h]
  · cases hall <;> rfl
  · cases hall <;> rfl

lemma listen (hl : listens = true) (hall : Hall) (name type : String) (capture : Bool) (behaviour : Page.Behaviour) :
    Stays C (listen hall name type capture behaviour) := by
  refine .of_leads fun s hs => hC.changed _ s.browser _ s.observers s.log hs ?_ (.inr ?_) (.inr rfl) (.inl hl)
    (.inr ?_) (.refl _)
  · cases hall <;> simp [Hall.change, Page.rig, Page.Listeners.ofRecorder_add]
  · cases hall <;> rfl
  · cases hall <;> rfl

lemma unlisten (hl : listens = true) (hall : Hall) (name type : String) (capture : Bool) :
    Stays C (Scene.changePage (hall.change (·.remove ⟨type, .page name, capture⟩))) :=
  .changeHall hl hall fun ls => ls.ofRecorder_remove nofun

lemma observe (hl : listens = true) (name : String) (watch : Page.Watch) (behaviour : Page.Behaviour) :
    Stays C (observe name watch behaviour) := by
  refine .of_leads fun s hs => hC.changed _ s.browser s.listeners _ s.log hs ?_ (.inr rfl) (.inr rfl)
    (.inl hl) (.inr rfl) (.refl _)
  simp [Page.rig, Page.filter_addWatch]

lemma disconnect (hl : listens = true) (name : String) : Stays C (disconnect name) := by
  refine .changePage (fun p => ?_) (fun _ => rfl) (.inl hl) (.inr fun _ => rfl)
  have : p.watches.filter (fun w => (w.observer == .recorder) && (w.observer != .page name)) =
      p.watches.filter (·.observer == .recorder) := by
    refine List.filter_congr fun w _ => ?_
    cases w.observer <;> simp
  simp only [Page.rig, List.filter_filter, this]

lemma setCallbacks (added updated : Option Reaction) : Stays C (setCallbacks added updated) := by
  refine .of_leads fun s hs => ?_
  have hn := (hC.orderly hs).notices
  have h := hC.obeyed (.callbacks (added.getD s.recorder.onAdded) (updated.getD s.recorder.onUpdated)) hs rfl nofun
    (.inl rfl) nofun
  have hlog : s.log ++ s.recorder.notices.map .step = s.log := by rw [hn]; simp
  rw [show (s.recorder.obey (.callbacks (added.getD s.recorder.onAdded) (updated.getD s.recorder.onUpdated))).notices =
    s.recorder.notices from rfl, hlog] at h
  rwa [show ({ s.recorder.obey _ with notices := [] } : Recorder) = { s.recorder with
    onAdded := added.getD s.recorder.onAdded, onUpdated := updated.getD s.recorder.onUpdated, notices := [] } from rfl,
    ← hn] at h

/-! ### Requests -/

/-- What a session is told of a request keeps the numbers of the sessions. -/
lemma byRecorder_sent (hc : counts = true) (number : Nat) : C.Runs (fun _ => True)
    (Scene.byRecorder fun _ => Recorder.requestSent? number) fun sent s =>
      ∀ x, sent = some x → x.1 < s.recorder.nextSerial := by
  intro s hs _
  have hpath : Stays C (Scene.byRecorder fun _ => Recorder.requestSent? number) :=
    .byRecorder (fun _ => .requestSent number) (fun _ _ => (congrArg Prod.snd (Course.run_discard _ _)).symm)
      (fun _ => rfl) (fun _ _ => hc) (fun _ => .inl rfl) nofun
  refine ⟨hpath.leads hs trivial, ?_⟩
  replace hs := hC.orderly hs
  rintro sent hsent x rfl
  rw [byRecorder_run] at hsent ⊢
  obtain ⟨a, ha, hserial⟩ := Recorder.requestSent?_serial hsent
  have hsame : Recorder.SameSession s.recorder _ := hs.linked.sameSession (s := .requestSent number) rfl
  have hnext : ((Recorder.requestSent? number).run s.recorder).2.nextSerial = s.recorder.nextSerial := by
    have := hsame.nextSerial
    rwa [Recorder.obey, show Signal.act (.requestSent number) = discard (Recorder.requestSent? number) from rfl,
      Course.run_discard] at this
  exact (hserial ▸ hs.serial a ha).trans_eq hnext.symm

/-- A call is counted for a session that has begun. -/
lemma countCall_serial (hc : counts = true) : C.Runs (fun _ => True) Scene.countCall fun serial s =>
    ∀ n, serial = some n → n < s.recorder.nextSerial := by
  refine .bind_get fun s => ?_
  cases hlayers : s.page.layers with
  | nil => exact .pure fun _ _ _ => nofun
  | cons n rest =>
    refine .ite (fun _ => ?_) fun _ => .pure fun _ _ _ => nofun
    refine .bind (Q := fun _ t => n < t.recorder.nextSerial) ?_ fun _ => .pure fun t _ h m e => by
      obtain rfl := Option.some.inj e
      exact h
    rintro t ht ⟨rfl, -⟩
    have hstay : Stays C (Scene.byRecorder fun _ => Recorder.requestBegun) :=
      .byRecorder (fun _ => .requestBegun) (fun _ _ => rfl) (fun _ => rfl) (fun _ _ => hc) (fun _ => .inl rfl) nofun
    refine ⟨hstay.leads ht trivial, fun u _ => ?_⟩
    replace ht := hC.orderly ht
    have hlayer := ht.layers n (by simp [hlayers])
    rw [byRecorder_run]
    exact hlayer.trans_eq (ht.linked.sameSession (s := .requestBegun) rfl).nextSerial.symm

lemma countCall (hc : counts = true) : Stays C countCall := (countCall_serial hc).weaken fun _ _ _ => trivial

lemma endCall (hc : counts = true) (request : Page.Request) (serial : Option Nat) (status : Int) :
    Stays C (endCall request serial status) := by
  unfold Scene.endCall
  cases serial with
  | none =>
    dsimp only
    exact .bind (.pure _) fun _ => .throwIf fun _ => .pure _
  | some serial =>
    dsimp only
    exact .bind (.byRecorder (fun _ => .requestEndedIn serial request.url request.method status) (fun _ _ => rfl)
      (fun _ => rfl) (fun _ _ => hc) (fun _ => .inl rfl) nofun) fun _ => .throwIf fun _ => .pure _

lemma fetch (hc : counts = true) (resource : Page.Resource) (init : Datum) (status : Int) (offline : Bool) :
    Stays C (fetch resource init status offline) :=
  .bind (.countCall hc) fun _ => .ite (.endCall hc _ _ _) (.bind (.see _ rfl) fun _ => .endCall hc _ _ _)

/-- The requests of the page change. -/
lemma changeNetwork {P : Scene → Prop} {f : Page → Page} (hc : counts = true)
    (hr : ∀ p, (f p).rig = p.rig ∧ (f p).ears = p.ears ∧ (f p).url = p.url)
    (hn : ∀ s, P s → s.page.network.Numbered s.recorder.nextSerial →
      (f s.page).network.Numbered s.recorder.nextSerial) :
    C.Runs P (Scene.changePage f) fun _ _ => True := fun s hs hP =>
  ⟨hC.changed (f s.page) s.browser s.listeners s.observers s.log hs (hr _).1
    (.inl ⟨hc, hn s hP (hC.orderly hs).network⟩) (.inl hc) (.inr (hr _).2.1) (.inr (hr _).2.2) (.refl _), fun _ _ => trivial⟩

/-- A request object changes, but not its number, and none is told of its end who was not. -/
lemma changeExchange (hc : counts = true) (key : String) {f : Page.Exchange → Page.Exchange}
    (hnumber : ∀ e, (f e).number = e.number) (hhearers : ∀ e, (f e).hearers = e.hearers) :
    Stays C (Scene.changePage (·.changeExchange key f)) :=
  .changeNetwork hc (fun _ => ⟨rfl, rfl, rfl⟩) fun _ _ hn => hn.changeExchange key hnumber fun e _ hg => .inl (hhearers e ▸ hg)

lemma startCall (hc : counts = true) (key : String) (resource : Page.Resource) (init : Datum) :
    Stays C (startCall key resource init) := by
  refine Course.Runs.bind (countCall_serial hc) fun serial => ?_
  refine .bind (Q := fun _ s => ∀ n, serial = some n → n < s.recorder.nextSerial) (fun s hs h => ?_) fun _ =>
    Stays.changeNetwork hc (fun _ => ⟨rfl, rfl, rfl⟩) fun s h hn => hn.addCall key _ h
  exact ⟨(Stays.see _ rfl).leads hs trivial, fun _ _ => h⟩

lemma settleCall (hc : counts = true) (key : String) (status : Int) : Stays C (settleCall key status) := by
  refine .get fun s => ?_
  split
  · exact .pure _
  · exact .bind (.changeNetwork hc (fun _ => ⟨rfl, rfl, rfl⟩) fun _ _ hn => hn.dropCall key) fun _ => .map _ (.endCall hc _ _ _)

lemma openExchange (hc : counts = true) (key method : String) (url : Datum) :
    Stays C (openExchange key method url) := by
  refine .get fun s => ?_
  split
  · exact .pure _
  · rename_i e _
    have hrest : Stays C (Scene.changePage (·.changeExchange key fun e =>
        { e with method := Text.upper method, url := url.plain, phase := .opened })) :=
      .changeExchange hc key (fun _ => rfl) fun _ => rfl
    exact .ite (.bind (.byRecorder (fun _ => .requestOpened e.number url.plain (Text.upper method)) (fun _ _ => rfl)
      (fun _ => rfl) (fun _ _ => hc) (fun _ => .inl rfl) nofun) fun _ => hrest) hrest

lemma sendExchange (hc : counts = true) (key : String) (arguments : List Datum) :
    Stays C (sendExchange key arguments) := by
  refine .get fun s => ?_
  split
  · exact .pure _
  · rename_i e _
    have hlast : Stays C (Scene.changePage (·.changeExchange key fun e =>
        { e with body := arguments.headD .null, phase := .sent })) := .changeExchange hc key (fun _ => rfl) fun _ => rfl
    dsimp only
    refine .ite (Course.Runs.bind (byRecorder_sent hc e.number) fun sent => ?_) ?_
    · cases sent with
      | none => exact Course.Runs.strengthen (fun _ _ _ => trivial) (Stays.throwIf fun _ => .throwIf fun _ => hlast)
      | some sent =>
        refine Course.Runs.bind (Stays.changeNetwork hc (fun _ => ⟨rfl, rfl, rfl⟩) fun s h hn => ?_) fun _ =>
          Stays.throwIf fun _ => .throwIf fun _ => hlast
        refine hn.changeExchange key (fun _ => rfl) fun e g hg => (List.mem_append.1 hg).imp_right fun hg => ?_
        obtain rfl := List.mem_singleton.1 hg
        intro serial url method heq
        cases heq
        exact ⟨rfl, h sent rfl⟩
    · exact .throwIf fun _ => .throwIf fun _ => hlast

lemma hearExchange (hc : counts = true) (key type : String) (behaviour : Page.Behaviour) :
    Stays C (hearExchange key type behaviour) := by
  refine .changeNetwork hc (fun _ => ⟨rfl, rfl, rfl⟩) fun s _ hn => hn.changeExchange key (fun _ => rfl) fun e g hg =>
    (List.mem_append.1 hg).imp_right fun hg => ?_
  obtain rfl := List.mem_singleton.1 hg
  exact nofun

lemma callHearer (hc : counts = true) (key type : String) (e : Page.Exchange) (hearer : Page.Hearer) :
    Stays C (callHearer key type e hearer) := by
  cases hearer with
  | page behaviour => exact .see _ rfl
  | recorder serial url method =>
    exact .quietly (.byRecorder (fun _ => .requestDone e.number serial url method e.status) (fun _ _ => rfl)
      (fun _ => rfl) (fun _ _ => hc) (fun _ => .inl rfl) nofun)

lemma callHearers (hc : counts = true) (key type : String) : Stays C (callHearers key type) := by
  refine .get fun s => ?_
  split
  · exact .pure _
  · exact .forM _ fun _ => .callHearer hc _ _ _ _

lemma endExchange (hc : counts = true) (key type : String) {f : Page.Exchange → Page.Exchange}
    (hnumber : ∀ e, (f e).number = e.number) (hhearers : ∀ e, (f e).hearers = e.hearers) :
    Stays C (endExchange key type f) :=
  .bind (.changeExchange hc key hnumber hhearers) fun _ => .bind (.callHearers hc _ _) fun _ => .callHearers hc _ _

/-! ### The browser -/

lemma syncContent : Stays C syncContent := .get fun _ => .load _

lemma pageLoaded (ht : travels = true) : Stays C pageLoaded := by
  refine .get fun s => .ite (.ite (.bind (.navigate ht _) fun _ => .syncContent) .syncContent) (.pure _)

omit hC in
lemma named? (selector : Datum) : Stays C (named? selector) :=
  .ite (.pure _) (.get fun _ => .ofExcept _)

lemma resolve? (selector : Datum) : Stays C (resolve? selector) := by
  refine .ite (.pure _) (.bind (.named? _) fun l? => ?_)
  cases l? with
  | none => exact .bind .syncContent fun _ => .named? _
  | some l => exact .pure _

lemma bringAdded (report : Datum) : Stays C (bringAdded report) := by
  refine .bind (.named? _) fun parent? => ?_
  cases parent? with
  | none => exact .pure _
  | some parent =>
    refine .of_leads fun s hs => ?_
    have h : C.leads s _ := (Stays.appendHtml parent.tag.id (reportText report "html").plain).leads hs trivial
    dsimp only
    rw [Course.run_bind, Course.run_tryCatch, Course.run_bind, Course.run_discard]
    rcases hr : (Scene.appendHtml parent.tag.id (reportText report "html").plain).run s with ⟨fault | _, t⟩ <;>
      rw [hr] at h
    · cases fault <;> exact h
    · exact h

lemma bringRemoved (report : Datum) : Stays C (bringRemoved report) := by
  refine .bind (.named? _) fun parent? => ?_
  cases parent? with
  | none => exact .pure _
  | some parent =>
    dsimp only
    split
    · exact .pure _
    · split
      · exact .remove _
      · exact .pure _

lemma bringAttr (report : Datum) : Stays C (bringAttr report) := by
  refine .bind (.named? _) fun found => ?_
  cases found with
  | none => exact .pure _
  | some l =>
    refine .ite (.pure _) ?_
    split
    · exact .eraseAttr _ _
    · exact .setAttr _ _ _

lemma bringEvent (type : String) (report : Datum) : Stays C (bringEvent type report) := by
  refine .bind (.resolve? _) fun l? => ?_
  cases l? with
  | none => exact .pure _
  | some l => exact .bind (.sync _ _ _) fun _ => .discard (.fire _ _ _)

lemma bring (report : Datum) (ht : plainEntry report "type" ∈ ["hashchange", "popstate"] → travels = true) :
    Stays C (bring report) := by
  refine .get fun s => .ite (.pure _) ?_
  split
  · rename_i htype
    exact .setHash (ht (by simp [htype])) _
  · rename_i htype
    exact .popState (ht (by simp [htype])) _
  · exact .bringAdded _
  · exact .bringRemoved _
  · exact .bringAttr _
  · exact .ite (.bringEvent _ _) (.pure _)

lemma requestReported (hc : counts = true) (key : String) (reported : Reported) :
    Stays C (requestReported key reported) := by
  refine .get fun s => .bind (.changeBrowser (.inl hc)) fun _ => .get fun s' =>
    .ite (.bind (.changeBrowser (.inl hc)) fun _ => ?_) (.pure _)
  exact .byRecorder (fun _ => .requestBegun) (fun _ _ => rfl) (fun _ => rfl) (fun _ _ => hc) (fun _ => .inl rfl) nofun

lemma endReported (hc : counts = true) (key : String) (status : Int) : Stays C (endReported key status) := by
  refine .get fun s => ?_
  split
  · exact .pure _
  · rename_i url method _
    refine .bind (.changeBrowser (.inl hc)) fun _ => .ite ?_ (.pure _)
    exact .byRecorder (fun _ => .requestEnded url method status) (fun _ _ => rfl) (fun _ => rfl) (fun _ _ => hc)
      (fun _ => .inl rfl) nofun

end Stays

/-! ### Everything that can happen -/

namespace Action

/-- What happens neither begins nor ends a session. -/
def isInner : Action → Bool
  | start | stop | clear => false
  | _ => true

/-- A request is prepared or made, or it ends. -/
def isRequest : Action → Bool
  | fetch _ _ _ _ | startCall _ _ _ | settleCall _ _ | makeExchange _ | openExchange _ _ _ | sendExchange _ _
  | respond _ _ _ | fail _ | hearExchange _ _ _ | requestBegun | requestEnded _ _ _ | requestReported _ _
  | endReported _ _ => true
  | _ => false

/-- What happens comes from outside of the page: time passes, the session is paused or goes on, or steps are edited by
hand. -/
def isOutside : Action → Bool
  | advance _ | runAll | pause | resume | addStep _ | removeStep _ | updateStep _ _ _ => true
  | _ => false

/-- Steps are edited by hand. -/
def edits : Action → Bool
  | .addStep _ | .removeStep _ | .updateStep _ _ _ => true
  | _ => false

/-- The page wants to hear of something, or no more. -/
def isListening : Action → Bool
  | listen _ _ _ _ _ | unlisten _ _ _ _ | observe _ _ _ | disconnect _ => true
  | _ => false

/-- The page goes to an address of its own accord, or the user moves in its history. -/
def isRoam : Action → Bool
  | navigate _ | setHash _ | popState _ => true
  | _ => false

/-- The browser tells at which address it is. -/
def isArrival : Action → Bool
  | pageLoaded => true
  | bring report => plainEntry report "type" ∈ ["hashchange", "popstate"]
  | _ => false

/-- What happens is kept out by a recorder that is not recording. -/
def isGated : Action → Bool
  | resume | removeStep _ | updateStep _ _ _ => false
  | _ => true

end Action

/-- A program of the recorder whose answer is not needed is the one of a signal. -/
lemma snd_run_eq_obey {act : Recorder.Act α} {signal : Signal} (h : signal.act = discard act) (r : Recorder) :
    (act.run r).2 = r.obey signal := by
  rw [Recorder.obey, h, Course.run_discard]

/-- **All that happens in a scene while a session lasts keeps to a course that admits it.** -/
theorem perform_runs [hC : Admits C counts opens outside listens travels] (a : Action) (hin : a.isInner = true)
    (hc : a.isRequest = true → counts = true) (ho : a.isGated = true ∨ opens = true)
    (ht : a.isOutside = true → outside = true) (hl : a.isListening = true → listens = true)
    (hu : (a.isRoam || a.isArrival) = true → travels = true) :
    Stays C (perform a) := by
  have unanswered : ∀ {act : Act Unit}, Stays C act → Stays C (unanswered act) := fun h =>
    .bind h fun _ => .pure _
  cases a with
  | start => cases hin
  | stop => cases hin
  | clear => cases hin
  | pause => exact .map _ (.byRecorder .pause (fun p r => snd_run_eq_obey rfl r) (fun _ => rfl) nofun
    (fun _ => .inl rfl) fun _ _ => ht rfl)
  | resume =>
    exact .map _ (.byRecorder (fun _ => .resume) (fun p r => snd_run_eq_obey rfl r) (fun _ => rfl) nofun
      (fun _ => ho.imp_left nofun) fun _ _ => ht rfl)
  | addStep step =>
    exact .map _ (.byRecorder (.addByHand · step) (fun p r => snd_run_eq_obey rfl r) (fun _ => rfl) nofun
      (fun _ => .inl rfl) fun _ _ => ht rfl)
  | removeStep index =>
    exact .map _ (.byRecorder (fun _ => .removeStep index) (fun p r => snd_run_eq_obey rfl r) (fun _ => rfl) nofun
      (fun _ => ho.imp_left nofun) fun _ _ => ht rfl)
  | updateStep index value waitTimeout =>
    exact .map _ (.byRecorder (fun _ => .updateStep index value waitTimeout) (fun p r => snd_run_eq_obey rfl r)
      (fun _ => rfl) nofun (fun _ => ho.imp_left nofun) fun _ _ => ht rfl)
  | callbacks added updated => exact unanswered (.setCallbacks added updated)
  | type element text => exact unanswered (.typeText element text)
  | fill element value => exact unanswered (.fill element value)
  | click element => exact unanswered (.click element)
  | press element key => exact unanswered (.press element key)
  | submit form => exact unanswered (.submit form)
  | appendHtml parent html => exact .map _ (.appendHtml parent html)
  | append parent child => exact unanswered (.append parent child)
  | create name attrs text => exact .map _ (.create name attrs text)
  | remove element => exact unanswered (.remove element)
  | setAttr element name value => exact unanswered (.setAttr element name value)
  | eraseAttr element name => exact unanswered (.eraseAttr element name)
  | load html => exact unanswered (.load html)
  | sync element value checked => exact unanswered (.sync element value checked)
  | dispatch hall event => exact .map _ (.deliver hall event)
  | listen hall name type capture behaviour => exact unanswered (.listen (hl rfl) hall name type capture behaviour)
  | unlisten hall name type capture => exact unanswered (.unlisten (hl rfl) hall name type capture)
  | observe name watch behaviour => exact .bind (.observe (hl rfl) name watch behaviour) fun _ => .pure _
  | disconnect name => exact .bind (.disconnect (hl rfl) name) fun _ => .pure _
  | navigate url => exact unanswered (.navigate (hu rfl) url)
  | setHash fragment => exact unanswered (.setHash (hu rfl) fragment)
  | popState url => exact unanswered (.popState (hu rfl) url)
  | fetch resource init status offline => exact .map _ (.fetch (hc rfl) resource init status offline)
  | startCall key resource init => exact unanswered (.startCall (hc rfl) key resource init)
  | settleCall key status => exact .map _ (.settleCall (hc rfl) key status)
  | makeExchange key =>
    exact unanswered (.changeNetwork (hc rfl) (fun _ => ⟨rfl, rfl, rfl⟩) fun _ _ hn => hn.newExchange key)
  | openExchange key method url => exact unanswered (.openExchange (hc rfl) key method url)
  | sendExchange key arguments => exact unanswered (.sendExchange (hc rfl) key arguments)
  | respond key status text => exact unanswered (.endExchange (hc rfl) key _ (fun _ => rfl) fun _ => rfl)
  | fail key => exact unanswered (.endExchange (hc rfl) key _ (fun _ => rfl) fun _ => rfl)
  | hearExchange key type behaviour => exact unanswered (.hearExchange (hc rfl) key type behaviour)
  | requestBegun =>
    exact unanswered (.byRecorder (fun _ => .requestBegun) (fun _ _ => rfl) (fun _ => rfl) (fun _ _ => hc rfl)
      (fun _ => .inl rfl) nofun)
  | requestEnded url method status =>
    exact unanswered (.byRecorder (fun _ => .requestEnded url method status) (fun _ _ => rfl) (fun _ => rfl)
      (fun _ _ => hc rfl)
      (fun _ => .inl rfl) nofun)
  | link => exact unanswered (.changeBrowser (.inr fun _ => rfl))
  | syncContent => exact unanswered .syncContent
  | showPage url html => exact unanswered (.changeBrowser (.inr fun _ => rfl))
  | pageLoaded => exact unanswered (.pageLoaded (hu rfl))
  | bring report => exact unanswered (.bring report fun h => hu (by simpa [Action.isRoam, Action.isArrival] using h))
  | requestReported key reported => exact unanswered (.requestReported (hc rfl) key reported)
  | endReported key status => exact unanswered (.endReported (hc rfl) key status)
  | advance ms =>
    exact unanswered (.byRecorder (.advance · ms) (fun _ _ => rfl) (fun _ => rfl) nofun (fun _ => .inl rfl)
      fun _ _ => ht rfl)
  | runAll =>
    exact unanswered (.byRecorder .runAll (fun _ _ => rfl) (fun _ => rfl) nofun (fun _ => .inl rfl) fun _ _ => ht rfl)

/-- **All that happens in a scene while a session lasts is moves.** -/
theorem perform_stays (counts : Bool) (a : Action) (hin : a.isInner = true) (hc : a.isRequest = true → counts = true) :
    Stays (course counts) (perform a) := perform_runs a hin hc (.inr rfl) (fun _ => rfl)
    (fun _ => rfl) fun _ => rfl

end Scene

end PageTape
