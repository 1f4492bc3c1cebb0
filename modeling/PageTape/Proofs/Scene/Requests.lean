import PageTape.Proofs.Scene.Lifecycle

/-!
# What the requests of a page do to the books of a session

`Books s serial A N` says that the session `serial` is active in a scene, that its account is `A`, and that the
requests of the page are `N`.  For every way in which a request is made, prepared or ended, it is told here what the
books are after it, whether it fails or not.
-/

namespace PageTape

lemma mem_of_lookup {α β : Type} [DecidableEq α] {l : List (α × β)} {a : α} {b : β} (h : l.lookup a = some b) :
    (a, b) ∈ l := by
  obtain ⟨before, rest, rfl, -⟩ := List.lookup_eq_some_iff.1 h
  simp

namespace Page.Network

/-- The requests with a request object changed. -/
def changeExchange (N : Network) (key : String) (f : Exchange → Exchange) : Network :=
  { N with exchanges := N.exchanges.map fun e => if e.1 == key then (e.1, f e.2) else e }

/-- The requests with a new request object. -/
def newExchange (N : Network) (key : String) : Network :=
  { N with
    nextExchange := N.nextExchange + 1
    exchanges := (key, { number := N.nextExchange }) :: N.exchanges.filter (·.1 != key) }

lemma lookup_changeExchange (N : Network) (key : String) (f : Exchange → Exchange) :
    (N.changeExchange key f).exchanges.lookup key = (N.exchanges.lookup key).map f := by
  unfold changeExchange
  dsimp only
  induction N.exchanges with
  | nil => rfl
  | cons x rest ih =>
    obtain ⟨k, e⟩ := x
    by_cases hk : k = key
    · simp [hk]
    · have hk' : (key == k) = false := by simpa using Ne.symm hk
      rw [List.map_cons, if_neg (by simpa using hk), List.lookup_cons, List.lookup_cons, hk', ih]

lemma mem_changeExchange {N : Network} {key : String} {f : Exchange → Exchange} {x : String × Exchange}
    (hx : x ∈ (N.changeExchange key f).exchanges) :
    (∃ e, (key, e) ∈ N.exchanges ∧ x = (key, f e)) ∨ x ∈ N.exchanges ∧ x.1 ≠ key := by
  obtain ⟨y, hy, rfl⟩ := List.mem_map.1 hx
  by_cases hk : y.1 = key
  · subst hk
    exact .inl ⟨y.2, hy, if_pos (by simp)⟩
  · rw [if_neg (by simpa using hk)]
    exact .inr ⟨hy, hk⟩

lemma changeExchange_of_none {N : Network} {key : String} (h : N.exchanges.lookup key = none)
    (f : Exchange → Exchange) : N.changeExchange key f = N := by
  have hmap : (N.exchanges.map fun e => if e.1 == key then (e.1, f e.2) else e) = N.exchanges.map id := by
    refine List.map_congr_left fun x hx => if_neg ?_
    have := List.lookup_eq_none_iff.1 h x hx
    rw [bne_comm] at this
    simpa using this
  rw [changeExchange, hmap, List.map_id]

/-- The requests without a call. -/
def dropCall (N : Network) (key : String) : Network := { N with calls := N.calls.filter (·.1 != key) }

/-- The requests with a call that begins, in place of one of the same name. -/
def addCall (N : Network) (key : String) (call : Call) : Network :=
  { N with calls := (key, call) :: (N.dropCall key).calls }

end Page.Network

/-- What a session has been told to hear of, with the addresses and the methods. -/
def Page.heard (serial : Nat) (hearers : List (String × Page.Hearer)) : List (String × String) :=
  hearers.filterMap fun h => match h.2 with
    | .recorder n url method => if n = serial then some (url, method) else none
    | .page _ => none

lemma Page.heard_cons (serial : Nat) (g : String × Page.Hearer) (rest : List (String × Page.Hearer)) :
    heard serial (g :: rest) = heard serial [g] ++ heard serial rest := List.filterMap_append (l := [g])

lemma Page.heard_filter {serial bound : Nat} {hearers : List (String × Page.Hearer)}
    (h : ∀ g ∈ hearers, IsKnown bound g) (type : String) :
    heard serial (hearers.filter (·.1 == type)) = if type = "loadend" then heard serial hearers else [] := by
  induction hearers with
  | nil => simp [heard]
  | cons g rest ih =>
    obtain ⟨hg, hrest⟩ := List.forall_mem_cons.1 h
    obtain ⟨kind, hearer⟩ := g
    cases hearer with
    | page behaviour =>
      have hcons : ∀ l, heard serial ((kind, .page behaviour) :: l) = heard serial l := fun l => rfl
      rw [List.filter_cons, hcons, ← ih hrest]
      split <;> rfl
    | recorder n url method =>
      obtain ⟨rfl, -⟩ := hg n url method rfl
      by_cases ht : type = "loadend"
      · subst ht
        rw [List.filter_cons_of_pos (by simp), heard_cons, ih hrest, if_pos rfl, if_pos rfl, ← heard_cons]
      · rw [List.filter_cons_of_neg (by simpa using Ne.symm ht), ih hrest, if_neg ht, if_neg ht]

/-- The recorder once it has been told that a request object has ended. -/
def Recorder.toldDone (r : Recorder) (number serial : Nat) (url method : String) (status : Int) : Recorder :=
  { ((Recorder.requestDone number serial url method status).run r).2 with notices := [] }

namespace Scene

open Recorder (Signal)
open Page (Network Exchange Hearer heard)

variable {s : Scene} {serial : Nat} {A : Account} {N : Network}

/-- **The books of a session**: it is active, its account is `A`, and the requests of the page are `N`. -/
structure Books (s : Scene) (serial : Nat) (A : Account) (N : Network) : Prop where
  linked : s.recorder.Linked
  notices : s.recorder.notices = []
  layers : s.page.layers = [serial]
  account : s.recorder.Accounts serial A
  network : s.page.network = N

lemma Attached.books (h : s.Attached) (hA : s.recorder.Accounts serial A) :
    s.Books serial A s.page.network where
  linked := h.linked
  notices := h.notices
  layers := by
    obtain ⟨a, ha, rfl, -⟩ := hA
    obtain ⟨-, p, hp⟩ := h.active a ha
    exact congrArg Page.Rig.layers hp
  account := hA
  network := rfl

/-! ### What is no request -/

lemma Move.books {t : Scene} (hm : Move false s t) (h : s.Books serial A N) : t.Books serial A N := by
  cases hm with
  | changed page browser listeners observers log hr hn =>
    have hnetwork : page.network = s.page.network := hn.resolve_left fun hc => Bool.false_ne_true hc.1
    exact ⟨h.linked, h.notices, (congrArg Page.Rig.layers hr).trans h.layers, h.account, hnetwork.trans h.network⟩
  | obeyed signal log hin hc =>
    have hcounts : signal.counts = false := Bool.eq_false_iff.2 fun hs => Bool.false_ne_true (hc hs)
    exact ⟨linked_forget (h.linked.obey_any _), rfl, h.layers, h.account.obey h.linked hin hcounts, h.network⟩

/-- **What is no request leaves the books as they are.** -/
lemma Path.books {t : Scene} (hp : Path false s t) (h : s.Books serial A N) : t.Books serial A N := by
  induction hp with
  | refl => exact h
  | tail _ hm ih => exact hm.books ih

namespace Books

lemma withLog (h : s.Books serial A N) (log : List Entry) : ({ s with log } : Scene).Books serial A N :=
  ⟨h.linked, h.notices, h.layers, h.account, h.network⟩

/-- The requests of the page change. -/
lemma changePage (h : s.Books serial A N) {f : Page → Page} {g : Network → Network}
    (hl : (f s.page).layers = s.page.layers) (hn : (f s.page).network = g s.page.network) :
    ((changePage f).run s).2.Books serial A (g N) :=
  ⟨h.linked, h.notices, hl.trans h.layers, h.account, hn.trans (congrArg g h.network)⟩

lemma changeExchange (h : s.Books serial A N) (key : String) (f : Exchange → Exchange) :
    ((Scene.changePage (·.changeExchange key f)).run s).2.Books serial A (N.changeExchange key f) :=
  h.changePage (g := (·.changeExchange key f)) rfl rfl

/-- A signal reaches the recorder. -/
lemma byRecorder {α : Type} {A' : Account} (h : s.Books serial A N) (act : Page → Recorder.Act α) (signal : Signal)
    (hact : ((act s.page).run s.recorder).2 = s.recorder.obey signal)
    (hA : ((act s.page).run s.recorder).2.Accounts serial A') : ((byRecorder act).run s).2.Books serial A' N := by
  have hl := h.linked.obey_any signal
  rw [byRecorder_run]
  exact ⟨linked_forget (hact ▸ hl), rfl, h.layers, hA, h.network⟩

/-! ### Calls -/

/-- A call begins: it is counted while recording. -/
lemma countCall (h : s.Books serial A N) : ∃ t,
    countCall.run s = (.ok (if s.recorder.isRecording = true then some serial else none), t) ∧
      t.recorder.isRecording = s.recorder.isRecording ∧
      t.Books serial (if s.recorder.isRecording = true then A.begun else A) N := by
  obtain ⟨hok, hrec, hacc⟩ := h.account.requestBegun
  unfold Scene.countCall
  rw [Course.run_bind, Course.run_get]
  simp only [h.layers]
  cases hr : s.recorder.isRecording with
  | false => exact ⟨s, rfl, hr, h⟩
  | true =>
    have hbooks := h.byRecorder (fun _ => Recorder.requestBegun) .requestBegun rfl hacc
    simp only [if_true]
    rw [Course.run_bind]
    rw [byRecorder_run, hok] at hbooks ⊢
    exact ⟨_, rfl, hrec.trans hr, hbooks⟩

/-- A call ends. -/
lemma endCall (h : s.Books serial A N) (request : Page.Request) (countedBy : Option Nat) (status : Int) :
    ((endCall request countedBy status).run s).2.Books serial
      (if countedBy = some serial then A.ended s.recorder.isRecording request.url request.method status else A) N := by
  rw [snd_run_endCall]
  cases countedBy with
  | none =>
    rw [if_neg nofun]
    exact h
  | some n =>
    have hbooks := h.byRecorder (fun _ => Recorder.requestEndedIn n request.url request.method status)
      (.requestEndedIn n request.url request.method status) rfl
      (h.account.requestEndedIn h.linked n request.url request.method status)
    simpa only [Option.some.injEq] using hbooks

/-- A call is made and waited for. -/
lemma fetch (h : s.Books serial A N) (resource : Page.Resource) (init : Datum) (status : Int) (offline : Bool) :
    ((fetch resource init status offline).run s).2.Books serial
      (if s.recorder.isRecording = true then { A with answered := A.answered ++
        [((Page.Request.ofCall resource init).url, (Page.Request.ofCall resource init).method,
          if offline = true then 0 else status)] } else A) N := by
  obtain ⟨t, hrun, hrec, hbooks⟩ := h.countCall
  unfold Scene.fetch
  dsimp only
  rw [Course.run_bind, hrun]
  cases offline with
  | true =>
    have hend := hbooks.endCall (Page.Request.ofCall resource init)
      (if s.recorder.isRecording = true then some serial else none) 0
    rw [hrec] at hend
    cases hr : s.recorder.isRecording <;> simpa [hr, Account.ended, Account.begun] using hend
  | false =>
    have hend := (hbooks.withLog (t.log ++ [.request (Page.Request.ofCall resource init)])).endCall
      (Page.Request.ofCall resource init) (if s.recorder.isRecording = true then some serial else none) status
    dsimp only at hend
    rw [hrec] at hend
    simp only [Bool.false_eq_true, if_false]
    rw [Course.run_bind]
    cases hr : s.recorder.isRecording <;> simpa [hr, Account.ended, Account.begun, see] using hend

/-- A call is made, and the page goes on. -/
lemma startCall (h : s.Books serial A N) (key : String) (resource : Page.Resource) (init : Datum) :
    ((startCall key resource init).run s).2.Books serial (if s.recorder.isRecording = true then A.begun else A)
      (N.addCall key ⟨Page.Request.ofCall resource init,
        if s.recorder.isRecording = true then some serial else none⟩) := by
  obtain ⟨t, hrun, -, hbooks⟩ := h.countCall
  unfold Scene.startCall
  dsimp only
  rw [Course.run_bind, hrun]
  exact (hbooks.withLog (t.log ++ [.request (Page.Request.ofCall resource init)])).changePage
    (f := fun p => { p with calls := (key, _) :: p.calls.filter (·.1 != key) }) (g := (·.addCall key _)) rfl rfl

/-- A call that was begun before ends, if there is one. -/
lemma settleCall (h : s.Books serial A N) (key : String) (status : Int) :
    ((settleCall key status).run s).2.Books serial (match N.calls.lookup key with
      | some call => if call.countedBy = some serial then
          A.ended s.recorder.isRecording call.request.url call.request.method status else A
      | none => A) (N.dropCall key) := by
  have hcalls : s.page.calls = N.calls := congrArg Network.calls h.network
  unfold Scene.settleCall
  rw [Course.run_bind, Course.run_get]
  simp only [hcalls]
  cases hlookup : N.calls.lookup key with
  | none =>
    have hdrop : N.dropCall key = N := by
      have hfilter : N.calls.filter (·.1 != key) = N.calls := List.filter_eq_self.2 fun c hc => by
        rw [bne_comm]
        exact List.lookup_eq_none_iff.1 hlookup c hc
      rw [Network.dropCall, hfilter]
    rw [hdrop]
    exact h
  | some call =>
    have hdropped := (h.changePage (f := fun p => { p with calls := p.calls.filter (·.1 != key) })
      (g := (·.dropCall key)) rfl rfl).endCall call.request call.countedBy status
    rw [Course.run_bind, show (Scene.changePage _).run s = (.ok ⟨⟩, _) from rfl]
    dsimp only
    rw [Course.run_map]
    exact hdropped

/-! ### Request objects -/

lemma exchange? (h : s.Books serial A N) (key : String) : s.page.exchange? key = N.exchanges.lookup key :=
  congrArg (fun N : Network => N.exchanges.lookup key) h.network

/-- A request object is opened. -/
lemma openExchange (h : s.Books serial A N) (key method : String) (url : Datum) :
    ((openExchange key method url).run s).2.Books serial (match N.exchanges.lookup key with
      | some e => A.withOpened e.number url.plain (Text.upper method)
      | none => A)
      (N.changeExchange key fun e => { e with method := Text.upper method, url := url.plain, phase := .opened }) := by
  unfold Scene.openExchange
  rw [Course.run_bind, Course.run_get]
  simp only [h.exchange?]
  cases hlookup : N.exchanges.lookup key with
  | none =>
    rw [Network.changeExchange_of_none hlookup]
    exact h
  | some e =>
    have hbooks := h.byRecorder (fun _ => Recorder.requestOpened e.number url.plain (Text.upper method))
      (.requestOpened e.number url.plain (Text.upper method)) rfl (h.account.requestOpened _ _ _)
    simp only [h.layers, List.isEmpty_cons, Bool.not_false, if_true]
    rw [Course.run_bind]
    rw [byRecorder_run] at hbooks ⊢
    exact hbooks.changeExchange key _

/-- A request object is sent that is not counted. -/
lemma sendExchange_uncounted (h : s.Books serial A N) (key : String) (arguments : List Datum)
    (hun : ∀ e, N.exchanges.lookup key = some e → s.recorder.isRecording = true → A.opened.lookup e.number = none) :
    ((sendExchange key arguments).run s).2.Books serial A N ∨ ((sendExchange key arguments).run s).2.Books serial A
      (N.changeExchange key fun e => { e with body := arguments.headD .null, phase := .sent }) := by
  unfold Scene.sendExchange
  rw [Course.run_bind, Course.run_get]
  simp only [h.exchange?]
  cases hlookup : N.exchanges.lookup key with
  | none => exact .inl h
  | some e =>
    obtain ⟨hsent, hacc⟩ := h.account.requestSent? e.number
    have hnone : (if s.recorder.isRecording = true then
        (A.opened.lookup e.number).map fun info => (serial, info.1, info.2) else none) = none := by
      split
      · rename_i hr
        rw [hun e hlookup hr]
        rfl
      · rfl
    have hA : (if s.recorder.isRecording = true ∧ (A.opened.lookup e.number).isSome = true then A.begun else A) = A :=
      if_neg fun ⟨hr, ho⟩ => by rw [hun e hlookup hr] at ho; cases ho
    rw [hnone] at hsent
    rw [hA] at hacc
    have hbooks := h.byRecorder (fun _ => Recorder.requestSent? e.number) (.requestSent e.number)
      (congrArg Prod.snd (Course.run_discard _ _)).symm hacc
    simp only [h.layers, List.isEmpty_cons, Bool.not_false, if_true]
    rw [Course.run_bind]
    rw [byRecorder_run, hsent] at hbooks ⊢
    dsimp only
    split
    · exact .inl hbooks
    · split
      · exact .inl hbooks
      · exact .inr (hbooks.changeExchange key _)

/-- A request object is sent that is counted. -/
lemma sendExchange_counted (h : s.Books serial A N) {key : String} {arguments : List Datum} {e : Exchange}
    {url method : String} (hlookup : N.exchanges.lookup key = some e) (hr : s.recorder.isRecording = true)
    (hopen : A.opened.lookup e.number = some (url, method)) (hphase : e.phase = .opened)
    (harguments : arguments.length ≤ 1) : ((sendExchange key arguments).run s).2.Books serial A.begun
      ((N.changeExchange key fun e => { e with hearers := e.hearers ++ [("loadend", .recorder serial url method)] }
        ).changeExchange key fun e => { e with body := arguments.headD .null, phase := .sent }) := by
  obtain ⟨hsent, hacc⟩ := h.account.requestSent? e.number
  simp only [hr, hopen, if_true, Option.map_some, Option.isSome_some, and_self] at hsent hacc
  have hbooks := h.byRecorder (fun _ => Recorder.requestSent? e.number) (.requestSent e.number)
    (congrArg Prod.snd (Course.run_discard _ _)).symm hacc
  unfold Scene.sendExchange
  rw [Course.run_bind, Course.run_get]
  simp only [h.exchange?, hlookup, h.layers, List.isEmpty_cons, Bool.not_false, if_true]
  rw [Course.run_bind]
  rw [byRecorder_run, hsent] at hbooks ⊢
  dsimp only
  rw [if_neg (Nat.not_lt.2 harguments), if_neg (by simp [hphase])]
  exact (hbooks.changeExchange key _).changeExchange key _

/-! ### Ends of request objects -/

section Hearers

variable (key type : String) (e : Exchange)

/-- One who is told of an end, but not for this session, changes nothing but the log. -/
lemma callHearer_other (h : s.Books serial A N) {g : String × Hearer} (hown : heard serial [g] = []) :
    ∃ log, (callHearer key type e g.2).run s = (.ok ⟨⟩, { s with log }) := by
  obtain ⟨kind, hearer⟩ := g
  cases hearer with
  | page behaviour => exact ⟨_, rfl⟩
  | recorder n url method =>
    have hn : n ≠ serial := by
      rintro rfl
      simp [heard] at hown
    refine ⟨s.log, ?_⟩
    have hsame : ({ s.recorder with notices := [] } : Recorder) = s.recorder := by rw [← h.notices]
    unfold callHearer
    rw [run_quietly, byRecorder_run, h.account.requestDone_other e.number hn, h.notices]
    simp [hsame]

/-- The session is told of an end. -/
lemma callHearer_own (h : s.Books serial A N) {g : String × Hearer} {url method : String}
    {more : List (String × String)} (hown : heard serial [g] = (url, method) :: more) :
    ∃ t, (callHearer key type e g.2).run s = (.ok ⟨⟩, t) ∧
      t.recorder = s.recorder.toldDone e.number serial url method e.status ∧
      t.Books serial ((A.closed e.number).ended s.recorder.isRecording url method e.status) N := by
  obtain ⟨kind, hearer⟩ := g
  cases hearer with
  | page behaviour => cases hown
  | recorder n url' method' =>
    obtain ⟨rfl, rfl, rfl⟩ : n = serial ∧ url' = url ∧ method' = method := by
      by_cases hn : n = serial
      · simp [heard, hn] at hown
        exact ⟨hn, hown.1.1, hown.1.2⟩
      · simp [heard, hn] at hown
    have hdone := h.account.requestDone h.linked e.number n url' method' e.status
    rw [if_pos rfl] at hdone
    refine ⟨_, run_quietly _ s, ?_, h.byRecorder (fun _ => Recorder.requestDone e.number n url' method' e.status)
      (.requestDone e.number n url' method' e.status) rfl hdone⟩
    rw [byRecorder_run]
    rfl

lemma run_forM_cons (f : String × Hearer → Act Unit) (g : String × Hearer) (rest : List (String × Hearer))
    (s : Scene) : ((g :: rest).forM f).run s = (f g >>= fun _ => rest.forM f).run s := rfl

/-- Those who are told of an end, but not for this session. -/
lemma forM_others (h : s.Books serial A N) (hearers : List (String × Hearer)) (hown : heard serial hearers = []) :
    ∃ log, (hearers.forM fun g => callHearer key type e g.2).run s = (.ok ⟨⟩, { s with log }) := by
  induction hearers generalizing s with
  | nil => exact ⟨s.log, rfl⟩
  | cons g rest ih =>
    rw [Page.heard_cons, List.append_eq_nil_iff] at hown
    obtain ⟨log, hlog⟩ := callHearer_other key type e h hown.1
    obtain ⟨log', hlog'⟩ := ih (h.withLog log) hown.2
    refine ⟨log', ?_⟩
    rw [run_forM_cons, Course.run_bind, hlog]
    exact hlog'

/-- The session is told of an end, once. -/
lemma forM_own (h : s.Books serial A N) {url method : String} (hearers : List (String × Hearer))
    (hown : heard serial hearers = [(url, method)]) :
    ((hearers.forM fun g => callHearer key type e g.2).run s).2.recorder =
        s.recorder.toldDone e.number serial url method e.status ∧
      ((hearers.forM fun g => callHearer key type e g.2).run s).2.Books serial
        ((A.closed e.number).ended s.recorder.isRecording url method e.status) N := by
  induction hearers generalizing s with
  | nil => cases hown
  | cons g rest ih =>
    rw [Page.heard_cons] at hown
    rw [run_forM_cons, Course.run_bind]
    cases hg : heard serial [g] with
    | nil =>
      obtain ⟨log, hlog⟩ := callHearer_other key type e h hg
      rw [hg, List.nil_append] at hown
      rw [hlog]
      exact ih (h.withLog log) hown
    | cons info more =>
      rw [hg, List.cons_append, List.cons.injEq, List.append_eq_nil_iff] at hown
      obtain ⟨rfl, -, hrest⟩ := hown
      obtain ⟨t, ht, htold, hbooks⟩ := callHearer_own key type e h hg
      obtain ⟨log, hlog⟩ := forM_others key type e hbooks rest hrest
      rw [ht]
      dsimp only
      rw [hlog]
      exact ⟨htold, hbooks.withLog log⟩

end Hearers

/-- Those who are told of one kind of end, if that is not the one that a session hears of. -/
lemma callHearers_others (h : s.Books serial A N) {key : String} (type : String) {e : Exchange}
    (hlookup : N.exchanges.lookup key = some e) (hown : heard serial (e.hearers.filter (·.1 == type)) = []) :
    ∃ log, (callHearers key type).run s = (.ok ⟨⟩, { s with log }) := by
  obtain ⟨log, hlog⟩ := forM_others key type e h _ hown
  refine ⟨log, ?_⟩
  unfold callHearers
  rw [Course.run_bind, Course.run_get]
  simp only [h.exchange?, hlookup]
  exact hlog

/-- An end of what is not there. -/
lemma endExchange_of_none (h : s.Books serial A N) {key : String} (type : String) (f : Exchange → Exchange)
    (hlookup : N.exchanges.lookup key = none) : ((endExchange key type f).run s).2.recorder = s.recorder ∧
      ((endExchange key type f).run s).2.Books serial A N := by
  obtain ⟨t, hrun, hsame, hchanged⟩ : ∃ t,
      (Scene.changePage (·.changeExchange key fun e => { f e with phase := .done })).run s = (.ok ⟨⟩, t) ∧
        t.recorder = s.recorder ∧ t.Books serial A (N.changeExchange key fun e => { f e with phase := .done }) :=
    ⟨_, rfl, rfl, h.changeExchange key _⟩
  rw [Network.changeExchange_of_none hlookup] at hchanged
  have hnobody : ∀ type, (callHearers key type).run t = (.ok ⟨⟩, t) := fun type => by
    unfold callHearers
    rw [Course.run_bind, Course.run_get]
    simp only [hchanged.exchange?, hlookup]
    rfl
  unfold Scene.endExchange
  rw [Course.run_bind, hrun]
  dsimp only
  rw [Course.run_bind, hnobody]
  dsimp only
  rw [hnobody]
  exact ⟨hsame, hchanged⟩

/-- A request object ends: what a session has been told to hear of it, it is told. -/
lemma endExchange (h : s.Books serial A N) {key type : String} (ht : type ≠ "loadend") {f : Exchange → Exchange}
    {e : Exchange} {bound : Nat} (hlookup : N.exchanges.lookup key = some e) (hnumber : (f e).number = e.number)
    (hhearers : (f e).hearers = e.hearers) (hknown : ∀ g ∈ e.hearers, Page.IsKnown bound g) :
    (heard serial e.hearers = [] → ((endExchange key type f).run s).2.recorder = s.recorder ∧
        ((endExchange key type f).run s).2.Books serial A
          (N.changeExchange key fun e => { f e with phase := .done })) ∧
      ∀ url method, heard serial e.hearers = [(url, method)] →
        ((endExchange key type f).run s).2.recorder =
            s.recorder.toldDone e.number serial url method (f e).status ∧
          ((endExchange key type f).run s).2.Books serial
            ((A.closed e.number).ended s.recorder.isRecording url method (f e).status)
            (N.changeExchange key fun e => { f e with phase := .done }) := by
  obtain ⟨t, hrun, hrec, hchanged⟩ : ∃ t,
      (Scene.changePage (·.changeExchange key fun e => { f e with phase := .done })).run s = (.ok ⟨⟩, t) ∧
        t.recorder = s.recorder ∧ t.Books serial A (N.changeExchange key fun e => { f e with phase := .done }) :=
    ⟨_, rfl, rfl, h.changeExchange key _⟩
  have hdone : (N.changeExchange key fun e => { f e with phase := .done }).exchanges.lookup key =
      some { f e with phase := .done } := by rw [Network.lookup_changeExchange, hlookup]; rfl
  have hfilter : ∀ type, heard serial ((f e).hearers.filter (·.1 == type)) =
      if type = "loadend" then heard serial e.hearers else [] := fun type => by
    rw [hhearers]
    exact Page.heard_filter hknown type
  obtain ⟨log, hlog⟩ := hchanged.callHearers_others type hdone ((hfilter type).trans (if_neg ht))
  have hend : (Scene.endExchange key type f).run s = (callHearers key "loadend").run { t with log } := by
    unfold Scene.endExchange
    rw [Course.run_bind, hrun]
    dsimp only
    rw [Course.run_bind, hlog]
  rw [hend]
  have hlogged := hchanged.withLog log
  refine ⟨fun hown => ?_, fun url method hown => ?_⟩
  · obtain ⟨log', hlog'⟩ := hlogged.callHearers_others "loadend" hdone ((hfilter _).trans hown)
    rw [hlog']
    exact ⟨hrec, hlogged.withLog log'⟩
  · have hbooks := forM_own key "loadend" { f e with phase := .done } hlogged _ ((hfilter "loadend").trans hown)
    unfold callHearers
    rw [Course.run_bind, Course.run_get]
    simp only [hlogged.exchange?, hdone]
    rw [← hrec, ← hnumber]
    exact hbooks

end Books

/-! ### Beginning -/

/-- **A session that begins has no requests yet**, and those of the page are as before. -/
lemma Attached.books_start {session : Option Session} (h : s.Attached) (hok : (start.run s).1 = .ok session) :
    (start.run s).2.Books s.recorder.nextSerial {} s.page.network := by
  have hattached : (start.run s).2.Attached := start_runs.leads h trivial h
  suffices hbegun : (start.run s).2.recorder.Accounts s.recorder.nextSerial {} ∧
      (start.run s).2.page.network = s.page.network from hbegun.2 ▸ hattached.books hbegun.1
  unfold start at hok ⊢
  rw [Course.run_bind, Course.run_get] at hok ⊢
  dsimp only at hok ⊢
  cases hb : s.recorder.isBound with
  | false =>
    simp only [hb, Bool.not_false, if_true] at hok
    cases hok
  | true =>
    simp only [hb, Bool.not_true, Bool.false_eq_true, if_false] at hok ⊢
    rw [Course.run_bind, Course.run_discard] at hok ⊢
    obtain ⟨r, hp, ⟨fault, hrun⟩ | ⟨session, hrun⟩⟩ := stop_run h.linked <;> rw [hrun] at hok ⊢
    · cases hok
    · refine ⟨⟨_, rfl, ?_, rfl⟩, network_released s⟩
      exact (Recorder.conclude_nextSerial r).trans hp.sameSession.nextSerial

/-- The same of the scene in which a session begins. -/
lemma Attached.books_step_start {answer : Answer} (h : s.Attached) (hok : (s.step .start).result = .ok answer) :
    (s.step .start).scene.Books s.recorder.nextSerial {} s.page.network := by
  unfold Scene.step at hok ⊢
  rw [show perform .start = Answer.session <$> start from rfl, Course.run_map] at hok ⊢
  cases hstart : (start.run { s with log := [] }).1 with
  | error fault => simp [hstart, Except.map] at hok
  | ok session => exact ((h.withLog []).books_start hstart).withLog []

end Scene

end PageTape
