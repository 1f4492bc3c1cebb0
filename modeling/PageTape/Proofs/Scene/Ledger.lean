import PageTape.Proofs.Scene.Requests

/-!
# Every request that is counted is counted once

A `Ledger` is what an onlooker writes down who sees all that happens in a scene while one session lasts: each call and
each request object that was sent while recording and has not ended, and what came of those that ended while
recording.  `Ledger.next` tells what is written down; `Matches` ties it to the account of the session and to the
requests of the page, and every action keeps that tie (`Matches.step`).
-/

namespace PageTape.Scene

open Page (Network Exchange Call heard)

/-! ### The ledger -/

/-- What names a request that is under way: the name of a call, or the number of a request object. -/
inductive Name where
  | call (key : String)
  | exchange (number : Nat)
  deriving DecidableEq, Repr

/-- A request that is under way, with its address and its method.  A call whose name was given to another one has none
any more. -/
abbrev Entered := Option Name × String × String

/-- **What an onlooker writes down of the requests of a session**: the request objects that were opened in it and those
that were counted in it, the requests that are under way, and the address, the method and the status of each that has
ended. -/
structure Ledger where
  opened : List (Nat × String × String) := []
  sent : List Nat := []
  underWay : List Entered := []
  answered : List (String × String × Int) := []
  deriving DecidableEq, Repr

namespace Ledger

/-- Nothing is known by this name any more. -/
def release (L : Ledger) (name : Name) : Ledger :=
  { L with underWay := L.underWay.map fun x => if x.1 = some name then (none, x.2) else x }

/-- A request is sent. -/
def enter (L : Ledger) (name : Name) (url method : String) : Ledger :=
  { L with underWay := (some name, url, method) :: L.underWay }

/-- The request of this name ends; while recording, it is written down with its status. -/
def settle (L : Ledger) (name : Name) (status : Int) (recording : Bool) : Ledger :=
  { L with
    underWay := L.underWay.filter (·.1 != some name)
    answered := if recording = true then
        L.answered ++ (L.underWay.filter (·.1 == some name)).map fun x => (x.2.1, x.2.2, status)
      else L.answered }

/-- **What is written down of an action**, from the scene before it. -/
def next (L : Ledger) (s : Scene) : Action → Ledger
  | .fetch resource init status offline =>
    let request := Page.Request.ofCall resource init
    if s.recorder.isRecording = true then
      { L with answered := L.answered ++ [(request.url, request.method, if offline = true then 0 else status)] }
    else L
  | .startCall key resource init =>
    let request := Page.Request.ofCall resource init
    if s.recorder.isRecording = true then (L.release (.call key)).enter (.call key) request.url request.method
    else L.release (.call key)
  | .settleCall key status => L.settle (.call key) status s.recorder.isRecording
  | .openExchange key method url => match s.page.exchange? key with
    | some e => { L with opened := (e.number, url.plain, Text.upper method) :: L.opened }
    | none => L
  | .sendExchange key _ => match s.page.exchange? key with
    | some e => match s.recorder.isRecording, L.opened.lookup e.number with
      | true, some (url, method) =>
        { L.enter (.exchange e.number) url method with sent := e.number :: L.sent }
      | _, _ => L
    | none => L
  | .respond key status _ => match s.page.exchange? key with
    | some e => L.settle (.exchange e.number) status s.recorder.isRecording
    | none => L
  | .fail key => match s.page.exchange? key with
    | some e => L.settle (.exchange e.number) 0 s.recorder.isRecording
    | none => L
  | _ => L

/-- What the page may do within a session: a request object that counts is sent once, as it must be, and ends once; and
the requests are all those of the page. -/
def Proper (L : Ledger) (s : Scene) : Action → Prop
  | .start | .stop | .clear => False
  | .requestBegun | .requestEnded _ _ _ | .requestReported _ _ | .endReported _ _ => False
  | .sendExchange key arguments => ∀ e, s.page.exchange? key = some e → s.recorder.isRecording = true →
    (L.opened.lookup e.number).isSome = true →
      e.number ∉ L.sent ∧ e.phase = .opened ∧ arguments.length ≤ 1
  | .respond key _ _ | .fail key => ∀ e, s.page.exchange? key = some e → e.number ∈ L.sent →
    ∃ x ∈ L.underWay, x.1 = some (.exchange e.number)
  | _ => True

/-- What is written down of actions one after another. -/
def run (L : Ledger) (s : Scene) : List Action → Ledger
  | [] => L
  | a :: rest => (L.next s a).run (s.step a).scene rest

/-- The page does nothing else than it may. -/
def ProperRun (L : Ledger) (s : Scene) : List Action → Prop
  | [] => True
  | a :: rest => L.Proper s a ∧ (L.next s a).ProperRun (s.step a).scene rest

variable {L : Ledger} {name : Name} {info : String × String} {status : Int} {recording : Bool}

/-- No name is given to two requests that are under way. -/
def Distinct (L : Ledger) : Prop := L.underWay.Pairwise fun x y => x.1 = none ∨ x.1 ≠ y.1

lemma mem_release {m : Name} :
    (some m, info) ∈ (L.release name).underWay ↔ (some m, info) ∈ L.underWay ∧ m ≠ name := by
  simp only [release, List.mem_map]
  constructor
  · rintro ⟨x, hx, he⟩
    split at he
    · cases he
    · rename_i hne
      subst he
      exact ⟨hx, fun e => hne (by rw [e])⟩
  · rintro ⟨hx, hm⟩
    exact ⟨_, hx, if_neg (by simpa using hm)⟩

lemma Distinct.release (h : L.Distinct) (name : Name) : (L.release name).Distinct := by
  refine List.Pairwise.map _ (fun x y hxy => ?_) h
  by_cases hx : x.1 = some name
  · exact .inl (by simp [hx])
  · rw [if_neg hx]
    by_cases hy : y.1 = some name
    · simp only [hy, if_true]
      exact (eq_or_ne x.1 none)
    · rwa [if_neg hy]

/-- What is under way by another name was so before. -/
lemma mem_of_enter {m : Name} {url method : String} (hm : m ≠ name)
    (h : (some m, info) ∈ (L.enter name url method).underWay) : (some m, info) ∈ L.underWay := by
  refine (List.mem_cons.1 h).resolve_left fun he => hm ?_
  exact Option.some.inj (congrArg Prod.fst he)

lemma Distinct.enter (h : L.Distinct) (hnew : ∀ info, (some name, info) ∉ L.underWay) (url method : String) :
    (L.enter name url method).Distinct := by
  refine List.pairwise_cons.2 ⟨fun x hx => .inr fun e => ?_, h⟩
  obtain ⟨m, info⟩ := x
  cases e
  exact hnew info hx

lemma Distinct.filter_eq (h : L.Distinct) (hmem : (some name, info) ∈ L.underWay) :
    L.underWay.filter (·.1 == some name) = [(some name, info)] := by
  unfold Distinct at h
  generalize L.underWay = l at h hmem ⊢
  induction l with
  | nil => cases hmem
  | cons x rest ih =>
    obtain ⟨hx, hrest⟩ := List.pairwise_cons.1 h
    rcases List.mem_cons.1 hmem with rfl | hmem
    · have hnone : rest.filter (·.1 == some name) = [] := List.filter_eq_nil_iff.2 fun y hy => by
        have := (hx y hy).resolve_left nofun
        simpa using Ne.symm this
      rw [List.filter_cons_of_pos (by simp), hnone]
    · have hne : x.1 ≠ some name := fun e => (hx _ hmem).elim (fun hn => by rw [hn] at e; cases e) fun hn => hn e
      rw [List.filter_cons_of_neg (by simpa using hne), ih hrest hmem]

lemma mem_settle {m : Name} : (some m, info) ∈ (L.settle name status recording).underWay ↔
    (some m, info) ∈ L.underWay ∧ m ≠ name := by
  simp [settle]

lemma settle_of_absent (h : ∀ info, (some name, info) ∉ L.underWay) : L.settle name status recording = L := by
  have hne : ∀ x ∈ L.underWay, x.1 ≠ some name := by
    rintro ⟨m, info⟩ hx rfl
    exact h info hx
  have hkept : L.underWay.filter (·.1 != some name) = L.underWay :=
    List.filter_eq_self.2 fun x hx => by simpa using hne x hx
  have hnone : L.underWay.filter (·.1 == some name) = [] :=
    List.filter_eq_nil_iff.2 fun x hx => by simpa using hne x hx
  unfold settle
  rw [hkept, hnone]
  simp

lemma Distinct.settle (h : L.Distinct) (name : Name) (status : Int) (recording : Bool) :
    (L.settle name status recording).Distinct := List.Pairwise.filter _ h

lemma Distinct.length_settle (h : L.Distinct) (hmem : (some name, info) ∈ L.underWay) :
    (L.settle name status recording).underWay.length = L.underWay.length - 1 := by
  have hlength := List.length_eq_length_filter_add (l := L.underWay) (f := (·.1 == some name))
  rw [h.filter_eq hmem, List.length_singleton] at hlength
  unfold Ledger.settle
  dsimp only
  exact (Nat.sub_eq_of_eq_add' hlength).symm

lemma Distinct.answered_settle (h : L.Distinct) (hmem : (some name, info) ∈ L.underWay) :
    (L.settle name status recording).answered =
      if recording = true then L.answered ++ [(info.1, info.2, status)] else L.answered := by
  unfold Ledger.settle
  dsimp only
  rw [h.filter_eq hmem, List.map_singleton]

/-! ### The ledger and the page -/

/-- **The ledger tells what the session counts**: as many requests are under way, as many and the same have been
answered, a call of the page is under way where the session counts it, and the session hears of the end of a request
object where that was sent. -/
structure Matches (L : Ledger) (serial : Nat) (A : Account) (N : Network) : Prop where
  inFlight : A.inFlight = L.underWay.length
  answered : A.answered = L.answered
  opened : ∀ n, n ∉ L.sent → A.opened.lookup n = L.opened.lookup n
  distinct : L.Distinct
  calls : ∀ key info, (some (.call key), info) ∈ L.underWay ↔ ∃ call, N.calls.lookup key = some call ∧
    call.countedBy = some serial ∧ info = (call.request.url, call.request.method)
  exchanges : ∀ n info, (some (.exchange n), info) ∈ L.underWay → n ∈ L.sent
  known : ∀ n ∈ L.sent, n < N.nextExchange ∧ (L.opened.lookup n).isSome = true
  unsent : ∀ x ∈ N.exchanges, x.2.number ∉ L.sent → heard serial x.2.hearers = []
  heard : ∀ x ∈ N.exchanges, x.2.number ∈ L.sent → ∃ info, heard serial x.2.hearers = [info] ∧
    ∀ info', (some (.exchange x.2.number), info') ∈ L.underWay → info' = info

lemma lookup_cons_ne {α β : Type} [DecidableEq α] {a b : α} (h : a ≠ b) (v : β) (l : List (α × β)) :
    ((b, v) :: l).lookup a = l.lookup a := by
  have hab : (a == b) = false := by simpa using h
  rw [List.lookup_cons, hab]

lemma lookup_filter_ne {α β : Type} [DecidableEq α] {a b : α} (h : a ≠ b) (l : List (α × β)) :
    (l.filter (·.1 != b)).lookup a = l.lookup a := by
  induction l with
  | nil => rfl
  | cons x rest ih =>
    obtain ⟨k, v⟩ := x
    by_cases hk : k = b
    · rw [List.filter_cons_of_neg (by simpa using hk), ih, lookup_cons_ne (hk ▸ h)]
    · rw [List.filter_cons_of_pos (by simpa using hk), List.lookup_cons, List.lookup_cons, ih]

lemma lookup_filter_self {α β : Type} [DecidableEq α] (b : α) (l : List (α × β)) :
    (l.filter (·.1 != b)).lookup b = none := by
  refine List.lookup_eq_none_iff.2 fun x hx => ?_
  rw [bne_comm]
  exact (List.mem_filter.1 hx).2

namespace Matches

variable {serial : Nat} {A : Account} {N : Network} {url method : String}

/-- The session still hears of the end of an object if the object is not under way with anything new. -/
lemma heard_onward (h : L.Matches serial A N) {x : String × Exchange} (hx : x ∈ N.exchanges)
    (hsent : x.2.number ∈ L.sent) {underWay : List Entered}
    (hunder : ∀ info, (some (.exchange x.2.number), info) ∈ underWay →
      (some (.exchange x.2.number), info) ∈ L.underWay) :
    ∃ info, Page.heard serial x.2.hearers = [info] ∧
      ∀ info', (some (.exchange x.2.number), info') ∈ underWay → info' = info := by
  obtain ⟨info, hinfo, hall⟩ := h.heard x hx hsent
  refine ⟨info, hinfo, fun info' hmem => ?_⟩
  exact hall info' (hunder info' hmem)

/-! #### Calls -/

lemma dropCall (h : L.Matches serial A N) {key : String} (hun : ∀ info, (some (.call key), info) ∉ L.underWay) :
    L.Matches serial A (N.dropCall key) :=
  { h with
    calls := fun k info => by
      by_cases hk : k = key
      · subst hk
        simp [Network.dropCall, lookup_filter_self, hun info]
      · rw [h.calls, Network.dropCall, lookup_filter_ne hk] }

/-- A call has its name no more. -/
lemma release (h : L.Matches serial A N) (key : String) : (L.release (.call key)).Matches serial A (N.dropCall key) :=
  { h with
    inFlight := by rw [h.inFlight, Ledger.release, List.length_map]
    distinct := h.distinct.release _
    calls := fun k info => by
      rw [mem_release, h.calls]
      by_cases hk : k = key
      · subst hk
        simp [Network.dropCall, lookup_filter_self]
      · simp [Network.dropCall, lookup_filter_ne hk, hk]
    exchanges := fun n info hmem => h.exchanges n info (mem_release.1 hmem).1
    heard := fun _ hx hsent => h.heard_onward hx hsent fun _ hmem => (mem_release.1 hmem).1 }

/-- A call begins that is not counted. -/
lemma addCall {key : String} (h : L.Matches serial A (N.dropCall key)) {call : Call}
    (hcall : call.countedBy ≠ some serial) : L.Matches serial A (N.addCall key call) :=
  { h with
    calls := fun k info => by
      rw [h.calls, Network.addCall]
      by_cases hk : k = key
      · subst hk
        simp [Network.dropCall, lookup_filter_self, hcall]
      · rw [lookup_cons_ne hk] }

/-- A call begins that is counted. -/
lemma enterCall {key : String} (h : L.Matches serial A (N.dropCall key)) {call : Call}
    (hcall : call.countedBy = some serial) :
    (L.enter (.call key) call.request.url call.request.method).Matches serial A.begun (N.addCall key call) :=
  { h with
    inFlight := congrArg (· + 1) h.inFlight
    distinct := h.distinct.enter (fun info hmem => by
      obtain ⟨c, hc, -⟩ := (h.calls key info).1 hmem
      rw [Network.dropCall, lookup_filter_self] at hc
      cases hc) _ _
    calls := fun k info => by
      rw [Network.addCall, Ledger.enter, List.mem_cons, h.calls]
      by_cases hk : k = key
      · subst hk
        simp [Network.dropCall, lookup_filter_self, hcall]
      · rw [lookup_cons_ne hk]
        exact or_iff_right fun he => hk (Name.call.inj (Option.some.inj (congrArg Prod.fst he)))
    exchanges := fun n info hmem => h.exchanges n info (mem_of_enter (by simp) hmem)
    heard := fun _ hx hsent => h.heard_onward hx hsent fun _ hmem => mem_of_enter (by simp) hmem }

/-- A call that is counted ends. -/
lemma settleCall (h : L.Matches serial A N) {key : String} (hmem : (some (.call key), url, method) ∈ L.underWay)
    (status : Int) (recording : Bool) :
    (L.settle (.call key) status recording).Matches serial (A.ended recording url method status) (N.dropCall key) :=
  { h with
    inFlight := by
      rw [h.distinct.length_settle hmem, ← h.inFlight]
      rfl
    answered := by
      rw [h.distinct.answered_settle hmem, ← h.answered]
      rfl
    distinct := h.distinct.settle _ _ _
    calls := fun k info => by
      rw [mem_settle, h.calls]
      by_cases hk : k = key
      · subst hk
        simp [Network.dropCall, lookup_filter_self]
      · simp [Network.dropCall, lookup_filter_ne hk, hk]
    exchanges := fun n info hmem => h.exchanges n info (mem_settle.1 hmem).1
    heard := fun _ hx hsent => h.heard_onward hx hsent fun _ hmem => (mem_settle.1 hmem).1 }

/-! #### Request objects -/

lemma newExchange (h : L.Matches serial A N) (key : String) : L.Matches serial A (N.newExchange key) :=
  { h with
    known := fun n hn => (h.known n hn).imp_left (·.trans (Nat.lt_succ_self _))
    unsent := fun x hx hsent => by
      rcases List.mem_cons.1 hx with rfl | hx
      · rfl
      · exact h.unsent x (List.mem_filter.1 hx).1 hsent
    heard := fun x hx hsent => by
      rcases List.mem_cons.1 hx with rfl | hx
      · exact absurd (h.known _ hsent).1 (lt_irrefl _)
      · exact h.heard x (List.mem_filter.1 hx).1 hsent }

/-- A request object changes, but not in what the session hears of it. -/
lemma changeExchange (h : L.Matches serial A N) (key : String) {f : Exchange → Exchange}
    (hnumber : ∀ e, (f e).number = e.number)
    (hheard : ∀ e, Page.heard serial (f e).hearers = Page.heard serial e.hearers) :
    L.Matches serial A (N.changeExchange key f) :=
  { h with
    unsent := fun x hx hsent => by
      obtain ⟨e, he, rfl⟩ | ⟨hx, -⟩ := Network.mem_changeExchange hx
      · exact (hheard e).trans (h.unsent _ he (hnumber e ▸ hsent))
      · exact h.unsent x hx hsent
    heard := fun x hx hsent => by
      obtain ⟨e, he, rfl⟩ | ⟨hx, -⟩ := Network.mem_changeExchange hx
      · simp only [hnumber, hheard] at hsent ⊢
        exact h.heard _ he hsent
      · exact h.heard x hx hsent }

lemma openExchange (h : L.Matches serial A N) (n : Nat) (url method : String) :
    ({ L with opened := (n, url, method) :: L.opened } : Ledger).Matches serial (A.withOpened n url method) N :=
  { h with
    opened := fun m hm => by
      by_cases hmn : m = n
      · simp [Account.withOpened, hmn]
      · rw [lookup_cons_ne hmn, Account.withOpened, lookup_cons_ne hmn, Account.closed, lookup_filter_ne hmn]
        exact h.opened m hm
    known := fun m hm => (h.known m hm).imp_right fun hopen => by
      by_cases hmn : m = n
      · simp [hmn]
      · rwa [lookup_cons_ne hmn] }

/-- A request object is sent that is counted. -/
lemma sendExchange (h : L.Matches serial A N) {bound : Nat} (hN : N.Numbered bound) {key : String} {e : Exchange}
    (hlookup : N.exchanges.lookup key = some e) (hnew : e.number ∉ L.sent)
    (hopen : L.opened.lookup e.number = some (url, method)) :
    ({ L.enter (.exchange e.number) url method with sent := e.number :: L.sent } : Ledger).Matches serial A.begun
      (N.changeExchange key fun e =>
        { e with hearers := e.hearers ++ [("loadend", .recorder serial url method)] }) := by
  have hmem := mem_of_lookup hlookup
  have hkey : ∀ e', (key, e') ∈ N.exchanges → e' = e := fun e' he' =>
    congrArg Prod.snd (List.inj_on_of_nodup_map hN.keys he' hmem rfl)
  have hother : ∀ x ∈ N.exchanges, x.1 ≠ key → x.2.number ≠ e.number := fun x hx hk hn =>
    hk (congrArg Prod.fst (List.inj_on_of_nodup_map hN.numbers hx hmem hn))
  have habsent : ∀ info, (some (.exchange e.number), info) ∉ L.underWay := fun info hmem =>
    hnew (h.exchanges _ _ hmem)
  exact { h with
    inFlight := congrArg (· + 1) h.inFlight
    opened := fun n hn => h.opened n fun hs => hn (List.mem_cons_of_mem _ hs)
    distinct := h.distinct.enter habsent _ _
    calls := fun k info => by
      refine Iff.trans (List.mem_cons.trans (or_iff_right fun he => ?_)) (h.calls k info)
      cases congrArg Prod.fst he
    exchanges := fun n info hn => by
      rcases List.mem_cons.1 hn with hn | hn
      · cases hn
        exact List.mem_cons_self
      · exact List.mem_cons_of_mem _ (h.exchanges n info hn)
    known := fun n hn => by
      rcases List.mem_cons.1 hn with rfl | hn
      · exact ⟨hN.fresh _ hmem, congrArg Option.isSome hopen⟩
      · exact h.known n hn
    unsent := fun x hx hsent => by
      obtain ⟨e', he', rfl⟩ | ⟨hx, -⟩ := Network.mem_changeExchange hx
      · obtain rfl := hkey e' he'
        exact absurd List.mem_cons_self hsent
      · exact h.unsent x hx fun hs => hsent (List.mem_cons_of_mem _ hs)
    heard := fun x hx hsent => by
      obtain ⟨e', he', rfl⟩ | ⟨hx, hk⟩ := Network.mem_changeExchange hx
      · obtain rfl := hkey e' he'
        refine ⟨(url, method), ?_, fun info hinfo => ?_⟩
        · have hnone : Page.heard serial e'.hearers = [] := h.unsent _ he' hnew
          simpa [Page.heard, List.filterMap_append] using hnone
        · rcases List.mem_cons.1 hinfo with hinfo | hinfo
          · exact congrArg Prod.snd hinfo
          · exact absurd hinfo (habsent info)
      · have hn := hother x hx hk
        exact h.heard_onward hx ((List.mem_cons.1 hsent).resolve_left hn) fun info hmem =>
          mem_of_enter (by simpa using hn) hmem }

/-- A request object that was counted ends. -/
lemma settleExchange (h : L.Matches serial A N) {n : Nat} (hmem : (some (.exchange n), url, method) ∈ L.underWay)
    (status : Int) (recording : Bool) : (L.settle (.exchange n) status recording).Matches serial
      ((A.closed n).ended recording url method status) N :=
  { h with
    inFlight := by
      rw [h.distinct.length_settle hmem, ← h.inFlight]
      rfl
    answered := by
      rw [h.distinct.answered_settle hmem, ← h.answered]
      rfl
    opened := fun m hm => by
      have hne : m ≠ n := by
        rintro rfl
        exact hm (h.exchanges _ _ hmem)
      exact (lookup_filter_ne hne _).trans (h.opened m hm)
    distinct := h.distinct.settle _ _ _
    calls := fun k info => by
      rw [mem_settle, h.calls]
      exact and_iff_left nofun
    exchanges := fun m info hm => h.exchanges m info (mem_settle.1 hm).1
    heard := fun _ hx hsent => h.heard_onward hx hsent fun _ hm => (mem_settle.1 hm).1 }

end Matches

/-! ### The ledger of a run -/

/-- The ledger is that of the session which is active in the scene. -/
def Tallies (L : Ledger) (serial : Nat) (s : Scene) : Prop := ∃ A N, s.Books serial A N ∧ L.Matches serial A N

section Step

variable {s : Scene} {serial : Nat} {A : Account} {N : Network}

lemma Matches.startCall (h : L.Matches serial A N) (key : String) (request : Page.Request) (recording : Bool) :
    (if recording = true then (L.release (.call key)).enter (.call key) request.url request.method
      else L.release (.call key)).Matches serial (if recording = true then A.begun else A)
        (N.addCall key ⟨request, if recording = true then some serial else none⟩) := by
  cases recording with
  | false => exact (h.release key).addCall nofun
  | true => exact (h.release key).enterCall (rfl : (⟨request, some serial⟩ : Call).countedBy = some serial)

lemma Matches.endCall (h : L.Matches serial A N) (key : String) (status : Int) (recording : Bool) :
    (L.settle (.call key) status recording).Matches serial (match N.calls.lookup key with
      | some call => if call.countedBy = some serial then
          A.ended recording call.request.url call.request.method status else A
      | none => A) (N.dropCall key) := by
  cases hlookup : N.calls.lookup key with
  | none =>
    have hun : ∀ info, (some (.call key), info) ∉ L.underWay := fun info hmem => by
      obtain ⟨call, hcall, -⟩ := (h.calls key info).1 hmem
      rw [hlookup] at hcall
      cases hcall
    rw [settle_of_absent hun]
    exact h.dropCall hun
  | some call =>
    dsimp only
    by_cases hcall : call.countedBy = some serial
    · rw [if_pos hcall]
      exact h.settleCall ((h.calls key _).2 ⟨call, hlookup, hcall, rfl⟩) status recording
    · have hun : ∀ info, (some (.call key), info) ∉ L.underWay := fun info hmem => by
        obtain ⟨c, hc, hby, -⟩ := (h.calls key info).1 hmem
        rw [hlookup] at hc
        cases hc
        exact hcall hby
      rw [if_neg hcall, settle_of_absent hun]
      exact h.dropCall hun

/-- A request object is sent as it must be. -/
lemma Tallies.send (hb : s.Books serial A N) (hm : L.Matches serial A N) {bound : Nat} (hN : N.Numbered bound)
    {key : String} {arguments : List Datum} (hp : L.Proper s (.sendExchange key arguments)) :
    (L.next s (.sendExchange key arguments)).Tallies serial ((sendExchange key arguments).run s).2 := by
  have uncounted : (∀ e, N.exchanges.lookup key = some e → s.recorder.isRecording = true →
      L.opened.lookup e.number = none) → L.Tallies serial ((sendExchange key arguments).run s).2 := fun hnone => by
    have hnone' : ∀ e, N.exchanges.lookup key = some e → s.recorder.isRecording = true →
        A.opened.lookup e.number = none := fun e he hr => by
      have hsent : e.number ∉ L.sent := fun hs => by
        have := (hm.known _ hs).2
        rw [hnone e he hr] at this
        cases this
      rw [hm.opened _ hsent]
      exact hnone e he hr
    rcases hb.sendExchange_uncounted key arguments hnone' with hbooks | hbooks
    · exact ⟨_, _, hbooks, hm⟩
    · exact ⟨_, _, hbooks, hm.changeExchange key (fun _ => rfl) fun _ => rfl⟩
  simp only [Ledger.next, hb.exchange?]
  cases hlookup : N.exchanges.lookup key with
  | none => exact uncounted fun e he => by rw [hlookup] at he; cases he
  | some e =>
    dsimp only
    cases hr : s.recorder.isRecording with
    | false => exact uncounted fun _ _ h => by rw [hr] at h; cases h
    | true =>
      cases hopen : L.opened.lookup e.number with
      | none =>
        refine uncounted fun e' he' _ => ?_
        rw [hlookup] at he'
        cases he'
        exact hopen
      | some info =>
        obtain ⟨hnew, hphase, harguments⟩ := hp e (by rw [hb.exchange?, hlookup]) hr (by rw [hopen]; rfl)
        have hbooks := hb.sendExchange_counted hlookup hr ((hm.opened _ hnew).trans hopen) hphase harguments
        exact ⟨_, _, hbooks, (hm.sendExchange hN hlookup hnew hopen).changeExchange key (fun _ => rfl) fun _ => rfl⟩

/-- A request object ends that has not ended before, or one that does not count. -/
lemma Tallies.finish (hb : s.Books serial A N) (hm : L.Matches serial A N) {bound : Nat} (hN : N.Numbered bound)
    {key type : String} (ht : type ≠ "loadend") {f : Exchange → Exchange} {status : Int}
    (hf : ∀ e, (f e).number = e.number ∧ (f e).hearers = e.hearers ∧ (f e).status = status)
    (hp : ∀ e, s.page.exchange? key = some e → e.number ∈ L.sent →
      ∃ x ∈ L.underWay, x.1 = some (.exchange e.number)) :
    Ledger.Tallies (match s.page.exchange? key with
      | some e => L.settle (.exchange e.number) status s.recorder.isRecording
      | none => L) serial ((endExchange key type f).run s).2 := by
  rw [hb.exchange?]
  have hsame := hm.changeExchange key (f := fun e => { f e with phase := .done }) (fun e => (hf e).1)
    fun e => congrArg (heard serial) (hf e).2.1
  cases hlookup : N.exchanges.lookup key with
  | none => exact ⟨_, _, (hb.endExchange_of_none type f hlookup).2, hm⟩
  | some e =>
    have hmem := mem_of_lookup hlookup
    obtain ⟨hother, hown⟩ := hb.endExchange ht hlookup (hf e).1 (hf e).2.1 (hN.hearers _ hmem)
    dsimp only
    by_cases hsent : e.number ∈ L.sent
    · obtain ⟨⟨name, info⟩, hx, rfl⟩ := hp e (by rw [hb.exchange?, hlookup]) hsent
      obtain ⟨info', hheard, hall⟩ := hm.heard _ hmem hsent
      obtain rfl := hall info hx
      exact ⟨_, _, (hf e).2.2 ▸ (hown info.1 info.2 hheard).2, hsame.settleExchange hx status _⟩
    · rw [settle_of_absent fun info hx => hsent (hm.exchanges _ _ hx)]
      exact ⟨_, _, (hother (hm.unsent _ hmem hsent)).2, hsame⟩

/-- **Every action is written down as the session counts it.** -/
theorem Tallies.step (h : L.Tallies serial s) (ho : s.Orderly) {a : Action} (hp : L.Proper s a) :
    (L.next s a).Tallies serial (s.step a).scene := by
  obtain ⟨A, N, hb, hm⟩ := h
  have hN : N.Numbered s.recorder.nextSerial := hb.network ▸ ho.network
  have hb' : ({ s with log := [] } : Scene).Books serial A N := hb.withLog []
  have ho' : ({ s with log := [] } : Scene).Orderly := ⟨ho.linked, ho.notices, ho.serial, ho.layers, ho.network⟩
  have quiet : ∀ b : Action, b.isInner = true → b.isRequest = false →
      ((perform b).run { s with log := [] }).2.Books serial A N := fun b hin hrequest =>
    Path.books ((perform_stays false b hin fun h => hrequest ▸ h).leads ho' trivial) hb'
  suffices hperform : (L.next s a).Tallies serial ((perform a).run { s with log := [] }).2 by
    obtain ⟨A', N', hb', hm'⟩ := hperform
    exact ⟨A', N', hb'.withLog [], hm'⟩
  cases a with
  | start | stop | clear | requestBegun => exact hp.elim
  | requestEnded url method status => exact hp.elim
  | requestReported key reported => exact hp.elim
  | endReported key status => exact hp.elim
  | fetch resource init status offline =>
    unfold perform
    rw [snd_run_map]
    refine ⟨_, _, hb'.fetch resource init status offline, ?_⟩
    cases hr : s.recorder.isRecording with
    | false => simpa [Ledger.next, hr] using hm
    | true =>
      simp only [Ledger.next, hr, if_true]
      exact { hm with answered := congrArg (· ++ _) hm.answered }
  | startCall key resource init =>
    unfold perform
    rw [snd_run_unanswered]
    exact ⟨_, _, hb'.startCall key resource init, hm.startCall key _ _⟩
  | settleCall key status =>
    unfold perform
    rw [snd_run_map]
    exact ⟨_, _, hb'.settleCall key status, hm.endCall key status _⟩
  | makeExchange key =>
    exact ⟨_, _, hb'.changePage (f := (·.newExchange key)) (g := (·.newExchange key)) rfl rfl, hm.newExchange key⟩
  | openExchange key method url =>
    unfold perform
    rw [snd_run_unanswered]
    refine ⟨_, _, hb'.openExchange key method url, ?_⟩
    simp only [Ledger.next, hb.exchange?]
    cases hlookup : N.exchanges.lookup key with
    | none => exact hm.changeExchange key (fun _ => rfl) fun _ => rfl
    | some e => exact (hm.openExchange _ _ _).changeExchange key (fun _ => rfl) fun _ => rfl
  | sendExchange key arguments =>
    unfold perform
    rw [snd_run_unanswered]
    exact Tallies.send hb' hm hN hp
  | respond key status text =>
    unfold perform
    rw [snd_run_unanswered]
    exact Tallies.finish hb' hm hN (by decide) (fun _ => ⟨rfl, rfl, rfl⟩) hp
  | fail key =>
    unfold perform
    rw [snd_run_unanswered]
    exact Tallies.finish hb' hm hN (by decide) (fun _ => ⟨rfl, rfl, rfl⟩) hp
  | hearExchange key type behaviour =>
    exact ⟨_, _, hb'.changeExchange key _, hm.changeExchange key (fun _ => rfl) fun e => by
      simp [heard, List.filterMap_append]⟩
  | _ => exact ⟨A, N, quiet _ (by rfl) (by rfl), hm⟩

/-- **The ledger of a run tells what the session has counted.** -/
theorem Tallies.run (h : L.Tallies serial s) (hs : Reachable s) {actions : List Action} (hp : L.ProperRun s actions) :
    (L.run s actions).Tallies serial (after s actions) := by
  induction actions generalizing L s with
  | nil => exact h
  | cons a rest ih => exact ih (h.step hs.attached.toOrderly hp.1) (hs.step a) hp.2

/-- **The ledger of a session that begins is empty.** -/
lemma Matches.begin (hN : N.Numbered serial) : Matches {} serial {} N where
  inFlight := rfl
  answered := rfl
  opened _ _ := rfl
  distinct := List.Pairwise.nil
  calls key info := by
    refine iff_of_false List.not_mem_nil ?_
    rintro ⟨call, hcall, hby, -⟩
    exact lt_irrefl _ (hN.calls _ (mem_of_lookup hcall) serial hby)
  exchanges := nofun
  known := nofun
  unsent x hx _ := List.filterMap_eq_nil_iff.2 fun g hg => by
    have hknown := hN.hearers x hx g hg
    obtain ⟨kind, hearer⟩ := g
    cases hearer with
    | page behaviour => rfl
    | recorder n url method => exact if_neg (hknown n url method rfl).2.ne
  heard := nofun

end Step

end Ledger

/-- A call that does not end, a request object that is sent and answered, and a call that is made in a pause. -/
def savingRun : List Action := [
  .startCall "list" (.address "/api/items") (.map []),
  .makeExchange "save",
  .openExchange "save" "post" (.text "/api/save"),
  .sendExchange "save" [],
  .pause,
  .startCall "unseen" (.address "/api/unseen") (.map []),
  .resume,
  .respond "save" 201 ""]

/-- A request object is opened before the session begins in which it is sent. -/
def earlyRun : List Action := [
  .makeExchange "early",
  .openExchange "early" "GET" (.text "/api/early"),
  .start,
  .sendExchange "early" []]

/-- A request object is sent and answered twice, with a call under way that does not end. -/
def reusedRun : List Action := [
  .start,
  .makeExchange "reused",
  .openExchange "reused" "GET" (.text "/api/first"),
  .sendExchange "reused" [],
  .respond "reused" 200 "",
  .openExchange "reused" "GET" (.text "/api/second"),
  .sendExchange "reused" [],
  .startCall "list" (.address "/api/items") (.map []),
  .respond "reused" 404 ""]

end PageTape.Scene
