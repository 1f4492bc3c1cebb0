import Mathlib.Data.List.TakeWhile
import PageTape.Proofs.Recorder.Mirror

/-!
# What a callback that fails costs

A callback that fails ends what the recorder does on an event, and the page goes on as if nothing had happened.  Lost
are the steps that would have been told after the failure, no more and no less (`hear_loses`).  So a run has the steps
that it has with nobody to tell, at every moment, if and only if callbacks fail at the last call of an event only
(`nothing_lost_iff`).
-/

namespace PageTape.Recorder

variable {r s : Recorder} {calls : List Call} {x y : Option Session} {signals : List Signal}

/-! ### With and without callbacks -/

/-- The recorder with nobody to tell, and nothing told. -/
def muted (r : Recorder) : Recorder := r.attended (fun _ => .off) []

/-- What is told on a signal where notice is taken of everything. -/
def told (r : Recorder) (x : Signal) : List Notice := ((r.attended (fun _ => .note) []).obey x).notices

/-- **The steps that a signal loses**: those that would have been told after the first call that fails. -/
def lost (r : Recorder) (x : Signal) : List Step :=
  (((r.told x).dropWhile fun n => r.ears n.callback != .fail).tail).map (·.step)

/-- No callback that is called on a signal fails. -/
def Signal.Unfailing (x : Signal) (r : Recorder) : Prop := ∀ n ∈ r.told x, r.ears n.callback ≠ .fail

/-- The signal is an event of the page. -/
def Signal.isEvent : Signal → Bool
  | hear _ _ => true
  | _ => false

lemma shown_muted (r : Recorder) : r.muted.shown = r.shown := rfl

lemma lost_of_unfailing {x : Signal} (h : x.Unfailing r) : r.lost x = [] := by
  unfold lost
  rw [List.dropWhile_eq_nil_iff.2 fun n hn => by simpa using h n hn]
  rfl

namespace Makes

variable {x : Signal} {result : Except Fault Unit}

/-- Nobody is told, or everybody takes note: either way all is done. -/
lemma obey_quiet (h : Makes x.act r calls result s) {reaction : Reaction} (hreaction : reaction ≠ .fail) :
    (r.attended (fun _ => reaction) []).obey x =
      s.attended (fun _ => reaction) (Call.noticed (fun _ => reaction) calls) := by
  rw [obey, h.run, List.find?_eq_none.2 fun c _ => by simpa [Call.fails] using hreaction]
  rfl

lemma muted_obey (h : Makes x.act r calls result s) : r.muted.obey x = s.muted := by
  rw [muted, h.obey_quiet (by decide)]
  simp [muted, Call.noticed]

lemma told (h : Makes x.act r calls result s) : r.told x = calls.map (·.notice) := by
  rw [Recorder.told, h.obey_quiet (by decide), ← Call.noticed_of_note]
  rfl

/-- A signal either does all that it does, or it ends with the first call that fails. -/
lemma obey_cases (h : Makes x.act r calls result s) : (r.lost x = [] ∧ (r.obey x).muted = s.muted) ∨
    ∃ before c rest, calls = before ++ c :: rest ∧ c.fails r.ears = true ∧ (r.obey x).muted = c.recorder.muted ∧
      r.lost x = rest.map (·.notice.step) := by
  have hrun := h.run r.ears r.notices
  rw [attended_ears] at hrun
  cases hfind : calls.find? (Call.fails r.ears) with
  | none =>
    rw [hfind] at hrun
    refine .inl ⟨lost_of_unfailing fun n hn => ?_, by rw [obey, hrun]; rfl⟩
    rw [h.told] at hn
    obtain ⟨c, hc, rfl⟩ := List.mem_map.1 hn
    simpa [Call.fails] using List.find?_eq_none.1 hfind c hc
  | some c =>
    rw [hfind] at hrun
    obtain ⟨hfails, before, rest, rfl, hbefore⟩ := List.find?_eq_some_iff_append.1 hfind
    refine .inr ⟨before, c, rest, rfl, hfails, by rw [obey, hrun]; rfl, ?_⟩
    unfold lost
    rw [h.told, List.map_append, List.map_cons, List.dropWhile_append_of_pos, List.dropWhile_cons_of_neg]
    · simp
    · simpa [Call.fails] using hfails
    · intro n hn
      obtain ⟨b, hb, rfl⟩ := List.mem_map.1 hn
      simpa [Call.fails] using hbefore b hb

/-- Where no callback fails, all is done as it is with nobody to tell. -/
lemma muted_obey_of_unfailing (h : Makes x.act r calls result s) (hunfailing : x.Unfailing r) :
    r.muted.obey x = (r.obey x).muted := by
  rw [h.muted_obey]
  rcases h.obey_cases with ⟨-, hall⟩ | ⟨before, c, rest, hcalls, hfails, -⟩
  · exact hall.symm
  · have hc : c.notice ∈ r.told x := by
      rw [h.told, hcalls]
      simp
    exact absurd (by simpa [Call.fails] using hfails) (hunfailing _ hc)

end Makes

/-! ### Events -/

/-- What is told after a call. -/
lemma Recounts.after {before rest : List Call} {c : Call} (h : Recounts x (before ++ c :: rest) y) :
    ∃ session, c.recorder.current = some session ∧ Recounts (some session) rest y := by
  induction before generalizing x with
  | nil =>
    cases h with
    | cons _ hc h => exact ⟨_, hc, hc ▸ h⟩
  | cons _ _ ih =>
    cases h with
    | cons _ _ h => exact ih h

/-- Where all that is told is of steps that are added, these are added. -/
lemma reflectAll_added {notices : List Notice} (h : ∀ n ∈ notices, n.callback = .added) (steps : List Step) :
    reflectAll steps notices = steps ++ notices.map (·.step) := by
  induction notices generalizing steps with
  | nil => simp [reflectAll]
  | cons n rest ih =>
    obtain ⟨hn, hrest⟩ := List.forall_mem_cons.1 h
    rw [show reflectAll steps (n :: rest) = reflectAll (reflect steps n) rest from rfl, ih hrest]
    simp [reflect, hn]

/-- **What an event loses to a callback that fails**: with nobody to tell, there are just the steps more that would have
been told after the failure.  Where there are none, all is as it is with nobody to tell. -/
theorem hear_loses (hl : r.Linked) (p : Page) (event : Page.Event) :
    (r.muted.obey (.hear p event)).shown = (r.obey (.hear p event)).shown ++ r.lost (.hear p event) ∧
      (r.lost (.hear p event) = [] → r.muted.obey (.hear p event) = (r.obey (.hear p event)).muted) := by
  obtain ⟨calls, result, s, hmakes, hrecounts, hlast, hadded⟩ := hear_amends hl p event
  replace hmakes : Makes (Signal.hear p event).act r calls result s := hmakes
  rw [hmakes.muted_obey, shown_muted]
  rcases hmakes.obey_cases with ⟨hlost, hall⟩ | ⟨before, c, rest, rfl, -, hall, hlost⟩
  · rw [hlost, List.append_nil, ← shown_muted (r.obey _), hall]
    exact ⟨rfl, fun _ => rfl⟩
  rw [← shown_muted (r.obey _), hall, hlost, shown_muted]
  constructor
  · obtain ⟨session, hc, hrest⟩ := hrecounts.after
    obtain ⟨⟨after, hafter, hsteps⟩, -⟩ := hrest.honest
    rw [shown_of_current hafter, shown_of_current hc, hsteps, reflectAll_added, List.map_map]
    · rfl
    · -- the calls after the first that fails come after the first call
      intro n hn
      obtain ⟨d, hd, rfl⟩ := List.mem_map.1 hn
      refine hadded d ?_
      cases before with
      | nil => exact hd
      | cons b before => exact List.mem_append_right _ (List.mem_cons_of_mem c hd)
  · intro hnone
    obtain rfl : rest = [] := by simpa using hnone
    rw [← hlast (by simp)]
    simp [Call.last]

/-! ### Runs -/

/-- A run of a session in which callbacks fail on events of the page only. -/
def FailsOnEvents (r : Recorder) : List Signal → Prop
  | [] => True
  | x :: rest => x.isMirrored = true ∧ (x.isEvent = true ∨ x.Unfailing r) ∧ (r.obey x).FailsOnEvents rest

/-- The steps that a run loses. -/
def losses (r : Recorder) : List Signal → List Step
  | [] => []
  | x :: rest => r.lost x ++ (r.obey x).losses rest

lemma losses_append (r : Recorder) (signals signals' : List Signal) :
    r.losses (signals ++ signals') = r.losses signals ++ (r.obeyAll signals).losses signals' := by
  induction signals generalizing r with
  | nil => rfl
  | cons x rest ih => rw [List.cons_append, losses, ih, losses, List.append_assoc]; rfl

lemma FailsOnEvents.append {signals' : List Signal} (h : r.FailsOnEvents (signals ++ signals')) :
    r.FailsOnEvents signals ∧ (r.obeyAll signals).FailsOnEvents signals' := by
  induction signals generalizing r with
  | nil => exact ⟨trivial, h⟩
  | cons x rest ih =>
    obtain ⟨hx, hevent, hrest⟩ := h
    exact ⟨⟨hx, hevent, (ih hrest).1⟩, (ih hrest).2⟩

/-- What a signal of such a run loses. -/
lemma Linked.loses (hl : r.Linked) {x : Signal} (hx : x.isMirrored = true) (hevent : x.isEvent = true ∨ x.Unfailing r) :
    (r.muted.obey x).shown = (r.obey x).shown ++ r.lost x ∧ (r.lost x = [] → r.muted.obey x = (r.obey x).muted) := by
  rcases hevent with hevent | hunfailing
  · cases x with
    | hear p event => exact hear_loses hl p event
    | _ => cases hevent
  · obtain ⟨calls, result, s, -, hmakes, -⟩ := Signal.echoes hl hx
    have hmuted := hmakes.muted_obey_of_unfailing hunfailing
    rw [hmuted, lost_of_unfailing hunfailing, List.append_nil]
    exact ⟨rfl, fun _ => rfl⟩

/-- A run that loses nothing is the run with nobody to tell. -/
lemma Linked.muted_obeyAll (hl : r.Linked) (h : r.FailsOnEvents signals) (hnone : r.losses signals = []) :
    r.muted.obeyAll signals = (r.obeyAll signals).muted := by
  induction signals generalizing r with
  | nil => rfl
  | cons x rest ih =>
    obtain ⟨hx, hevent, hrest⟩ := h
    obtain ⟨hlost, hlosses⟩ := List.append_eq_nil_iff.1 hnone
    show (r.muted.obey x).obeyAll rest = ((r.obey x).obeyAll rest).muted
    rw [(hl.loses hx hevent).2 hlost]
    exact ih (hl.obey_any x) hrest hlosses

/-- **Callbacks take no part in what is recorded, unless one fails before the last call of an event.**  A run has at
every moment the steps that it has with nobody to tell if and only if it loses nothing.  The first signal that loses
something loses the steps that would have been told after the failure. -/
theorem nothing_lost_iff (hr : r.Reachable) (signals : List Signal) (h : r.FailsOnEvents signals) :
    (r.losses signals = [] ↔
      ∀ before after, signals = before ++ after → (r.obeyAll before).shown = (r.muted.obeyAll before).shown) ∧
    ∀ before x after, signals = before ++ x :: after → r.losses before = [] →
      (r.muted.obeyAll (before ++ [x])).shown = (r.obeyAll (before ++ [x])).shown ++ (r.obeyAll before).lost x := by
  have hfirst : ∀ before x after, signals = before ++ x :: after → r.losses before = [] →
      (r.muted.obeyAll (before ++ [x])).shown = (r.obeyAll (before ++ [x])).shown ++ (r.obeyAll before).lost x := by
    rintro before x after rfl hnone
    obtain ⟨hbefore, hx, hevent, -⟩ := h.append
    rw [obeyAll_append, obeyAll_append, hr.linked.muted_obeyAll hbefore hnone]
    exact ((hr.obeyAll before).linked.loses hx hevent).1
  refine ⟨⟨fun hnone before after hsignals => ?_, fun hsame => ?_⟩, hfirst⟩
  · subst hsignals
    rw [losses_append] at hnone
    rw [hr.linked.muted_obeyAll h.append.1 (List.append_eq_nil_iff.1 hnone).1, shown_muted]
  · -- induction on the part of the run that is known to lose nothing
    have hnone : ∀ after before, signals = before ++ after → r.losses before = [] → r.losses signals = [] := by
      intro after
      induction after with
      | nil =>
        rintro before rfl hbefore
        rwa [List.append_nil]
      | cons x after ih =>
        intro before hsignals hbefore
        have hsplit : signals = (before ++ [x]) ++ after := by simpa using hsignals
        have hlost := hfirst before x after hsignals hbefore
        rw [← hsame _ _ hsplit, List.self_eq_append_right] at hlost
        refine ih _ hsplit ?_
        rw [losses_append, hbefore]
        simp [losses, hlost]
    exact hnone signals [] rfl rfl

/-- A field gets a text, and then the enter key is pressed. -/
def typedAndSent : List Signal :=
  [fieldTyped, .hear fieldPage { type := "keydown", target := .element 1, key := some "Enter" }]

/-- A session whose callback for steps that are added fails. -/
def failingSession : Recorder := fieldSession.obey (.callbacks .fail .note)

/-- The step that fills the field is told, the callback fails, and the key that was pressed is lost. -/
theorem pressed_key_lost : failingSession.Reachable ∧ failingSession.FailsOnEvents typedAndSent ∧
    (failingSession.losses typedAndSent).map (·.kind) = [.pressKey] ∧
    (failingSession.obeyAll typedAndSent).shown.map (·.kind) = [.navigate, .fill] ∧
    (failingSession.muted.obeyAll typedAndSent).shown.map (·.kind) = [.navigate, .fill, .pressKey] ∧
    ¬ ∀ before after, typedAndSent = before ++ after →
      (failingSession.obeyAll before).shown = (failingSession.muted.obeyAll before).shown := by
  have hreachable : failingSession.Reachable := .obey (.obey (.fresh ⟨rfl, rfl, rfl, rfl⟩) _) _
  have hrun : failingSession.FailsOnEvents typedAndSent := ⟨rfl, .inl rfl, rfl, .inl rfl, trivial⟩
  have hlosses : (failingSession.losses typedAndSent).map (·.kind) = [.pressKey] := by decide +kernel
  refine ⟨hreachable, hrun, hlosses, by decide +kernel, by decide +kernel, fun hsame => ?_⟩
  have hnone := (nothing_lost_iff hreachable typedAndSent hrun).1.2 hsame
  rw [hnone] at hlosses
  cases hlosses

end PageTape.Recorder
