import PageTape.Proofs.Recorder.Signal

/-!
# Sessions by their numbers

A recorder numbers its sessions.  It knows the active one and, until the next one begins, the last one that it has
stopped (`recordOf?`).

* `Reachable.latest` — the active session is the one that was numbered last;
* `Over.obeyAll` — once a session is over, no signal changes what was recorded of it; the recorder can only forget it.
-/

namespace PageTape.Recorder

variable {may : Leave} {r r' : Recorder} {a : Active} {n : Nat}

/-- What is recorded of the session of a number, the responses among it. -/
def recordOf? (r : Recorder) (n : Nat) : Option (Session × List Response) :=
  match r.active with
  | some a => if a.serial = n then some (a.session, a.traffic.responses) else none
  | none => if r.nextSerial = n + 1 then r.stopped.map (·, r.stoppedResponses) else none

/-- The steps of the session of a number; none if it is not known. -/
def stepsOf (r : Recorder) (n : Nat) : List Step := ((r.recordOf? n).map (·.1.steps)).getD []

lemma recordOf?_active (h : r.active = some a) : r.recordOf? a.serial = some (a.session, a.traffic.responses) := by
  simp [recordOf?, h]

lemma stepsOf_active (h : r.active = some a) : r.stepsOf a.serial = a.session.steps := by
  simp [stepsOf, recordOf?_active h]

lemma recordOf?_of_ne (h : r.active = some a) (hn : a.serial ≠ n) : r.recordOf? n = none := by
  simp [recordOf?, h, hn]

/-- The active session is the one that was numbered last. -/
def Latest (r : Recorder) : Prop := ∀ a, r.active = some a → a.serial + 1 = r.nextSerial

namespace Latest

lemma of_sameSession (hl : r.Latest) (h : SameSession r r') : r'.Latest := by
  intro a ha
  obtain ⟨b, hb, hserial⟩ := h.before ha
  have hlast := hl b hb
  rw [h.nextSerial]
  omega

lemma begun (r : Recorder) (p : Page) : (r.begun p).Latest := by
  intro a ha
  obtain rfl := Option.some.inj ha
  rfl

/-- **The active session stays the one that was numbered last.** -/
theorem obey (hl : r.Linked) (h : r.Latest) (s : Signal) : (r.obey s).Latest := by
  have houtcome := hl.outcome (s := s) Signal.within_anything
  generalize r.obey s = r' at houtcome ⊢
  cases houtcome with
  | kept ht =>
    obtain ⟨b, hb, -⟩ := Signal.text?_eq_some ht
    rw [keepText_eq hb]
    intro a ha
    obtain rfl := Option.some.inj ha
    exact h b hb
  | moved _ hp => exact h.of_sameSession hp.sameSession
  | ended _ hp _ =>
    intro a ha
    rw [conclude_active] at ha
    cases ha
  | begun p _ hp _ => exact .begun _ p
  | forgotten _ =>
    intro a ha
    rw [show _ = none from drop_active r] at ha
    cases ha

end Latest

lemma Reachable.latest (h : Reachable r) : r.Latest := by
  induction h with
  | fresh h => exact fun a ha => by simp [h.active] at ha
  | obey h s ih => exact ih.obey h.linked s

/-- The session that begins is the only one that is known. -/
lemma recordOf?_begun (r : Recorder) (p : Page) (record : Session × List Response) :
    (r.begun p).recordOf? n = some record ↔ n = r.nextSerial ∧ record = (freshSession p r.now, []) := by
  simp [recordOf?, begun, eq_comm]

lemma stepsOf_begun (r : Recorder) (p : Page) : (r.begun p).stepsOf r.nextSerial = (freshSession p r.now).steps := by
  simp [stepsOf, recordOf?, begun]

/-- What was recorded of a session stays when it is stopped. -/
lemma recordOf?_conclude (hl : r.Latest) (h : r.active = some a) : r.conclude.recordOf? n =
    (r.recordOf? n).map fun record => ({ record.1 with status := .stopped }, record.2) := by
  have hlast := hl a h
  have hiff : r.nextSerial = n + 1 ↔ a.serial = n := by omega
  rw [recordOf?, conclude_active, conclude_nextSerial]
  by_cases hn : a.serial = n <;> simp [hiff, hn, recordOf?, h, conclude]

/-- Where no session is active, the recorder still knows the same of all. -/
lemma SameSession.recordOf?_of_none (h : SameSession r r') (ha : r'.active = none) (n : Nat) :
    r'.recordOf? n = r.recordOf? n := by
  have hnone : r.active = none := by
    have hserial := h.serial
    rw [ha] at hserial
    simpa using hserial.symm
  simp [recordOf?, ha, hnone, h.stopped, h.stoppedResponses, h.nextSerial]

/-- The recorder knows the same of all its sessions, if it knows the same of the active or stopped one. -/
lemma SameSession.recordOf?_eq (h : SameSession r r') (hs : r'.session? = r.session?)
    (hr : r'.responses = r.responses) (n : Nat) : r'.recordOf? n = r.recordOf? n := by
  cases ha : r'.active with
  | none => exact h.recordOf?_of_none ha n
  | some a =>
    obtain ⟨b, hb, hserial⟩ := h.before ha
    simp only [session?, responses, ha, hb, Option.some.injEq] at hs hr
    simp [recordOf?, ha, hb, hserial, hs, hr]

/-! ### Sessions that are over -/

/-- The session of a number is over. -/
def Over (r : Recorder) (n : Nat) : Prop := n < r.nextSerial ∧ ∀ a, r.active = some a → a.serial ≠ n

namespace Over

lemma of_sameSession (ho : r.Over n) (h : SameSession r r') : r'.Over n := by
  refine ⟨h.nextSerial.symm ▸ ho.1, fun a ha => ?_⟩
  obtain ⟨b, hb, hserial⟩ := h.before ha
  exact hserial ▸ ho.2 b hb

/-- Nothing is known of another session while one is active. -/
lemma recordOf?_eq (ho : r.Over n) (ha : r.active = some a) : r.recordOf? n = none := recordOf?_of_ne ha (ho.2 a ha)

lemma recordOf?_of_sameSession (ho : r.Over n) (h : SameSession r r') : r'.recordOf? n = r.recordOf? n := by
  cases ha : r'.active with
  | none => exact h.recordOf?_of_none ha n
  | some a =>
    obtain ⟨b, hb, -⟩ := h.before ha
    rw [ho.recordOf?_eq hb, (ho.of_sameSession h).recordOf?_eq ha]

/-- **Nothing more is recorded of a session that is over**; it can only be forgotten. -/
theorem obey (hl : r.Linked) (hlast : r.Latest) (ho : r.Over n) (s : Signal) :
    (r.obey s).Over n ∧ ((r.obey s).recordOf? n = r.recordOf? n ∨ (r.obey s).recordOf? n = none) := by
  have houtcome := hl.outcome (s := s) Signal.within_anything
  generalize r.obey s = r' at houtcome ⊢
  cases houtcome with
  | kept ht =>
    obtain ⟨a, ha, -⟩ := Signal.text?_eq_some ht
    rw [keepText_eq ha]
    refine ⟨⟨ho.1, fun b hb => ?_⟩, .inr (recordOf?_of_ne rfl (ho.2 a ha))⟩
    obtain rfl := Option.some.inj hb
    exact ho.2 a ha
  | moved _ hp =>
    exact ⟨ho.of_sameSession hp.sameSession, .inl (ho.recordOf?_of_sameSession hp.sameSession)⟩
  | @ended t _ hp _ =>
    have hover := ho.of_sameSession hp.sameSession
    refine ⟨⟨by rw [conclude_nextSerial]; exact hover.1, fun a ha => by rw [conclude_active] at ha; cases ha⟩, ?_⟩
    cases ht : t.active with
    | none =>
      rw [show t.conclude = t by simp [conclude, ht]]
      exact .inl (ho.recordOf?_of_sameSession hp.sameSession)
    | some a =>
      rw [recordOf?_conclude (hlast.of_sameSession hp.sameSession) ht, hover.recordOf?_eq ht]
      exact .inr rfl
  | @begun t p _ hp _ =>
    have hnext : t.conclude.nextSerial = r.nextSerial := (conclude_nextSerial t).trans hp.sameSession.nextSerial
    have hlt : n < t.conclude.nextSerial := hnext.symm ▸ ho.1
    refine ⟨⟨Nat.lt_succ_of_lt hlt, fun a ha => ?_⟩, .inr (recordOf?_of_ne rfl hlt.ne')⟩
    obtain rfl := Option.some.inj ha
    exact hlt.ne'
  | forgotten _ =>
    have hnone : ({ r.drop with stopped := none, stoppedResponses := [], lastUserActionAt := 0 } : Recorder).active =
        none := drop_active r
    refine ⟨⟨?_, fun a ha => by rw [hnone] at ha; cases ha⟩, .inr ?_⟩
    · exact (drop_nextSerial r).symm ▸ ho.1
    · simp [recordOf?]

/-- The same for any number of signals. -/
theorem obeyAll (hl : r.Linked) (hlast : r.Latest) (ho : r.Over n) (signals : List Signal) :
    (r.obeyAll signals).recordOf? n = r.recordOf? n ∨ (r.obeyAll signals).recordOf? n = none := by
  induction signals generalizing r with
  | nil => exact .inl rfl
  | cons s rest ih =>
    obtain ⟨hover, hs⟩ := ho.obey hl hlast s
    rcases ih (hl.obey_any s) (hlast.obey hl s) hover with hrest | hrest
    · exact hs.imp hrest.trans hrest.trans
    · exact .inr hrest

end Over

end PageTape.Recorder
