import PageTape.Proofs.Datum

/-!
# Reading back what is written

* `ReadsBack check write` — `check` gives back every value that `write` has written, and nothing that is written is
  null, so that an entry which is not there stands for a part which is not there and for nothing else;
* `ReadsBack.required`, `ReadsBack.withDefault`, `ReadsBack.maybe` — a field of a model reads back what stands under
  its key.

Every model reads back its own written form: its fields do, whichever of the optional ones are there.
-/

namespace PageTape

/-- A check gives back what a writer has written, which is never null. -/
structure ReadsBack {α : Type} (check : Check α) (write : α → Datum) : Prop where
  good : ∀ a, check (write a) = .good a
  notNull : ∀ a, write a ≠ .null

namespace ReadsBack

variable {α : Type} {check : Check α} {write : α → Datum} {es : List (String × Datum)} {key name : String}

lemma required (h : ReadsBack check write) {a : α} (hkey : es.lookup key = some (write a)) :
    Check.required es key name check = .good a := by
  simp only [Check.required, Check.field, hkey, h.good, Checked.within]

lemma withDefault (h : ReadsBack check write) {a d : α} (hkey : es.lookup key = some (write a)) :
    Check.withDefault es key name check d = .good a := by
  simp only [Check.withDefault, Check.field, hkey, h.good, Checked.within]

/-- A value that is there is not null, so that it is checked as it is. -/
lemma optional (h : ReadsBack check write) (a : α) : Check.optional check (write a) = .good (some a) := by
  have hnull := h.notNull a
  have hgood := h.good a
  unfold Check.optional
  split
  · exact absurd ‹_› hnull
  · rw [hgood, Checked.map]

/-- A part that is not there stands under neither of its keys. -/
lemma maybe (h : ReadsBack check write) {a : Option α} (hkey : es.lookup key = a.map write)
    (hname : es.lookup name = if name == key then a.map write else none) : Check.maybe es key name check = .good a := by
  cases a with
  | none =>
    rw [Option.map_none] at hkey
    rw [Option.map_none, ite_self] at hname
    simp only [Check.maybe, Check.field, hkey, hname]
  | some a =>
    rw [Option.map_some] at hkey
    simp only [Check.maybe, Check.field, hkey, h.optional a, Checked.within]

/-! ### Values -/

lemma prose : ReadsBack Check.prose .text := by
  constructor
  · intro s
    rfl
  · intro s hs
    cases hs

lemma int : ReadsBack Check.int .int := by
  constructor
  · intro n
    rfl
  · intro n hn
    cases hn

lemma bool : ReadsBack Check.bool .bool := by
  constructor
  · intro b
    rfl
  · intro b hb
    cases hb

/-- A value of an enumeration is found by its word, which no value before it has. -/
lemma word {values : List α} {wordOf : α → String}
    (hfound : ∀ a, values.find? (fun b => wordOf b == wordOf a) = some a) :
    ReadsBack (Check.word values wordOf) (fun a => .text (wordOf a)) := by
  constructor
  · intro a
    simp only [Check.word, hfound a]
  · intro a ha
    cases ha

lemma items (h : ReadsBack check write) (as : List α) (position : Nat) :
    Check.items check position (as.map write) = .good as := by
  induction as generalizing position with
  | nil => rfl
  | cons a rest ih =>
    rw [List.map_cons, Check.items, h.good, ih, Checked.within]
    rfl

lemma list (h : ReadsBack check write) : ReadsBack (Check.list check) (fun as => .list (as.map write)) := by
  constructor
  · intro as
    exact h.items as 0
  · intro as has
    cases has

/-- A model reads back its map where its entries are read back. -/
lemma model {read : List (String × Datum) → Checked α} {entries : α → List (String × Datum)}
    (h : ∀ a, read (entries a) = .good a) : ReadsBack (Check.model read) (fun a => .map (entries a)) := by
  constructor
  · intro a
    exact h a
  · intro a ha
    cases ha

/-- The items of a list one by one, as the maker of scripts reads them. -/
lemma checkEach (h : ReadsBack check write) (as : List α) : checkEach check (as.map write) = .good as := by
  induction as with
  | nil => rfl
  | cons a rest ih => rw [List.map_cons, PageTape.checkEach, h.good, Checked.andThen, ih, Checked.map]

end ReadsBack

/-! ### The models -/

section Models

open ReadsBack (prose int bool)

lemma SelectorStrategy.readsBack : ReadsBack (Check.word all word) (fun a => .text a.word) := by
  apply ReadsBack.word
  intro a
  cases a <;> decide

lemma AssertionKind.readsBack : ReadsBack (Check.word all word) (fun a => .text a.word) := by
  apply ReadsBack.word
  intro a
  cases a <;> decide

lemma StepKind.readsBack : ReadsBack (Check.word all word) (fun a => .text a.word) := by
  apply ReadsBack.word
  intro a
  cases a <;> decide

lemma Status.readsBack : ReadsBack (Check.word all word) (fun a => .text a.word) := by
  apply ReadsBack.word
  intro a
  cases a <;> decide

lemma ActionKind.readsBack : ReadsBack (Check.word all word) (fun a => .text a.word) := by
  apply ReadsBack.word
  intro a
  cases a <;> decide

theorem SmartSelector.readsBack : ReadsBack check toDatum := by
  refine ReadsBack.model fun s => ?_
  rw [SelectorStrategy.readsBack.required (a := s.strategy) (by simp), prose.required (a := s.value) (by simp),
    prose.maybe (a := s.description) (by simp) (by simp)]
  rfl

theorem ScrollPosition.readsBack : ReadsBack check toDatum := by
  refine ReadsBack.model fun p => ?_
  rw [int.withDefault (a := p.x) (by simp), int.withDefault (a := p.y) (by simp)]
  rfl

theorem Assertion.readsBack : ReadsBack check toDatum := by
  refine ReadsBack.model fun a => ?_
  rw [AssertionKind.readsBack.required (a := a.kind) (by simp), prose.maybe (a := a.selector) (by simp) (by simp),
    prose.maybe (a := a.expected) (by simp) (by simp), prose.maybe (a := a.description) (by simp) (by simp)]
  rfl

theorem SmartSelector.list_readsBack : ReadsBack checkAll listDatum :=
  SmartSelector.readsBack.list

theorem Step.readsBack : ReadsBack check toDatum := by
  refine ReadsBack.model fun s => ?_
  rw [StepKind.readsBack.required (a := s.kind) (by simp), int.required (a := s.timestamp) (by simp),
    prose.maybe (a := s.selector) (by simp) (by simp),
    SmartSelector.list_readsBack.maybe (a := s.smartSelectors) (by simp) (by simp),
    prose.maybe (a := s.value) (by simp) (by simp), prose.maybe (a := s.label) (by simp) (by simp),
    prose.maybe (a := s.url) (by simp) (by simp), prose.maybe (a := s.key) (by simp) (by simp),
    int.maybe (a := s.waitTimeout) (by simp) (by simp),
    ScrollPosition.readsBack.maybe (a := s.scrollPosition) (by simp) (by simp),
    Assertion.readsBack.maybe (a := s.assertion) (by simp) (by simp),
    prose.maybe (a := s.fieldType) (by simp) (by simp), bool.maybe (a := s.required) (by simp) (by simp)]
  rfl

theorem Session.readsBack : ReadsBack check toDatum := by
  refine ReadsBack.model fun s => ?_
  rw [Status.readsBack.withDefault (a := s.status) (by simp), prose.withDefault (a := s.startUrl) (by simp),
    int.withDefault (a := s.startTime) (by simp), Step.readsBack.list.withDefault (a := s.steps) (by simp)]
  rfl

theorem Response.readsBack : ReadsBack check toDatum := by
  refine ReadsBack.model fun r => ?_
  rw [prose.required (a := r.url) (by simp), prose.required (a := r.method) (by simp),
    int.required (a := r.status) (by simp), int.required (a := r.timestamp) (by simp)]
  rfl

theorem Action.readsBack : ReadsBack check toDatum := by
  refine ReadsBack.model fun a => ?_
  rw [prose.required (a := a.selector) (by simp), prose.withDefault (a := a.value) (by simp),
    ActionKind.readsBack.required (a := a.kind) (by simp), prose.maybe (a := a.label) (by simp) (by simp),
    prose.maybe (a := a.fieldType) (by simp) (by simp), bool.maybe (a := a.required) (by simp) (by simp),
    SmartSelector.list_readsBack.maybe (a := a.smartSelectors) (by simp) (by simp)]
  rfl

theorem Options.readsBack : ReadsBack check toDatum := by
  refine ReadsBack.model fun o => ?_
  rw [prose.maybe (a := o.pageUrl) (by simp) (by simp), prose.withDefault (a := o.testName) (by simp),
    prose.maybe (a := o.testDescription) (by simp) (by simp),
    bool.withDefault (a := o.useSmartSelectors) (by simp), bool.withDefault (a := o.includeAssertions) (by simp),
    Assertion.readsBack.list.withDefault (a := o.assertions) (by simp),
    bool.withDefault (a := o.includeNegativeTest) (by simp), bool.withDefault (a := o.includePageObject) (by simp),
    int.withDefault (a := o.minWaitThreshold) (by simp), bool.withDefault (a := o.includeScrollSteps) (by simp),
    bool.withDefault (a := o.includeHoverSteps) (by simp)]
  rfl

end Models

end PageTape
