import PageTape.Proofs.Script.Said
import PageTape.Script.Frameworks

/-!
# The body of a script in its file

Each framework writes the lines of a body between others, and fills it up where no line of it does something
(`Dialect.Frames`).  So what is written of a step or an assertion is found among the lines of a script
(`Dialect.Frames.mem_assertion`).
-/

namespace PageTape.Script

open RecordingFile (Material)

/-- Lines with a body between others. -/
def IsFrame (frame : List Line → List Line) : Prop := ∃ before after, ∀ body, frame body = before ++ (body ++ after)

namespace IsFrame

variable {frame : List Line → List Line}

lemma self : IsFrame fun body => body := ⟨[], [], fun body => by simp⟩

lemma behind (h : IsFrame frame) (ls : List Line) : IsFrame fun body => ls ++ frame body := by
  obtain ⟨before, after, hframe⟩ := h
  exact ⟨ls ++ before, after, fun body => by simp only [hframe, List.append_assoc]⟩

lemma before (h : IsFrame frame) (ls : List Line) : IsFrame fun body => frame body ++ ls := by
  obtain ⟨before, after, hframe⟩ := h
  exact ⟨before, after ++ ls, fun body => by simp only [hframe, List.append_assoc]⟩

end IsFrame

/-- **A framework writes a body as it is** between other lines, filled up with some where it has no statement. -/
def Dialect.Frames (d : Dialect) (spare : List Line) : Prop :=
  ∀ o actions fromRecording, ∃ frame, IsFrame frame ∧ ∀ body, d.finish o body actions fromRecording =
    frame (body ++ if body.any Line.isStatement then [] else spare)

/-- A framework that fills up no body. -/
lemma frames_of {d : Dialect} (h : ∀ o actions fromRecording, IsFrame fun body => d.finish o body actions fromRecording) :
    d.Frames [] :=
  fun o actions fromRecording => ⟨_, h o actions fromRecording, fun body => by rw [ite_self, List.append_nil]⟩

lemma playwright_frames : playwright.Frames [] := by
  refine frames_of fun o actions fromRecording => ?_
  show IsFrame fun body => Playwright.file _
  unfold Playwright.file Playwright.test
  dsimp +instances only
  exact ((((IsFrame.self.behind _).before _).behind _).before _).before _

lemma cypress_frames : cypress.Frames [] := by
  refine frames_of fun o actions fromRecording => ?_
  show IsFrame fun body => Cypress.file _
  unfold Cypress.file Cypress.test
  dsimp +instances only
  exact ((((IsFrame.self.behind _).before _).behind _).before _).before _

lemma pest_frames : pest.Frames [] := by
  refine frames_of fun o actions fromRecording => ?_
  show IsFrame fun body => Pest.file _
  unfold Pest.file Pest.test
  dsimp +instances only
  exact (((IsFrame.self.behind _).before _).behind _).before _

/-- The line that fills up the body of a Python function. -/
def passLine : Line := { margin := "    ", pieces := [.code "pass"] }

lemma pytest_frames : pytest.Frames [passLine] := by
  intro o actions fromRecording
  obtain ⟨head, hhead⟩ : ∃ head, ∀ body, Pytest.test o.testName o.testDescription body =
      head ++ (body ++ if body.any Line.isStatement then [] else [passLine]) := ⟨_, fun body => List.append_assoc _ _ _⟩
  obtain ⟨imports, after, hfile⟩ : ∃ imports after, ∀ body, pytest.finish o body actions fromRecording =
      imports ++ Pytest.test o.testName o.testDescription body ++ after := by
    show ∃ imports after, ∀ body, Pytest.file _ = _
    unfold Pytest.file
    dsimp only
    exact ⟨_, _, fun body => rfl⟩
  have hframe : IsFrame fun body => imports ++ (head ++ body) ++ after := ((IsFrame.self.behind _).behind _).before _
  exact ⟨_, hframe, fun body => by rw [hfile, hhead]⟩

/-! ### What is found in a script -/

/-- The assertions that a script writes: those of its steps, and those that the options ask for. -/
def writtenAssertions (o : Options) (m : Material) : List Assertion :=
  (match m with
    | .steps steps => (shown o true steps).filterMap fun s => if s.kind == .assert then s.assertion else none
    | .actions _ => [])
  ++ askedAssertions o

section Found

variable {d : Dialect} {spare : List Line} {o : Options} {m : Material} {l : Line} {s : Step} {a : Assertion}

/-- The lines of a step that is written are among those of the steps. -/
lemma mem_stepsFrom (previous : Option Step) {filled : Bool} {steps : List Step}
    (hs : s ∈ shown o previous.isNone steps) (hl : l ∈ d.stepLines o s) : l ∈ d.stepsFrom o previous filled steps := by
  induction steps generalizing previous filled with
  | nil => cases hs
  | cons step rest ih =>
    rw [shown] at hs
    rw [Dialect.stepsFrom]
    split at hs
    · rename_i hsuppressed
      rw [if_pos hsuppressed]
      exact ih (some step) hs
    · rename_i hwritten
      rw [if_neg hwritten]
      rcases List.mem_cons.1 hs with rfl | hs
      · simp [hl]
      · exact List.mem_append_right _ (ih (some step) hs)

lemma mem_assertionBlock (ha : a ∈ askedAssertions o) (hl : l ∈ d.indented (d.assertion a)) : l ∈ d.assertionBlock o := by
  unfold askedAssertions at ha
  split at ha
  · rename_i hasked
    have hsome : o.assertions.isEmpty = false := by simpa using List.ne_nil_of_mem ha
    rw [Dialect.assertionBlock, hasked, hsome]
    exact List.mem_append_right _ (List.mem_flatMap.2 ⟨a, ha, hl⟩)
  · cases ha

/-- **The lines of an assertion that is written are found in the script.** -/
lemma Dialect.Frames.mem_assertion (h : d.Frames spare) (ha : a ∈ writtenAssertions o m)
    (hl : l ∈ d.indented (d.assertion a)) : l ∈ d.linesFor o m := by
  have hfinish : ∀ (body : List Line) (actions : List Action) (fromRecording : Bool), l ∈ body →
      l ∈ d.finish o body actions fromRecording := by
    intro body actions fromRecording hbody
    obtain ⟨frame, ⟨before, after, hframe⟩, hfile⟩ := h o actions fromRecording
    rw [hfile, hframe]
    simp [hbody]
  rcases List.mem_append.1 ha with ha | ha
  · cases m with
    | actions actions => cases ha
    | steps steps =>
      obtain ⟨s, hs, hassertion⟩ := List.mem_filterMap.1 ha
      split at hassertion
      · rename_i hkind
        have hline : l ∈ d.stepLines o s := by
          rw [Dialect.stepLines, beq_iff_eq.1 hkind]
          dsimp only
          rw [hassertion]
          exact hl
        exact hfinish _ _ true (List.mem_append_left _ (List.mem_append_right _ (mem_stepsFrom none hs hline)))
      · cases hassertion
  · have hblock := mem_assertionBlock ha hl
    cases m with
    | steps steps => exact hfinish _ _ true (List.mem_append_right _ hblock)
    | actions actions => exact hfinish _ _ false (List.mem_append_right _ hblock)

end Found

end PageTape.Script
