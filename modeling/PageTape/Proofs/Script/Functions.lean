import Mathlib.Data.List.TakeWhile
import PageTape.Proofs.Script.Voice.Pytest

/-!
# The functions of a Python script

What a reader of Python finds in the lines of a script: the functions that it defines, each with the lines that belong
to it.  A line belongs to a function as long as it is empty, indented or a remark.
-/

namespace PageTape.Script

open RecordingFile (Material)

/-! ### What a reader finds -/

/-- The program text at the head of a line. -/
def headCode : List Token → List Char
  | .code c :: rest => c :: headCode rest
  | _ => []

/-- The name of the function that a line defines. -/
def definedName? (line : List Token) : Option (List Char) :=
  if "def ".toList.isPrefixOf (headCode line) then some (((headCode line).drop 4).takeWhile (· != '(')) else none

/-- A line that may belong to a function before it. -/
def isInner : List Token → Bool
  | .code c :: _ => c == ' '
  | .literal _ :: _ => false
  | .remark _ :: _ | [] => true

/-- The functions that lines define, each with its name and the lines that belong to it. -/
def functionsOf : List (List Token) → List (List Char × List (List Token))
  | [] => []
  | line :: rest => match definedName? line with
    | some name => (name, rest.takeWhile isInner) :: functionsOf rest
    | none => functionsOf rest

/-- A line that does something: behind its blanks there is something other than a remark. -/
def isActive (line : List Token) : Bool :=
  match line.dropWhile (· == .code ' ') with
  | [] | .remark _ :: _ => false
  | _ => true

/-- An identifier of ASCII characters. -/
def isIdentifier : List Char → Bool
  | [] => false
  | c :: rest => (c.isAlpha || c == '_') && rest.all Text.isSnakeChar

variable {sp : Spelling} {l : Line} {ls ls' : List Line} {line : List Token} {lines lines' : List (List Token)}

lemma isActive_blanks {cs : List Char} (h : cs.all (· == ' ') = true) :
    isActive (cs.map .code ++ line) = isActive line := by
  induction cs with
  | nil => rfl
  | cons c rest ih =>
    rw [List.all_cons, Bool.and_eq_true, beq_iff_eq] at h
    obtain ⟨rfl, hrest⟩ := h
    exact ih hrest

/-- A line with program text that is not blank does something. -/
lemma isActive_code {cs : List Char} (h : cs.any (· != ' ') = true) : isActive (cs.map .code ++ line) = true := by
  induction cs with
  | nil => cases h
  | cons c rest ih =>
    by_cases hc : c = ' '
    · subst hc
      rw [List.any_cons] at h
      exact ih h
    · simp [isActive, hc]

lemma functionsOf_append (h : ∀ line ∈ lines, definedName? line = none) :
    functionsOf (lines ++ lines') = functionsOf lines' := by
  induction lines with
  | nil => rfl
  | cons line rest ih =>
    obtain ⟨hline, hrest⟩ := List.forall_mem_cons.1 h
    rw [List.cons_append, functionsOf, hline]
    exact ih hrest

/-- The head of a function with its lines, behind lines that define nothing. -/
lemma functionsOf_block (lines : List (List Token)) {head tail : List (List Token)} {name : List Char} (hhead : ∀ line ∈ head, definedName? line = none)
    (hname : definedName? line = some name) (htail : ∀ line ∈ tail, isInner line = true ∧ definedName? line = none)
    (hactive : tail.any isActive = true) :
    ∃ inside, functionsOf (head ++ line :: (tail ++ lines)) = (name, inside) :: functionsOf lines ∧
      inside.any isActive = true := by
  refine ⟨(tail ++ lines).takeWhile isInner, ?_, ?_⟩
  · rw [functionsOf_append hhead, functionsOf, hname]
    dsimp only
    rw [functionsOf_append fun line hline => (htail line hline).2]
  · rw [List.takeWhile_append_of_pos fun line hline => (htail line hline).1, List.any_append, hactive, Bool.true_or]

lemma headCode_append {cs : List Char} : headCode (cs.map .code ++ line) = cs ++ headCode line := by
  induction cs with
  | nil => rfl
  | cons c rest ih => simpa [headCode] using ih

lemma lineTokens_ofCode {t : String} : sp.lineTokens (.ofCode t) = t.toList.map .code := by
  simp [Spelling.lineTokens, Line.ofCode, Spelling.tokens, Spelling.said, Spelling.remark?]

/-- The name that is read in the head of a function. -/
lemma definedName?_def {name : String} {rest : List Char} (hname : name.toList.all Text.isSnakeChar = true) :
    definedName? (("def ".toList ++ (name.toList ++ '(' :: rest)).map .code) = some name.toList := by
  have hhead : headCode (("def ".toList ++ (name.toList ++ '(' :: rest)).map .code) =
      "def ".toList ++ (name.toList ++ '(' :: rest) := by
    rw [← List.append_nil (List.map _ _), headCode_append]
    simp [headCode]
  have hchars : ∀ c ∈ name.toList, (c != '(') = true := by
    intro c hc
    have hsnake := List.all_eq_true.1 hname c hc
    rw [bne_iff_ne]
    rintro rfl
    exact absurd hsnake (by decide)
  have htake : (name.toList ++ '(' :: rest).takeWhile (· != '(') = name.toList := by
    rw [List.takeWhile_append_of_pos hchars]
    simp
  have hdrop : ("def ".toList ++ (name.toList ++ '(' :: rest)).drop 4 = name.toList ++ '(' :: rest := by simp
  rw [definedName?, hhead, hdrop, htake, if_pos (by simp)]

/-! ### Lines of a body -/

/-- A line of a body is empty or has the margin of the dialect. -/
def Dialect.IsInner (d : Dialect) (l : Line) : Prop := l = .blank ∨ l.margin = d.margin

section Margin

variable {d : Dialect} {o : Options}

lemma inner_indented {statements : List (List Piece)} : ∀ l ∈ d.indented statements, d.IsInner l := by
  intro l hl
  obtain ⟨ps, -, rfl⟩ := List.mem_map.1 hl
  exact .inr rfl

lemma inner_labelled {statements : List (List Piece)} {label : Option String} :
    ∀ l ∈ d.labelled statements label, d.IsInner l := by
  unfold Dialect.labelled
  split <;> exact inner_indented

lemma inner_remark {t : String} : d.IsInner (d.remark t) := .inr rfl

lemma inner_opening : ∀ l ∈ d.opening o, d.IsInner l := by
  unfold Dialect.opening
  split
  · exact List.forall_mem_append.2 ⟨inner_indented, by simp [Dialect.IsInner]⟩
  · simp

lemma inner_stepLines {s : Step} : ∀ l ∈ d.stepLines o s, d.IsInner l := by
  unfold Dialect.stepLines
  cases s.kind with
  | assert =>
    cases s.assertion with
    | none => exact inner_labelled
    | some a => exact inner_indented
  | navigate | pressKey | waitForElement | waitForHidden | waitForUrl | waitForNetworkIdle | scroll | fill | select |
    check | uncheck | click | submit | hover | clear => exact inner_labelled

lemma inner_assertions {as : List Assertion} :
    ∀ l ∈ as.flatMap (fun a => d.indented (d.assertion a)), d.IsInner l := by
  intro l hl
  obtain ⟨a, -, hmem⟩ := List.mem_flatMap.1 hl
  exact inner_indented l hmem

lemma inner_assertionBlock : ∀ l ∈ d.assertionBlock o, d.IsInner l := by
  unfold Dialect.assertionBlock
  split
  · exact List.forall_mem_append.2 ⟨by simp [Dialect.IsInner, Dialect.remark], inner_assertions⟩
  · simp

lemma inner_stepsFrom {previous : Option Step} {filled : Bool} {steps : List Step} :
    ∀ l ∈ d.stepsFrom o previous filled steps, d.IsInner l := by
  induction steps generalizing previous filled with
  | nil => simp [Dialect.stepsFrom]
  | cons s rest ih =>
    rw [Dialect.stepsFrom]
    split
    · exact ih
    · have hpause : ∀ l ∈ d.pauseBefore o previous s, d.IsInner l := by
        unfold Dialect.pauseBefore
        cases previous with
        | none => simp
        | some p =>
          dsimp only
          split
          · exact inner_indented
          · simp
      have hdivider : ∀ l ∈ (if (s.kind == .click || s.kind == .submit) && filled then [d.remark "Submit"] else []),
          d.IsInner l := by
        split
        · simpa using inner_remark
        · simp
      exact List.forall_mem_append.2 ⟨List.forall_mem_append.2 ⟨List.forall_mem_append.2 ⟨hpause, hdivider⟩,
        inner_stepLines⟩, ih⟩

lemma inner_actions {actions : List Action} : ∀ l ∈ actions.flatMap (d.actionLines o), d.IsInner l := by
  intro l hl
  obtain ⟨a, -, hmem⟩ := List.mem_flatMap.1 hl
  exact inner_labelled l hmem

/-- The lines of a body are empty or have the margin. -/
lemma inner_body {m : Material} : ∀ l ∈ (match m with
    | .steps steps => d.stepsBody o steps
    | .actions actions => d.actionsBody o actions), d.IsInner l := by
  cases m with
  | steps steps =>
    exact List.forall_mem_append.2 ⟨List.forall_mem_append.2 ⟨inner_opening, inner_stepsFrom⟩, inner_assertionBlock⟩
  | actions actions =>
    have hdivider : ∀ l ∈ (if !(actions.filter fun a => a.kind.submits).isEmpty &&
        !(actions.filter fun a => !a.kind.submits).isEmpty then [Line.blank, d.remark "Submit"] else []),
        d.IsInner l := by
      split
      · simp [Dialect.IsInner, Dialect.remark]
      · simp
    exact List.forall_mem_append.2 ⟨List.forall_mem_append.2 ⟨List.forall_mem_append.2 ⟨List.forall_mem_append.2
      ⟨inner_opening, inner_actions⟩, hdivider⟩, inner_actions⟩, inner_assertionBlock⟩

lemma inner_negative {actions : List Action} {body : List Line} (hbody : d.negativeBody o actions = some body) :
    ∀ l ∈ body, d.IsInner l := by
  unfold Dialect.negativeBody at hbody
  dsimp only at hbody
  split at hbody
  · cases hbody
  · obtain rfl := Option.some.inj hbody
    intro l hl
    simp only [List.mem_append, List.mem_singleton] at hl
    rcases hl with (((((hl | rfl) | hl) | rfl) | hl) | rfl) | hl
    · exact inner_opening l hl
    · exact inner_remark
    · split at hl
      · exact inner_indented l hl
      · cases hl
    · exact .inl rfl
    · exact inner_assertions l hl
    · exact inner_remark
    · exact inner_indented l hl

end Margin

/-! ### Tests as functions -/

namespace Pytest

lemma isInner_of (h : pytest.IsInner l) : isInner (sp.lineTokens l) = true ∧ definedName? (sp.lineTokens l) = none := by
  rcases h with rfl | hmargin
  · exact ⟨rfl, rfl⟩
  · rw [Spelling.lineTokens, hmargin]
    exact ⟨rfl, rfl⟩

/-- A statement does something. -/
lemma isActive_of (hmargin : pytest.IsInner l) (hupright : isUpright l.pieces = true) (hl : l.isStatement = true) :
    isActive (sp.lineTokens l) = true := by
  rcases hmargin with rfl | hmargin
  · cases hl
  · have hblank : pytest.margin.toList.all (· == ' ') = true := by decide
    rw [Spelling.lineTokens, hmargin, isActive_blanks hblank, Spelling.tokens]
    unfold Line.isStatement at hl
    cases hpieces : l.pieces with
    | nil => simp [hpieces] at hl
    | cons p rest =>
      rw [hpieces] at hl hupright
      cases p with
      | code t =>
        rw [Spelling.said, List.append_assoc]
        exact isActive_code hupright
      | literal s | key k => rfl
      | remark => cases hl
      | prose t => cases hupright

variable {name : String} {description : Option String} {body : List Line} {texts told : List String}

/-- The lines of a function: the body, filled up where no line does something. -/
def filled (body : List Line) : List Line :=
  body ++ if body.any Line.isStatement then [] else [{ margin := "    ", pieces := [.code "pass"] }]

lemma inner_filled (sp : Spelling) (hbody : ∀ l ∈ body, pytest.IsInner l) :
    ∀ line ∈ (filled body).map sp.lineTokens, isInner line = true ∧ definedName? line = none := by
  intro line hline
  obtain ⟨l, hl, rfl⟩ := List.mem_map.1 hline
  refine isInner_of ?_
  rcases List.mem_append.1 hl with hl | hl
  · exact hbody l hl
  · split at hl
    · simp at hl
    · exact .inr (by rw [List.mem_singleton.1 hl]; rfl)

lemma active_filled (sp : Spelling) (hbody : ∀ l ∈ body, pytest.IsInner l)
    (hupright : ∀ l ∈ body, isUpright l.pieces = true) : ((filled body).map sp.lineTokens).any isActive = true := by
  rw [filled, List.map_append, List.any_append, Bool.or_eq_true]
  split
  · rename_i hany
    obtain ⟨l, hl, hstatement⟩ := List.any_eq_true.1 hany
    have hactive : isActive (sp.lineTokens l) = true := isActive_of (hbody l hl) (hupright l hl) hstatement
    exact .inl (List.any_eq_true.2 ⟨_, List.mem_map_of_mem hl, hactive⟩)
  · exact .inr rfl

/-- A test is a function, named after the test, with a line that does something; what comes before is none. -/
lemma functionsOf_test (sp : Spelling) (lines : List (List Token)) (hbody : ∀ l ∈ body, pytest.IsInner l)
    (hupright : ∀ l ∈ body, isUpright l.pieces = true) :
    ∃ inside, functionsOf ((test name description body).map sp.lineTokens ++ lines) =
      ((functionName name).toList, inside) :: functionsOf lines ∧ inside.any isActive = true := by
  obtain ⟨head, hhead, htest⟩ : ∃ head : List Line, (∀ line ∈ head.map sp.lineTokens, definedName? line = none) ∧
      test name description body =
        head ++ .ofCode s!"def {functionName name}(page: Page) -> None:" :: filled body := by
    unfold test filled
    cases nonempty? description with
    | none => exact ⟨[.blank, .blank], by simp; rfl, by simp⟩
    | some text =>
      refine ⟨[.blank, .blank, { pieces := [.remark, .code " ", .prose text] }], ?_, by simp⟩
      intro line hline
      simp only [List.map_cons, List.map_nil, List.mem_cons, List.not_mem_nil, or_false] at hline
      rcases hline with rfl | rfl | rfl <;> rfl
  have hname : definedName? (sp.lineTokens (.ofCode s!"def {functionName name}(page: Page) -> None:")) =
      some (functionName name).toList := by
    have htext : (s!"def {functionName name}(page: Page) -> None:").toList =
        "def ".toList ++ ((functionName name).toList ++ '(' :: "page: Page) -> None:".toList) := by
      rw [String.toList_append, String.toList_append, List.append_assoc]
      rfl
    rw [lineTokens_ofCode, htext]
    exact definedName?_def (functionName_all name)
  obtain ⟨inside, hfunctions, hactive⟩ := functionsOf_block lines hhead hname (inner_filled sp hbody)
    (active_filled sp hbody hupright)
  refine ⟨inside, ?_, hactive⟩
  rw [← hfunctions, htest, List.map_append, List.map_cons, List.append_assoc, List.cons_append]

/-! ### Scripts -/

/-- There is a test of required fields if it is asked for and some field is required. -/
lemma negative_isSome {d : Dialect} {o : Options} {actions : List Action} :
    (if o.includeNegativeTest then d.negativeBody o actions else none).isSome =
      (o.includeNegativeTest && !(requiredOf actions).isEmpty) := by
  unfold Dialect.negativeBody requiredOf
  cases o.includeNegativeTest
  · rfl
  · cases hrequired : (actions.filter fun a => a.required == some true).isEmpty <;> simp [hrequired]

lemma functionsOf_file (sp : Spelling) {p : Parts} (hbody : ∀ l ∈ p.body, pytest.IsInner l)
    (hupright : ∀ l ∈ p.body, isUpright l.pieces = true)
    (hnegative : ∀ body, p.negative = some body →
      (∀ l ∈ body, pytest.IsInner l) ∧ ∀ l ∈ body, isUpright l.pieces = true) :
    let functions := functionsOf ((file p).map sp.lineTokens)
    functions.map (·.1) = (functionName p.options.testName).toList ::
        (if p.negative.isSome then [(functionName negativeTestName).toList] else []) ∧
      ∀ f ∈ functions, f.2.any isActive = true := by
  have himports : ∀ line ∈ ([.ofCode "import re", .blank, .ofCode "from playwright.sync_api import Page, expect"] :
      List Line).map sp.lineTokens, definedName? line = none := by
    intro line hline
    simp only [List.map_cons, List.map_nil, List.mem_cons, List.not_mem_nil, or_false] at hline
    rcases hline with rfl | rfl | rfl <;> rfl
  cases hp : p.negative with
  | none =>
    obtain ⟨inside, hfunctions, hactive⟩ := functionsOf_test sp [] hbody hupright
    rw [List.append_nil] at hfunctions
    have htests : functionsOf ((file p).map sp.lineTokens) = [((functionName p.options.testName).toList, inside)] := by
      rw [file, hp]
      dsimp only
      rw [List.append_nil, List.map_append, functionsOf_append himports, hfunctions]
      rfl
    rw [htests]
    exact ⟨by simp, List.forall_mem_singleton.2 hactive⟩
  | some body =>
    obtain ⟨hinner, hup⟩ := hnegative body hp
    obtain ⟨inside', hfunctions', hactive'⟩ := functionsOf_test sp [] hinner hup
    obtain ⟨inside, hfunctions, hactive⟩ := functionsOf_test sp ((test negativeTestName none body).map sp.lineTokens)
      hbody hupright
    rw [List.append_nil] at hfunctions'
    have htests : functionsOf ((file p).map sp.lineTokens) =
        [((functionName p.options.testName).toList, inside), ((functionName negativeTestName).toList, inside')] := by
      rw [file, hp]
      dsimp only
      rw [List.append_assoc, List.map_append, functionsOf_append himports, List.map_append, hfunctions, hfunctions']
      rfl
    rw [htests]
    exact ⟨by simp, List.forall_mem_cons.2 ⟨hactive, List.forall_mem_singleton.2 hactive'⟩⟩

/-- The functions of a script are its tests: named after the test, and each has a line that does something. -/
lemma functionsOf_script (o : Options) (m : Material) :
    let functions := functionsOf ((pytest.linesFor o m).map pytest.spelling.lineTokens)
    (functions.map (·.1) = (functionName o.testName).toList :: (if o.includeNegativeTest &&
        !(requiredOf (actionsOf m)).isEmpty then [(functionName negativeTestName).toList] else [])) ∧
      ∀ f ∈ functions, f.2.any isActive = true := by
  have hfinish : ∀ (body : List Line) (fromRecording : Bool), (∀ l ∈ body, pytest.IsInner l) →
      (∀ l ∈ body, isUpright l.pieces = true) →
      let functions := functionsOf ((pytest.finish o body (actionsOf m) fromRecording).map pytest.spelling.lineTokens)
      (functions.map (·.1) = (functionName o.testName).toList :: (if o.includeNegativeTest &&
          !(requiredOf (actionsOf m)).isEmpty then [(functionName negativeTestName).toList] else [])) ∧
        ∀ f ∈ functions, f.2.any isActive = true := by
    intro body fromRecording hbody hupright
    rw [← negative_isSome (d := pytest)]
    refine functionsOf_file pytest.spelling hbody hupright fun negative hnegative => ⟨?_, ?_⟩
    · have hsome : pytest.negativeBody o (actionsOf m) = some negative := by
        dsimp only at hnegative
        split at hnegative
        · exact hnegative
        · cases hnegative
      exact inner_negative hsome
    · exact (pytestVoice_sound.says_negative hnegative).upright
  have hbody : ∀ l ∈ (match m with
      | .steps steps => pytest.stepsBody o steps
      | .actions actions => pytest.actionsBody o actions), pytest.IsInner l := inner_body
  have hupright := (pytestVoice_sound.says_body o m).upright
  cases m with
  | steps steps => exact hfinish _ true hbody hupright
  | actions actions => exact hfinish _ false hbody hupright

end Pytest

lemma isIdentifier_functionName (name : String) : isIdentifier (Pytest.functionName name).toList = true := by
  have hall := Pytest.functionName_all name
  have hhead : "test_".toList = 't' :: "est_".toList := rfl
  rw [Pytest.functionName, String.toList_append, hhead, List.cons_append] at hall ⊢
  rw [List.all_cons, Bool.and_eq_true] at hall
  rw [isIdentifier, hall.2]
  rfl

end PageTape.Script
