import PageTape.Proofs.Script.Hidden
import PageTape.Proofs.Script.WellFormed
import Std.Data.String.ToInt

/-!
# Where steps that are not asked for are invisible

In what the languages read, a pause stands out among the lines of a framework by its remark and by its call, which
quotes nothing; in Pest, where it is one line, by the blank between the two.  So the scripts show whether hidden steps
leave a trace, and where these do not, the scripts are the same without them (`hidden_steps_unseen_iff`).  That an idle
time is not told because the page was scrolled meanwhile is such a trace (`idling_unpaused`).
-/

namespace PageTape.Script

open RecordingFile (Material)

section Steps

variable {d : Dialect} {o : Options} {s : Step} {P : List Piece → Prop} {statements : List (List Piece)} {l : Line}

lemma mem_labelled {label : Option String} (hl : l ∈ d.labelled statements label) :
    l.margin = d.margin ∧ ∃ qs ∈ statements, ∃ ps, l.pieces = qs ++ ps := by
  have hplain : ∀ l ∈ d.indented statements, l.margin = d.margin ∧ ∃ qs ∈ statements, ∃ ps, l.pieces = qs ++ ps := by
    intro l hl
    obtain ⟨qs, hqs, rfl⟩ := List.mem_map.1 hl
    exact ⟨rfl, qs, hqs, [], (List.append_nil qs).symm⟩
  unfold Dialect.labelled at hl
  split at hl
  · rename_i text last before _ hreverse
    have hstatements : statements = before.reverse ++ [last] := by
      rw [← List.reverse_reverse statements, hreverse, List.reverse_cons]
    obtain ⟨qs, hqs, rfl⟩ := List.mem_map.1 hl
    rcases List.mem_append.1 hqs with hqs | hqs
    · exact ⟨rfl, qs, by simp [hstatements, List.mem_reverse.1 hqs], [], (List.append_nil qs).symm⟩
    · exact ⟨rfl, last, by simp [hstatements], _, List.mem_singleton.1 hqs⟩
  · exact hplain l hl

/-- What holds of all that begins like a statement of a step holds of the lines of a step. -/
lemma forall_stepLines (navigate : ∀ url ps, P (d.navigate url ++ ps))
    (interact : ∀ g selector value ps, P (d.interact g selector value ++ ps))
    (pressKey : ∀ key selector ps, P (d.pressKey key selector ++ ps)) (wait : ∀ w, ∀ qs ∈ d.wait w, ∀ ps, P (qs ++ ps))
    (scroll : ∀ x y ps, P (d.scroll x y ++ ps)) (assertion : ∀ a, ∀ qs ∈ d.assertion a, P qs)
    (assert : ∀ ps, P ([.remark, .code " assert"] ++ ps)) : ∀ l ∈ d.stepLines o s, l.margin = d.margin ∧ P l.pieces := by
  have hone : ∀ {qs : List Piece} {label : Option String}, (∀ ps, P (qs ++ ps)) →
      ∀ l ∈ d.labelled [qs] label, l.margin = d.margin ∧ P l.pieces := by
    intro qs label hqs l hl
    obtain ⟨hmargin, qs', hqs', ps, hps⟩ := mem_labelled hl
    rw [hps, List.mem_singleton.1 hqs']
    exact ⟨hmargin, hqs ps⟩
  have hwait : ∀ (w : Wait) {label : Option String}, ∀ l ∈ d.labelled (d.wait w) label,
      l.margin = d.margin ∧ P l.pieces := by
    intro w label l hl
    obtain ⟨hmargin, qs, hqs, ps, hps⟩ := mem_labelled hl
    rw [hps]
    exact ⟨hmargin, wait w qs hqs ps⟩
  unfold Dialect.stepLines
  cases s.kind with
  | navigate => exact hone (navigate _)
  | pressKey => exact hone (pressKey _ _)
  | waitForElement | waitForHidden | waitForUrl | waitForNetworkIdle => exact hwait _
  | scroll => exact hone (scroll _ _)
  | assert =>
    dsimp only
    cases s.assertion with
    | none => exact hone assert
    | some a =>
      intro l hl
      obtain ⟨qs, hqs, rfl⟩ := List.mem_map.1 hl
      exact ⟨rfl, assertion a qs hqs⟩
  | fill | select | check | uncheck | click | submit | hover | clear => exact hone (interact _ _ _)

lemma labelled_ne_nil {label : Option String} (h : statements ≠ []) : d.labelled statements label ≠ [] := by
  unfold Dialect.labelled
  split
  · simp [Dialect.indented]
  · simpa [Dialect.indented] using h

lemma Voice.Sound.stepLines_ne_nil {V : Voice} (hV : V.Sound) (assertion : ∀ a, V.dialect.assertion a ≠ []) (o : Options)
    (s : Step) : V.dialect.stepLines o s ≠ [] := by
  unfold Dialect.stepLines
  cases s.kind with
  | assert =>
    dsimp only
    cases s.assertion with
    | none => exact labelled_ne_nil (List.cons_ne_nil _ _)
    | some a => simpa [Dialect.indented] using assertion a
  | waitForElement | waitForHidden | waitForUrl | waitForNetworkIdle => exact labelled_ne_nil (hV.wait _).ne_nil
  | _ => exact labelled_ne_nil (List.cons_ne_nil _ _)

end Steps

/-! ### Pauses in what a language reads -/

/-- A line is read as a part of a pause: its remark, or the call that waits, which quotes nothing. -/
def readsPause (call : String) (line : List Token) : Bool :=
  (match line.head? with
    | some (.remark text) => " User".toList.isPrefixOf text.toList
    | _ => false) ||
  (call.toList.map Token.code).isPrefixOf line && (match (line.drop call.length).head? with
    | some (.code _) => true
    | _ => false)

section Tokens

variable {d : Dialect} {sp : Spelling} {o : Options} {s : Step} {call close : String}

lemma tokens_code_append (sp : Spelling) (a b : String) (ps : List Piece) :
    sp.tokens (.code (a ++ b) :: ps) = a.toList.map .code ++ sp.tokens (.code b :: ps) := by
  simp [Spelling.tokens, Spelling.said, Spelling.remark?]

/-- What a line with a margin is read as behind it. -/
lemma drop_lineTokens (sp : Spelling) (margin : String) (ps : List Piece) :
    (sp.lineTokens ⟨margin, ps⟩).drop margin.length = sp.tokens ps := by
  rw [Spelling.lineTokens, List.drop_left' (by rw [List.length_map, String.length_toList])]

/-- A remark is told by its beginning. -/
lemma readsPause_remark (hcall : call ≠ "") (t : String) (ps : List Piece) :
    readsPause call (sp.tokens (.remark :: .code t :: ps)) =
      " User".toList.isPrefixOf (t.toList ++ (sp.remarkText ps).toList) := by
  obtain ⟨c, cs, hcs⟩ := List.exists_cons_of_ne_nil (mt String.toList_eq_nil_iff.1 hcall)
  have htext : " User".toList.isPrefixOf (sp.remarkText (.code t :: ps)).toList =
      " User".toList.isPrefixOf (t.toList ++ (sp.remarkText ps).toList) := by
    rw [sp.remarkText_cons]
    rfl
  rw [← htext, readsPause, hcs]
  exact Bool.or_false _

/-- Two texts have different characters at one place. -/
def differs (cs ds : List Char) : Bool := (cs.zip ds).any fun p => p.1 != p.2

/-- What differs from a text does not begin with it. -/
lemma isPrefixOf_of_differs {α : Type} [BEq α] [LawfulBEq α] {f : Char → α} (hf : f.Injective) {cs ds : List Char}
    (h : differs cs ds = true) (rest : List α) : (cs.map f).isPrefixOf (ds.map f ++ rest) = false := by
  induction cs generalizing ds with
  | nil => cases h
  | cons c cs ih =>
    cases ds with
    | nil => cases h
    | cons d ds =>
      rw [differs, List.zip_cons_cons, List.any_cons, Bool.or_eq_true] at h
      rw [List.map_cons, List.map_cons, List.cons_append, List.isPrefixOf_cons_cons]
      rcases h with h | h
      · have hne : (f c == f d) = false := by simpa [hf.eq_iff] using h
        rw [hne, Bool.false_and]
      · rw [ih h, Bool.and_false]

/-- Program text that differs from the call of a pause does not begin one. -/
lemma readsPause_differs {cs ds : List Char} (h : differs cs ds = true) (rest : List Token) :
    readsPause (String.ofList cs) (ds.map .code ++ rest) = false := by
  have hcode : Function.Injective Token.code := fun _ _ => Token.code.inj
  have hcs : (String.ofList cs).toList = cs := String.toList_ofList
  have hprefix := isPrefixOf_of_differs hcode h rest
  cases ds with
  | nil =>
    rw [differs, List.zip_nil_right] at h
    cases h
  | cons d ds =>
    rw [readsPause, hcs, hprefix]
    rfl

lemma readsPause_code {cs ds : List Char} (h : differs cs ds = true) (ps : List Piece) :
    readsPause (String.ofList cs) (sp.tokens (.code (String.ofList ds) :: ps)) = false := by
  have htokens : sp.tokens (.code (String.ofList ds) :: ps) = ds.map .code ++ sp.tokens ps := by
    simp [Spelling.tokens, Spelling.said, Spelling.remark?]
  rw [htokens, readsPause_differs h]

lemma readsPause_append {cs ds : List Char} (h : differs cs ds = true) (t : String) (ps : List Piece) :
    readsPause (String.ofList cs) (sp.tokens (.code (String.ofList ds ++ t) :: ps)) = false := by
  rw [tokens_code_append, String.toList_ofList, readsPause_differs h]

/-- A remark that does not begin as that of a pause does. -/
lemma readsPause_own {ds : List Char} (hcall : call ≠ "") (h : differs [' ', 'U', 's', 'e', 'r'] ds = true) (ps : List Piece) :
    readsPause call (sp.tokens (.remark :: .code (String.ofList ds) :: ps)) = false := by
  have hds : (String.ofList ds).toList = ds := String.toList_ofList
  have hprefix := isPrefixOf_of_differs Function.injective_id h (sp.remarkText ps).toList
  rw [List.map_id, List.map_id] at hprefix
  rw [readsPause_remark hcall, hds]
  exact hprefix

/-- A framework's pause: a remark that tells its seconds, and a call with its time. -/
def Dialect.PausesBy (d : Dialect) (call close : String) : Prop :=
  ∀ delta, d.pause delta = [[.remark, .code s!" User paused for ~{seconds delta}s"], [.code s!"{call}{delta}{close}"]]

lemma Dialect.PausesBy.lines (hpause : d.PausesBy call close) (delta : Int) : d.indented (d.pause delta) =
    [⟨d.margin, [.remark, .code s!" User paused for ~{seconds delta}s"]⟩,
      ⟨d.margin, [.code (call ++ toString delta ++ close)]⟩] := by
  rw [hpause]
  rfl

/-- A framework's lines of steps do not begin like its pauses. -/
def Dialect.TellsSteps (d : Dialect) (call : String) : Prop :=
  ∀ o s, ∀ l ∈ d.stepLines o s, l.margin = d.margin ∧ readsPause call (d.spelling.tokens l.pieces) = false

/-- Pauses stand out in what a language reads. -/
lemma Dialect.PausesBy.standOut {spare : List Line} (hpause : d.PausesBy call close) (hcall : call ≠ "")
    (hclose : close ≠ "") (hstep : d.TellsSteps call) (hne : ∀ o s, d.stepLines o s ≠ [])
    (hspare : ∀ l ∈ spare, readsPause call ((d.spelling.lineTokens l).drop d.margin.length) = false)
    (hnavigate : ∀ url, Line.isStatement ⟨d.margin, d.navigate url⟩ = true)
    (hframes : d.Frames spare) :
    d.PausesStandOut d.spelling.lineTokens (fun line => readsPause call (line.drop d.margin.length)) spare where
  pause delta l hl := by
    have hwaits : toString delta ++ close ≠ "" := by
      rw [Ne, String.append_eq_empty_iff]
      exact fun hempty => hclose hempty.2
    rw [hpause.lines] at hl
    simp only [List.mem_cons, List.not_mem_nil, or_false] at hl
    rcases hl with rfl | rfl
    · rw [drop_lineTokens, readsPause_remark hcall]
      simp only [String.append_assoc, String.toList_append, List.append_assoc]
      rfl
    · obtain ⟨c, cs, hcs⟩ := List.exists_cons_of_ne_nil (mt String.toList_eq_nil_iff.1 hwaits)
      have hdrop : ((call.toList.map Token.code) ++ d.spelling.tokens [.code (toString delta ++ close)]).drop
          call.length = d.spelling.tokens [.code (toString delta ++ close)] :=
        List.drop_left' (by rw [List.length_map, String.length_toList])
      rw [drop_lineTokens, readsPause, String.append_assoc, tokens_code_append,
        List.isPrefixOf_iff_prefix.2 (List.prefix_append _ _), hdrop, Spelling.tokens, Spelling.said, hcs]
      exact Bool.or_true _
  pause_ne_nil delta := by simp [hpause.lines]
  pause_inj delta delta' heq := by
    rw [hpause.lines, hpause.lines] at heq
    simp only [List.map_cons, List.map_nil, List.cons.injEq] at heq
    simpa [Spelling.lineTokens, Spelling.tokens, Spelling.said, Spelling.remark?,
      List.map_inj_right fun _ _ => Token.code.inj, String.toList_inj] using heq.2.1
  step o s l hl := by
    obtain ⟨hmargin, hread⟩ := hstep o s l hl
    obtain ⟨margin, ps⟩ := l
    obtain rfl : margin = d.margin := hmargin
    rw [drop_lineTokens, hread]
  step_ne_nil := hne
  submit := by
    rw [Dialect.remark, drop_lineTokens, readsPause_remark hcall, d.spelling.remarkText_cons, Spelling.piece]
    have hprint : (Text.printable "Submit").toList = "Submit".toList := by
      simp [Text.printable]
      decide
    rw [hprint]
    rfl
  spare_step := hspare
  navigate := hnavigate
  frames := hframes

end Tokens

/-! ### The frameworks -/

section Frameworks

variable {o : Options} {s : Step}

namespace Playwright

lemma tellsSteps : playwright.TellsSteps "await page.waitForTimeout(" := by
  have hcall : "await page.waitForTimeout(" ≠ "" := by decide
  intro o s
  refine forall_stepLines (P := fun ps => readsPause _ (playwright.spelling.tokens ps) = false) ?_ ?_ ?_ ?_ ?_ ?_ ?_
  · exact fun _ _ => readsPause_code rfl _
  · exact fun _ _ _ _ => readsPause_code rfl _
  · exact fun _ _ _ => readsPause_code rfl _
  · intro w qs hqs ps
    cases w <;> rw [List.mem_singleton.1 hqs] <;> exact readsPause_code rfl _
  · intro x y ps
    show readsPause _ (playwright.spelling.tokens
      (.code s!"await page.evaluate(() => window.scrollTo({x}, {y}));" :: ps)) = false
    simp only [String.append_assoc]
    exact readsPause_append rfl _ _
  · intro a
    show ∀ qs ∈ assertion a, _
    unfold assertion
    cases a.kind with
    | visibleText =>
      dsimp only
      cases nonempty? a.expected with
      | none => exact List.forall_mem_singleton.2 (readsPause_own hcall rfl _)
      | some text => exact List.forall_mem_singleton.2 (readsPause_code rfl _)
    | responseOk =>
      simp only [List.forall_mem_cons]
      exact ⟨readsPause_own hcall rfl _, readsPause_own hcall rfl _, readsPause_own hcall rfl _, readsPause_own hcall rfl _, nofun⟩
    | _ => exact List.forall_mem_singleton.2 (readsPause_code rfl _)
  · exact fun _ => readsPause_own hcall rfl _

lemma pauses_standOut : playwright.PausesStandOut playwright.spelling.lineTokens
    (fun line => readsPause "await page.waitForTimeout(" (line.drop playwright.margin.length)) [] := by
  have hpause : playwright.PausesBy "await page.waitForTimeout(" ");" := fun _ => rfl
  refine hpause.standOut (by decide) (by decide) tellsSteps (playwrightVoice_sound.stepLines_ne_nil ?_) (by simp) (fun _ => rfl)
    playwright_frames
  · intro a
    show assertion a ≠ []
    unfold assertion
    cases a.kind with
    | visibleText =>
      dsimp only
      cases nonempty? a.expected <;> exact List.cons_ne_nil _ _
    | _ => exact List.cons_ne_nil _ _

end Playwright

namespace Cypress

lemma tellsSteps : cypress.TellsSteps "cy.wait(" := by
  have hcall : "cy.wait(" ≠ "" := by decide
  intro o s
  refine forall_stepLines (P := fun ps => readsPause _ (cypress.spelling.tokens ps) = false) ?_ ?_ ?_ ?_ ?_ ?_ ?_
  · exact fun _ _ => readsPause_code rfl _
  · exact fun _ _ _ _ => readsPause_code rfl _
  · exact fun _ _ _ => readsPause_code rfl _
  · intro w
    show ∀ qs ∈ wait w, _
    cases w with
    | networkIdle =>
      -- the call waits, but for what it quotes
      rw [wait, List.forall_mem_cons, List.forall_mem_singleton]
      exact ⟨fun _ => readsPause_code rfl _, fun _ => rfl⟩
    | _ =>
      rw [wait, List.forall_mem_singleton]
      exact fun _ => readsPause_code rfl _
  · intro x y ps
    show readsPause _ (cypress.spelling.tokens (.code s!"cy.scrollTo({x}, {y});" :: ps)) = false
    simp only [String.append_assoc]
    exact readsPause_append rfl _ _
  · intro a
    show ∀ qs ∈ assertion a, _
    unfold assertion
    cases a.kind with
    | visibleText =>
      dsimp only
      cases nonempty? a.expected with
      | none => exact List.forall_mem_singleton.2 (readsPause_own hcall rfl _)
      | some text => exact List.forall_mem_singleton.2 (readsPause_code rfl _)
    | responseOk =>
      simp only [List.forall_mem_cons]
      exact ⟨readsPause_own hcall rfl _, readsPause_own hcall rfl _, readsPause_own hcall rfl _, readsPause_own hcall rfl _, nofun⟩
    | _ => exact List.forall_mem_singleton.2 (readsPause_code rfl _)
  · exact fun _ => readsPause_own hcall rfl _

lemma pauses_standOut : cypress.PausesStandOut cypress.spelling.lineTokens
    (fun line => readsPause "cy.wait(" (line.drop cypress.margin.length)) [] := by
  have hpause : cypress.PausesBy "cy.wait(" ");" := fun _ => rfl
  refine hpause.standOut (by decide) (by decide) tellsSteps (cypressVoice_sound.stepLines_ne_nil ?_) (by simp) (fun _ => rfl)
    cypress_frames
  · intro a
    show assertion a ≠ []
    unfold assertion
    cases a.kind with
    | visibleText =>
      dsimp only
      cases nonempty? a.expected <;> exact List.cons_ne_nil _ _
    | _ => exact List.cons_ne_nil _ _

end Cypress

namespace Pytest

lemma tellsSteps : pytest.TellsSteps "page.wait_for_timeout(" := by
  have hcall : "page.wait_for_timeout(" ≠ "" := by decide
  intro o s
  refine forall_stepLines (P := fun ps => readsPause _ (pytest.spelling.tokens ps) = false) ?_ ?_ ?_ ?_ ?_ ?_ ?_
  · exact fun _ _ => readsPause_code rfl _
  · exact fun _ _ _ _ => readsPause_code rfl _
  · exact fun _ _ _ => readsPause_code rfl _
  · intro w qs hqs ps
    cases w <;> rw [List.mem_singleton.1 hqs] <;> exact readsPause_code rfl _
  · exact fun _ _ _ => readsPause_code rfl _
  · intro a
    show ∀ qs ∈ assertion a, _
    unfold assertion
    cases a.kind with
    | visibleText =>
      dsimp only
      cases nonempty? a.expected with
      | none => exact List.forall_mem_singleton.2 (readsPause_own hcall rfl _)
      | some text => exact List.forall_mem_singleton.2 (readsPause_code rfl _)
    | responseOk =>
      simp only [List.forall_mem_cons]
      exact ⟨readsPause_own hcall rfl _, readsPause_own hcall rfl _, readsPause_own hcall rfl _, readsPause_own hcall rfl _, readsPause_own hcall rfl _, nofun⟩
    | _ => exact List.forall_mem_singleton.2 (readsPause_code rfl _)
  · exact fun _ => readsPause_own hcall rfl _

lemma pauses_standOut : pytest.PausesStandOut pytest.spelling.lineTokens
    (fun line => readsPause "page.wait_for_timeout(" (line.drop pytest.margin.length)) [passLine] := by
  have hpause : pytest.PausesBy "page.wait_for_timeout(" ")" := fun _ => rfl
  refine hpause.standOut (by decide) (by decide) tellsSteps (pytestVoice_sound.stepLines_ne_nil ?_) ?_ (fun _ => rfl)
    pytest_frames
  · intro a
    show assertion a ≠ []
    unfold assertion
    cases a.kind with
    | visibleText =>
      dsimp only
      cases nonempty? a.expected <;> exact List.cons_ne_nil _ _
    | _ => exact List.cons_ne_nil _ _
  · exact List.forall_mem_singleton.2 rfl

end Pytest

namespace Pest

/-- A line of a pause: its call ends in a blank. -/
def isPause (l : Line) : Bool :=
  match l.pieces with
  | .code t :: _ => t.toList.getLast? == some ' '
  | _ => false

lemma pause_lines (delta : Int) : pest.indented (pest.pause delta) = [⟨pest.margin,
    [.code s!"->pause({delta}) ", .remark, .code s!" User paused for ~{seconds delta}s"]⟩] := rfl

lemma isPause_code {margin : String} (before after : String) {ps : List Piece} {c : Char}
    (hafter : after.toList.getLast? = some c) : isPause ⟨margin, .code (before ++ after) :: ps⟩ = (c == ' ') := by
  show ((before ++ after).toList.getLast? == some ' ') = _
  rw [String.toList_append, List.getLast?_append, hafter]
  rfl

lemma isPause_step : ∀ l ∈ pest.stepLines o s, isPause l = false := by
  have hstep : ∀ l ∈ pest.stepLines o s, l.margin = pest.margin ∧ isPause ⟨pest.margin, l.pieces⟩ = false := by
    refine forall_stepLines (P := fun ps => isPause ⟨pest.margin, ps⟩ = false) ?_ ?_ ?_ ?_ ?_ ?_ ?_
    · exact fun _ _ => isPause_code _ "(" rfl
    · intro g selector value ps
      cases g <;> exact isPause_code _ "(" rfl
    · exact fun _ _ _ => rfl
    · intro w qs hqs ps
      cases w <;> rw [List.mem_singleton.1 hqs]
      case networkIdle => rfl
      all_goals exact isPause_code _ "(" rfl
    · exact fun _ _ _ => isPause_code _ "(" rfl
    · intro a
      show ∀ qs ∈ assertion a, _
      unfold assertion
      cases a.kind with
      | visibleText =>
        dsimp only
        cases nonempty? a.expected with
        | none => exact List.forall_mem_singleton.2 rfl
        | some text => exact List.forall_mem_singleton.2 (isPause_code _ "(" rfl)
      | responseOk => exact List.forall_mem_cons.2 ⟨rfl, List.forall_mem_singleton.2 rfl⟩
      | _ => exact List.forall_mem_singleton.2 (isPause_code _ "(" rfl)
    · exact fun _ => rfl
  intro l hl
  obtain ⟨hmargin, hread⟩ := hstep l hl
  rwa [← hmargin] at hread

lemma pauses_standOut : pest.PausesStandOut id isPause [] where
  pause delta l hl := by
    rw [pause_lines, List.mem_singleton] at hl
    rw [hl]
    exact isPause_code _ ") " rfl
  pause_ne_nil delta := List.cons_ne_nil _ _
  pause_inj delta delta' heq := by
    rw [pause_lines, pause_lines] at heq
    have htimes : delta = delta' ∧ seconds delta = seconds delta' := by simpa [String.append_assoc] using heq
    exact htimes.1
  step o s := isPause_step
  step_ne_nil := by
    refine pestVoice_sound.stepLines_ne_nil ?_
    intro a
    show assertion a ≠ []
    unfold assertion
    cases a.kind with
    | visibleText =>
      dsimp only
      cases nonempty? a.expected <;> exact List.cons_ne_nil _ _
    | _ => exact List.cons_ne_nil _ _
  submit := rfl
  spare_step := by simp
  navigate _ := rfl
  frames := pest_frames

end Pest

end Frameworks

/-! ### Scripts without the steps that are not asked for -/

/-- If the texts are read by a language, the same texts are the same lines of tokens. -/
lemma map_lineTokens_eq {V : Voice} (hV : V.Sound) (htag : V.language.hasClosingTag = false) (hopening : V.opening = [])
    {o : Options} (m m' : Material) (heq : V.dialect.scriptFor o m = V.dialect.scriptFor o m') :
    (V.dialect.linesFor o m).map V.dialect.spelling.lineTokens =
      (V.dialect.linesFor o m').map V.dialect.spelling.lineTokens := by
  obtain ⟨lines, hread⟩ := hV.isRead (o := o) (m := m) fun _ _ => not_closes htag
  obtain ⟨lines', hread'⟩ := hV.isRead (o := o) (m := m') fun _ _ => not_closes htag
  have hlines : lines = lines' := Option.some.inj (hread.read.symm.trans ((congrArg _ heq).trans hread'.read))
  have hwritten := hread.written
  have hwritten' := hread'.written
  rw [hopening, List.length_nil, List.drop_zero] at hwritten hwritten'
  rw [← hwritten, ← hwritten', hlines]

section Unseen

variable {o : Options} {chosen : Step → Bool} {steps : List Step}

/-- Where pauses stand out, the lines are the same without hidden steps exactly where these leave no trace. -/
lemma Dialect.PausesStandOut.unseen_iff {d : Dialect} {γ : Type} {f : Line → γ} {isPause : γ → Bool} {spare : List Line}
    (h : d.PausesStandOut f isPause spare) :
    (d.stepsScript o steps = d.stepsScript o (kept o chosen steps) ↔ LeavesNoTrace o chosen steps) ∧
      (LeavesNoTrace o chosen steps → d.generateRecording o steps = d.generateRecording o (kept o chosen steps)) :=
  ⟨⟨fun heq => h.leavesNoTrace (congrArg _ heq), fun hno => (stepsScript_kept d hno).symm⟩,
    fun hno => congrArg d.spelling.render (stepsScript_kept d hno).symm⟩

/-- Where a script can be read, its text is the same without hidden steps exactly where these leave no trace. -/
lemma Voice.Sound.unseen_iff {V : Voice} {isPause : List Token → Bool} {spare : List Line} (hV : V.Sound)
    (htag : V.language.hasClosingTag = false) (hopening : V.opening = []) (o : Options) (chosen : Step → Bool)
    (steps : List Step) (h : V.dialect.PausesStandOut V.dialect.spelling.lineTokens isPause spare) :
    V.dialect.generateRecording o steps = V.dialect.generateRecording o (kept o chosen steps) ↔
      LeavesNoTrace o chosen steps := by
  constructor
  · intro heq
    exact h.leavesNoTrace (map_lineTokens_eq hV htag hopening (.steps steps) (.steps (kept o chosen steps)) heq)
  · exact h.unseen_iff.2

end Unseen

/-- **When steps that are not asked for are invisible.**  For all options, steps and choices among the hidden ones, and in
every framework, the script has the same lines as the script without the chosen steps, and then the same text, exactly
where these leave no trace: where of each other step it is told the same, that it is written and which pause before it,
behind its neighbour as behind the last step that is kept.  Where a text is read in one way only, it is the same in no
other case. -/
theorem hidden_steps_unseen_iff (o : Options) (chosen : Step → Bool) (steps : List Step) :
    (∀ d ∈ dialects, (d.stepsScript o steps = d.stepsScript o (kept o chosen steps) ↔ LeavesNoTrace o chosen steps) ∧
      (LeavesNoTrace o chosen steps → d.generateRecording o steps = d.generateRecording o (kept o chosen steps))) ∧
    ∀ d ∈ [playwright, cypress, pytest],
      d.generateRecording o steps = d.generateRecording o (kept o chosen steps) ↔ LeavesNoTrace o chosen steps := by
  have hplaywright := playwrightVoice_sound.unseen_iff rfl rfl o chosen steps Playwright.pauses_standOut
  have hcypress := cypressVoice_sound.unseen_iff rfl rfl o chosen steps Cypress.pauses_standOut
  have hpytest := pytestVoice_sound.unseen_iff rfl rfl o chosen steps Pytest.pauses_standOut
  constructor
  · simp only [dialects, List.forall_mem_cons]
    exact ⟨Playwright.pauses_standOut.unseen_iff, Cypress.pauses_standOut.unseen_iff, Pest.pauses_standOut.unseen_iff,
      Pytest.pauses_standOut.unseen_iff, nofun⟩
  · simp only [List.forall_mem_cons]
    exact ⟨hplaywright, hcypress, hpytest, nofun⟩

/-- A field is filled, and the page is scrolled on the way to the button. -/
def scrolledOnTheWay : List Step := [{ kind := .fill, timestamp := 0, selector := some "#name", value := some "Ada" },
  { kind := .scroll, timestamp := 500 }, { kind := .click, timestamp := 900, selector := some "#save" }]

/-- The scroll leaves no trace, and all scripts are the same without it. -/
theorem scrolledOnTheWay_unseen : LeavesNoTrace {} (·.kind == .scroll) scrolledOnTheWay ∧
    kept {} (·.kind == .scroll) scrolledOnTheWay ≠ scrolledOnTheWay ∧
    ∀ d ∈ dialects, d.generateRecording {} scrolledOnTheWay =
      d.generateRecording {} (kept {} (·.kind == .scroll) scrolledOnTheWay) := by
  have hno : LeavesNoTrace {} (·.kind == .scroll) scrolledOnTheWay := (outline_kept_iff _ _ _).1 (by decide)
  exact ⟨hno, by decide, fun d hd => ((hidden_steps_unseen_iff {} (·.kind == .scroll) scrolledOnTheWay).1 d hd).2 hno⟩

/-- After a second and a half the page is scrolled, and then clicked on. -/
def scrolledInBetween : List Step := [{ kind := .click, timestamp := 0, selector := some "#a" },
  { kind := .scroll, timestamp := 1500 }, { kind := .click, timestamp := 1600, selector := some "#b" }]

/-- No script has a pause, though none of the steps is near the one before, and without the scroll each has one. -/
theorem idling_unpaused : kept {} (·.kind == .scroll) scrolledInBetween = scrolledInBetween.filter (·.kind != .scroll) ∧
    ∀ d ∈ dialects, d.generateRecording {} scrolledInBetween ≠
      d.generateRecording {} (kept {} (·.kind == .scroll) scrolledInBetween) := by
  have htrace : ¬ LeavesNoTrace {} (·.kind == .scroll) scrolledInBetween := fun hno =>
    absurd ((outline_kept_iff _ _ _).2 hno) (by decide)
  have hpest : pest.generateRecording {} scrolledInBetween ≠
      pest.generateRecording {} (kept {} (·.kind == .scroll) scrolledInBetween) := by decide +kernel
  refine ⟨by decide, ?_⟩
  simp only [dialects, List.forall_mem_cons]
  exact ⟨mt (playwrightVoice_sound.unseen_iff rfl rfl _ _ _ Playwright.pauses_standOut).1 htrace,
    mt (cypressVoice_sound.unseen_iff rfl rfl _ _ _ Cypress.pauses_standOut).1 htrace, hpest,
    mt (pytestVoice_sound.unseen_iff rfl rfl _ _ _ Pytest.pauses_standOut).1 htrace, nofun⟩

end PageTape.Script
