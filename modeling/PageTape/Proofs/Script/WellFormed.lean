import PageTape.Proofs.Script.Functions
import PageTape.Proofs.Script.Voice.Cypress
import PageTape.Proofs.Script.Voice.Pest
import PageTape.Proofs.Script.Voice.Playwright

/-!
# Scripts are well formed whatever text they hold

The scripts of the frameworks are read by their languages as they were written, line by line
(`scripts_well_formed`): selectors, values, addresses and keys come back from their literals as they are, and labels,
descriptions and statuses stay in their remarks.  For Pest this holds where no such remark holds a closing tag, and
otherwise the program ends in the remark (`pest_read_iff`).
-/

namespace PageTape.Script

open RecordingFile (Material)

/-! ### What is read in lines -/

/-- The text of a literal. -/
def Token.literal? : Token → Option String
  | .literal text => some text
  | _ => none

/-- The text of a remark. -/
def Token.remark? : Token → Option String
  | .remark text => some text
  | _ => none

/-- The texts of the literals in lines. -/
def literalsOf (lines : List (List Token)) : List String := lines.flatMap (·.filterMap Token.literal?)

/-- The texts of the remarks in lines. -/
def remarksOf (lines : List (List Token)) : List String := lines.flatMap (·.filterMap Token.remark?)

variable {sp : Spelling} {ps : List Piece} {ls : List Line} {cs : List Char}

lemma filterMap_code : (cs.map Token.code).filterMap Token.literal? = [] ∧
    (cs.map Token.code).filterMap Token.remark? = [] := by
  induction cs with
  | nil => exact ⟨rfl, rfl⟩
  | cons c rest ih => exact ih

lemma filterMap_said : (sp.said ps).filterMap Token.literal? = sp.quoted ps ∧
    (sp.said ps).filterMap Token.remark? = [] := by
  induction ps with
  | nil => exact ⟨rfl, rfl⟩
  | cons p rest ih =>
    cases p with
    | code t =>
      rw [Spelling.said, List.filterMap_append, List.filterMap_append, filterMap_code.1, filterMap_code.2]
      exact ih
    | literal s => exact ⟨congrArg (s :: ·) ih.1, ih.2⟩
    | key k => exact ⟨congrArg (sp.keyText k :: ·) ih.1, ih.2⟩
    | remark => exact ⟨rfl, rfl⟩
    | prose t => exact ih

lemma filterMap_lineTokens (l : Line) : (sp.lineTokens l).filterMap Token.literal? = sp.quoted l.pieces ∧
    (sp.lineTokens l).filterMap Token.remark? = (sp.remark? l.pieces).toList := by
  rw [Spelling.lineTokens, Spelling.tokens]
  simp only [List.filterMap_append, filterMap_code, filterMap_said, List.nil_append]
  cases sp.remark? l.pieces with
  | none => exact ⟨List.append_nil _, rfl⟩
  | some r => exact ⟨List.append_nil _, rfl⟩

lemma literalsOf_lineTokens : literalsOf (ls.map sp.lineTokens) = sp.literals ls := by
  rw [literalsOf, Spelling.literals, List.flatMap_map]
  simp only [filterMap_lineTokens]

lemma remarksOf_lineTokens : remarksOf (ls.map sp.lineTokens) = sp.remarks ls := by
  rw [remarksOf, Spelling.remarks, List.flatMap_map, List.filterMap_eq_flatMap_toList]
  simp only [filterMap_lineTokens]

/-! ### Scripts -/

namespace Voice

variable (V : Voice) (o : Options) (m : Material)

/-- **A script is read as it was written**: the lines are those that were written, each with its literals and its
remark, the literals are the texts that the script must quote, and the remarks tell what they must. -/
structure IsRead (lines : List (List Token)) : Prop where
  read : V.language.read (V.dialect.scriptFor o m) = some lines
  written : lines = ((V.dialect.linesFor o m).drop V.opening.length).map V.dialect.spelling.lineTokens
  literals : Told (· ∈ V.own) Eq (V.scriptTexts o m) (literalsOf lines)
  remarks : Told (fun r => ¬ V.language.Closes r) V.Tells (scriptRemarks o m) (remarksOf lines)

/-- No line that is written holds a character that ends a line in the language. -/
def StaysOnLines : Prop :=
  ∀ l ∈ V.dialect.linesFor o m, ∀ c ∈ (V.dialect.spelling.line l).toList, c ∉ V.language.breaks

variable {V o m}

lemma Tells.closes_iff {text remark : String} (h : V.Tells text remark) :
    V.language.Closes text ↔ V.language.Closes remark := by
  constructor
  · rintro ⟨htag, hclose⟩
    exact ⟨htag, hclose.trans h.1⟩
  · intro hclose
    exact ⟨hclose.1, h.2 hclose⟩

/-- The remark of a line ends the program where a text does that a remark must tell. -/
lemma Says.closes_iff {texts told : List String} (h : V.Says texts told ls) :
    (∃ l ∈ ls, V.dialect.spelling.EndsIn V.language l) ↔ ∃ text ∈ told, V.language.Closes text := by
  have htold := h.remarks.exists_iff (fun _ hown => hown) fun _ _ htells => htells.closes_iff
  rw [htold]
  constructor
  · rintro ⟨l, hl, r, hr, hclose⟩
    exact ⟨r, List.mem_filterMap.2 ⟨l, hl, hr⟩, hclose⟩
  · rintro ⟨r, hr, hclose⟩
    obtain ⟨l, hl, hremark⟩ := List.mem_filterMap.1 hr
    exact ⟨l, hl, r, hremark, hclose⟩

namespace Sound

variable (hV : V.Sound)
include hV

lemma script_eq {ls : List Line} (hls : V.dialect.linesFor o m = V.opening ++ ls) :
    V.dialect.scriptFor o m = String.ofList V.language.opening ++ V.dialect.spelling.render ls := by
  rw [Dialect.scriptFor_eq, hls, ← hV.opening, ← String.toList_inj]
  simp [Spelling.render]

/-- A script is read as it was written if nothing that its remarks tell ends the program. -/
lemma isRead (hopen : ∀ text ∈ scriptRemarks o m, ¬ V.language.Closes text) : ∃ lines, V.IsRead o m lines := by
  obtain ⟨ls, hls, hspoken⟩ := hV.says_script o m
  have hends : ∀ l ∈ ls, ¬ V.dialect.spelling.EndsIn V.language l := by
    intro l hl hends
    obtain ⟨text, htext, hclose⟩ := hspoken.closes_iff.1 ⟨l, hl, hends⟩
    exact hopen text htext hclose
  refine ⟨ls.map V.dialect.spelling.lineTokens, ?_, ?_, ?_, ?_⟩
  · rw [hV.script_eq hls]
    exact hV.suits.read_render hspoken.fits hends
  · rw [hls, List.drop_left]
  · rw [literalsOf_lineTokens]
    exact hspoken.literals
  · rw [remarksOf_lineTokens]
    exact hspoken.remarks

/-- A script is not read where a remark tells a text that ends the program. -/
lemma read_eq_none (hclose : ∃ text ∈ scriptRemarks o m, V.language.Closes text) :
    V.language.read (V.dialect.scriptFor o m) = none := by
  obtain ⟨ls, hls, hspoken⟩ := hV.says_script o m
  rw [hV.script_eq hls]
  exact hV.suits.read_render_ends hspoken.fits (hspoken.closes_iff.2 hclose)

/-- Where literals stay on their line and there is no opening, so does all of a line. -/
lemma staysOnLines (hspans : V.language.spansLines = false) (hopening : V.opening = []) : V.StaysOnLines o m := by
  obtain ⟨ls, hls, hspoken⟩ := hV.says_script o m
  intro l hl
  rw [hls, hopening, List.nil_append] at hl
  exact hV.suits.flat_line hspans (hspoken.fits l hl)

end Sound

end Voice

/-- **Generated scripts stay well formed for arbitrary text.**  For all options and all steps or actions the scripts for
Playwright, with or without objects for the actions, for Cypress and for Playwright for Python are read by their
languages line by line as they were written: no line holds a character that would end it, every literal has the text
that it was made from, and what remarks tell stays in them.  In Python the functions are the tests, their names are
identifiers, and each has a line that does something. -/
theorem scripts_well_formed (o : Options) (m : Material) :
    ((∃ lines, playwrightVoice.IsRead o m lines) ∧ playwrightVoice.StaysOnLines o m) ∧
    ((∃ lines, cypressVoice.IsRead o m lines) ∧ cypressVoice.StaysOnLines o m) ∧
    (∃ lines, pytestVoice.IsRead o m lines ∧
      (functionsOf lines).map (·.1) = (Pytest.functionName o.testName).toList ::
        (if o.includeNegativeTest && !(requiredOf (actionsOf m)).isEmpty then
          [(Pytest.functionName negativeTestName).toList] else []) ∧
      ∀ f ∈ functionsOf lines, isIdentifier f.1 = true ∧ f.2.any isActive = true) ∧
    pytestVoice.StaysOnLines o m := by
  have hopen : ∀ L : Language, L.hasClosingTag = false → ∀ text ∈ scriptRemarks o m, ¬ L.Closes text :=
    fun L htag _ _ => not_closes htag
  have hplaywright := playwrightVoice_sound.isRead (hopen javaScript rfl)
  have hcypress := cypressVoice_sound.isRead (hopen javaScript rfl)
  obtain ⟨lines, hread⟩ := pytestVoice_sound.isRead (hopen python rfl)
  refine ⟨⟨hplaywright, playwrightVoice_sound.staysOnLines rfl rfl⟩,
    ⟨hcypress, cypressVoice_sound.staysOnLines rfl rfl⟩, ⟨lines, hread, ?_⟩, pytestVoice_sound.staysOnLines rfl rfl⟩
  have hlines : lines = (pytest.linesFor o m).map pytest.spelling.lineTokens := hread.written
  obtain ⟨hnames, hactive⟩ := Pytest.functionsOf_script o m
  rw [← hlines] at hnames hactive
  refine ⟨hnames, fun f hf => ⟨?_, hactive f hf⟩⟩
  have hname : f.1 ∈ (functionsOf lines).map (·.1) := List.mem_map_of_mem hf
  rw [hnames, List.mem_cons] at hname
  rcases hname with hname | hname
  · rw [hname]
    exact isIdentifier_functionName o.testName
  · split at hname
    · rw [List.mem_singleton.1 hname]
      exact isIdentifier_functionName negativeTestName
    · cases hname

/-- A key is read in lower case and between braces, but for the form of a sigma, which the escapes of its neighbours
may change. -/
lemma keyText_lower (sp : Spelling) (key : String) : (sp.keyText key).toList.map plainSigma =
    ('\x7b' :: (Text.lower key).toList ++ ['\x7d']).map plainSigma := by
  simp only [Spelling.keyText, Text.lower, String.toList_ofList, List.map_cons, List.map_append, List.cons_append,
    map_lowerSpelled sp.escape []]

/-- **A Pest script is read as it was written exactly where no label, description or status in its remarks holds a
closing tag**, and is not read at all otherwise: there the program ends in the remark. -/
theorem pest_read_iff (o : Options) (m : Material) :
    ((∃ lines, pestVoice.IsRead o m lines) ↔ ∀ text ∈ scriptRemarks o m, ¬ ['?', '>'] <:+: text.toList) ∧
    (php.read (pest.scriptFor o m) = none ↔ ∃ text ∈ scriptRemarks o m, ['?', '>'] <:+: text.toList) ∧
    ∀ key, (pest.spelling.keyText key).toList.map plainSigma =
      ('\x7b' :: (Text.lower key).toList ++ ['\x7d']).map plainSigma := by
  have hcloses : ∀ text : String, php.Closes text ↔ ['?', '>'] <:+: text.toList := fun text =>
    ⟨fun hclose => hclose.2, fun hclose => ⟨rfl, hclose⟩⟩
  have hread : (∀ text ∈ scriptRemarks o m, ¬ ['?', '>'] <:+: text.toList) → ∃ lines, pestVoice.IsRead o m lines :=
    fun hopen => pestVoice_sound.isRead fun text htext hclose => hopen text htext ((hcloses text).1 hclose)
  have hnone : (∃ text ∈ scriptRemarks o m, ['?', '>'] <:+: text.toList) → php.read (pest.scriptFor o m) = none := by
    rintro ⟨text, htext, hclose⟩
    exact pestVoice_sound.read_eq_none ⟨text, htext, (hcloses text).2 hclose⟩
  have hexclusive : ∀ lines, pestVoice.IsRead o m lines → php.read (pest.scriptFor o m) ≠ none := by
    intro lines hlines heq
    have hsome : php.read (pest.scriptFor o m) = some lines := hlines.read
    rw [hsome] at heq
    cases heq
  refine ⟨⟨?_, hread⟩, ⟨?_, hnone⟩, keyText_lower pest.spelling⟩
  · rintro ⟨lines, hlines⟩ text htext hclose
    exact hexclusive lines hlines (hnone ⟨text, htext, hclose⟩)
  · intro heq
    by_contra hopen
    obtain ⟨lines, hlines⟩ := hread fun text htext hclose => hopen ⟨text, htext, hclose⟩
    exact hexclusive lines hlines heq

/-- A field is filled whose label holds a closing tag. -/
def taggedAction : Action := { selector := "#a", value := "x", kind := .fill, label := some "Next ?> page" }

/-- The label does not stay in its remark, and the program ends before its last statement. -/
theorem tagged_label_not_read : php.read (pest.scriptFor {} (.actions [taggedAction])) = none ∧
    ¬ ∃ lines, pestVoice.IsRead {} (.actions [taggedAction]) lines := by
  have hnone : php.read (pest.scriptFor {} (.actions [taggedAction])) = none :=
    pestVoice_sound.read_eq_none ⟨"Next ?> page", by decide +kernel, rfl, by decide +kernel⟩
  refine ⟨hnone, ?_⟩
  rintro ⟨lines, hlines⟩
  have hsome : php.read (pest.scriptFor {} (.actions [taggedAction])) = some lines := hlines.read
  rw [hnone] at hsome
  cases hsome

end PageTape.Script
