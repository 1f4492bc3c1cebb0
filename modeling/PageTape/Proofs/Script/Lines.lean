import Mathlib.Data.List.Infix
import PageTape.Proofs.Script.Spelled

/-!
# Lines are read back piece by piece

A language reads a line as its pieces say (`Spelling.tokens`) where these fit it (`fits`): program text holds nothing
that the language reads as something else, a literal touches no name and no literal before it, and what a remark holds
stays on its line.  The one thing that may then go wrong is a remark that ends the program, and then nothing is read
(`Spelling.Suits.read_render`).
-/

namespace PageTape.Script

variable {L : Language} {lines : List (List Token)} {line : List Token} {ps qs : List Piece} {l : Line} {ls : List Line}
  {t u : String} {o : Bool}

/-! ### What a line is read as -/

namespace Spelling

variable (sp : Spelling)

/-- The tokens of a line before its remark. -/
def said : List Piece → List Token
  | [] => []
  | .code t :: rest => t.toList.map .code ++ said rest
  | .literal s :: rest => .literal s :: said rest
  | .key k :: rest => .literal (sp.keyText k) :: said rest
  | .remark :: _ => []
  | .prose _ :: rest => said rest

/-- What the pieces of a remark say. -/
def remarkText (ps : List Piece) : String := String.join (ps.map sp.piece)

/-- The remark at the end of a line. -/
def remark? : List Piece → Option String
  | [] => none
  | .remark :: rest => some (sp.remarkText rest)
  | _ :: rest => remark? rest

/-- **The tokens of pieces**. -/
def tokens (ps : List Piece) : List Token := sp.said ps ++ ((sp.remark? ps).map .remark).toList

/-- The tokens of a line with its margin. -/
def lineTokens (l : Line) : List Token := l.margin.toList.map .code ++ sp.tokens l.pieces

/-- The remark of a line ends the program. -/
def EndsIn (L : Language) (l : Line) : Prop := ∃ t, sp.remark? l.pieces = some t ∧ L.Closes t

lemma render_cons : (sp.render (l :: ls)).toList = ((sp.line l).toList ++ ['\n']) ++ (sp.render ls).toList := by
  simp [render]

lemma remarkText_cons (p : Piece) (ps : List Piece) :
    (sp.remarkText (p :: ps)).toList = (sp.piece p).toList ++ (sp.remarkText ps).toList := by
  simp [remarkText]

lemma line_eq (l : Line) : sp.line l = sp.remarkText (.code l.margin :: l.pieces) := by
  rw [← String.toList_inj]
  simp [remarkText, line, piece]

end Spelling

/-! ### What fits a language -/

/-- A piece of a remark that stays on its line. -/
def isFlat (L : Language) : Piece → Bool
  | .code t => t.toList.all (!L.breaks.contains ·)
  | .literal _ => !L.spansLines
  | .prose _ | .remark => true
  | .key _ => false

/-- **Pieces fit a language** behind a place where a literal may open or not. -/
def fits (L : Language) : Bool → List Piece → Bool
  | _, [] => true
  | o, .code t :: rest => t.toList.all L.isPlain &&
    fits L (match t.toList.getLast? with | some c => opensLiteral (some (.code c)) | none => o) rest
  | o, .literal _ :: rest => o && fits L false rest
  | o, .key _ :: rest => o && fits L false rest
  | _, .remark :: rest => rest.all (isFlat L)
  | _, .prose _ :: _ => false

/-- A line fits a language. -/
def Line.fits (L : Language) (l : Line) : Bool := Script.fits L true (.code l.margin :: l.pieces)

/-! ### Reading on -/

namespace Spelling.Suits

variable {sp : Spelling} (h : sp.Suits L)
include h

/-- A literal is read as what the characters between its quotes are read as. -/
lemma run_literal {cs text : List Char} (ho : opensLiteral line.getLast? = true)
    (hrun : L.run ⟨lines, line, .literal []⟩ cs = some ⟨lines, line, .literal text⟩) :
    L.run ⟨lines, line, .code⟩ (quote :: cs ++ [quote]) =
      some ⟨lines, line ++ [.literal (String.ofList text)], .code⟩ := by
  have hbegin : L.step ⟨lines, line, .code⟩ quote = some ⟨lines, line, .literal []⟩ := by
    simp [Language.step_code, h.mark_ne.2.2, ho]
  have hend : L.step ⟨lines, line, .literal text⟩ quote =
      some ⟨lines, line ++ [.literal (String.ofList text)], .code⟩ := by
    simp [Language.step_literal]
  rw [List.cons_append, Language.run_cons, hbegin, Option.bind_some, Language.run_append_of hrun, Language.run_cons,
    hend, Option.bind_some, Language.run_nil]

/-- The mark begins a remark. -/
lemma run_mark : L.run ⟨lines, line, .code⟩ sp.mark.toList = some ⟨lines, line, .remark []⟩ := by
  obtain ⟨hquote, hbreak, -⟩ := h.mark_ne
  rw [h.mark]
  cases hdouble : L.isDouble <;> simp [Language.step_code, Language.step_mark, hquote, hbreak, hdouble]

/-- A piece of a remark holds no character that ends a line. -/
lemma flat_piece {p : Piece} (hp : isFlat L p = true) : ∀ c ∈ (sp.piece p).toList, c ∉ L.breaks := by
  intro c hc hmem
  cases p with
  | code t =>
    have hall := List.all_eq_true.1 hp c hc
    simp [hmem] at hall
  | literal s =>
    have hspans : L.spansLines = false := by simpa [isFlat] using hp
    have hc' : c = quote ∨ (∃ d ∈ s.toList, c ∈ sp.escape d) ∨ c = quote := by
      simpa [Spelling.piece, Spelling.literal] using hc
    rcases hc' with rfl | ⟨d, -, hd⟩ | rfl
    · exact h.mark_ne.2.2 hmem
    · exact h.flat hspans d c hd hmem
    · exact h.mark_ne.2.2 hmem
  | prose t =>
    have hc' : ∃ d ∈ t.toList, (if Text.isPrintable d then d else ' ') = c := by
      simpa [Spelling.piece, Text.printable] using hc
    obtain ⟨d, -, rfl⟩ := hc'
    have hprint := h.unprintable _ hmem
    split at hprint
    · simp_all
    · exact absurd hprint (by decide)
  | key k => cases hp
  | remark =>
    have hmark : c = L.mark := by
      simp only [Spelling.piece, h.mark, String.toList_ofList] at hc
      split at hc <;> simpa using hc
    exact h.mark_ne.2.1 (hmark ▸ hmem)

lemma flat_remarkText (hps : ps.all (isFlat L) = true) : ∀ c ∈ (sp.remarkText ps).toList, c ∉ L.breaks := by
  intro c hc
  have hc' : ∃ p ∈ ps, c ∈ (sp.piece p).toList := by
    simpa [Spelling.remarkText, String.toList_join] using hc
  obtain ⟨p, hp, hmem⟩ := hc'
  exact h.flat_piece (List.all_eq_true.1 hps p hp) c hmem

/-- Where literals stay on their line, no piece of a line that fits holds a character that ends a line. -/
lemma flat_pieces (hspans : L.spansLines = false) (hfits : fits L o ps = true) :
    ∀ c ∈ (sp.remarkText ps).toList, c ∉ L.breaks := by
  induction ps generalizing o with
  | nil => simp [Spelling.remarkText]
  | cons p rest ih =>
    rw [sp.remarkText_cons]
    cases p with
    | code t =>
      obtain ⟨hplain, hrest⟩ := (Bool.and_eq_true _ _).mp hfits
      refine List.forall_mem_append.2 ⟨fun c hc hmem => ?_, ih hrest⟩
      have hall := List.all_eq_true.1 hplain c hc
      simp [Language.isPlain, hmem] at hall
    | literal s =>
      have hrest := ((Bool.and_eq_true _ _).mp hfits).2
      exact List.forall_mem_append.2 ⟨h.flat_piece (by simp [isFlat, hspans]), ih hrest⟩
    | key k =>
      have hrest := ((Bool.and_eq_true _ _).mp hfits).2
      refine List.forall_mem_append.2 ⟨fun c hc hmem => ?_, ih hrest⟩
      have hcases : c = quote ∨ c = '\x7b' ∨ c ∈ Text.lowerFrom [] (k.toList.flatMap sp.escape) ∨ c = '\x7d' ∨ c = quote := by
        simpa [Spelling.piece, Text.lower, escaped] using hc
      rcases hcases with rfl | rfl | hlower | rfl | rfl
      · exact h.mark_ne.2.2 hmem
      · exact absurd (h.coded _ hmem) (by decide)
      · rcases mem_lowerFrom hlower with hescaped | hcoded
        · obtain ⟨d, -, hd⟩ := List.mem_flatMap.1 hescaped
          exact h.flat hspans d c hd hmem
        · exact hcoded (h.coded c hmem)
      · exact absurd (h.coded _ hmem) (by decide)
      · exact h.mark_ne.2.2 hmem
    | remark => exact List.forall_mem_append.2 ⟨h.flat_piece rfl, h.flat_remarkText hfits⟩
    | prose t => cases hfits

/-- Pieces are read up to their remark, and then there is the remark to read. -/
lemma run_pieces (hfits : fits L (opensLiteral line.getLast?) ps = true) :
    L.run ⟨lines, line, .code⟩ (sp.remarkText ps).toList = match sp.remark? ps with
      | some t => L.run ⟨lines, line ++ sp.said ps, .remark []⟩ t.toList
      | none => some ⟨lines, line ++ sp.said ps, .code⟩ := by
  induction ps generalizing line with
  | nil => simp [Spelling.remarkText, Spelling.remark?, Spelling.said]
  | cons p rest ih =>
    rw [sp.remarkText_cons]
    cases p with
    | code t =>
      obtain ⟨hplain, hrest⟩ := (Bool.and_eq_true _ _).mp hfits
      rw [Spelling.piece, Language.run_append_of (Language.run_plain hplain), ih]
      · simp [Spelling.remark?, Spelling.said]
      · rw [← hrest, List.getLast?_append, List.getLast?_map]
        cases t.toList.getLast? <;> rfl
    | literal s =>
      obtain ⟨ho, hrest⟩ := (Bool.and_eq_true _ _).mp hfits
      have hliteral : L.run ⟨lines, line, .code⟩ (sp.piece (.literal s)).toList =
          some ⟨lines, line ++ [.literal s], .code⟩ := by
        rw [Spelling.piece, Spelling.literal, String.toList_ofList, h.run_literal ho h.run_escaped, List.nil_append,
          String.ofList_toList]
      rw [Language.run_append_of hliteral, ih (by simpa [opensLiteral] using hrest)]
      simp [Spelling.remark?, Spelling.said]
    | key k =>
      obtain ⟨ho, hrest⟩ := (Bool.and_eq_true _ _).mp hfits
      have hbrace : ∀ (read : List Char) (c : Char), c = '\x7b' ∨ c = '\x7d' →
          L.run ⟨lines, line, .literal read⟩ [c] = some ⟨lines, line, .literal (read ++ [c])⟩ := by
        rintro read c hc
        refine h.run_uncoded ?_
        rcases hc with rfl | rfl <;> decide
      have hinside : L.run ⟨lines, line, .literal []⟩ (['\x7b'] ++
          ((Text.lower (escaped sp.escape k)).toList ++ ['\x7d'])) =
            some ⟨lines, line, .literal (sp.keyText k).toList⟩ := by
        rw [Language.run_append_of (hbrace [] _ (.inl rfl)), Text.lower, escaped, String.toList_ofList,
          String.toList_ofList, Language.run_append_of h.run_lowered, hbrace _ _ (.inr rfl)]
        simp [Spelling.keyText]
      have hkey : L.run ⟨lines, line, .code⟩ (sp.piece (.key k)).toList =
          some ⟨lines, line ++ [.literal (sp.keyText k)], .code⟩ := by
        have hliteral := h.run_literal ho hinside
        rw [String.ofList_toList] at hliteral
        rw [← hliteral, Spelling.piece, String.toList_ofList]
        simp only [List.cons_append, List.nil_append, List.append_assoc]
      rw [Language.run_append_of hkey, ih (by simpa [opensLiteral] using hrest)]
      simp [Spelling.remark?, Spelling.said]
    | remark =>
      rw [Spelling.piece, Language.run_append_of h.run_mark]
      simp [Spelling.remark?, Spelling.said]
    | prose t => cases hfits

/-- The remark at the end of a line that fits stays on it. -/
lemma flat_remark? (hfits : fits L o ps = true) (ht : sp.remark? ps = some t) : ∀ c ∈ t.toList, c ∉ L.breaks := by
  induction ps generalizing o with
  | nil => cases ht
  | cons p rest ih =>
    cases p with
    | code u => exact ih ((Bool.and_eq_true _ _).mp hfits).2 ht
    | literal s => exact ih ((Bool.and_eq_true _ _).mp hfits).2 ht
    | key k => exact ih ((Bool.and_eq_true _ _).mp hfits).2 ht
    | remark =>
      obtain rfl := Option.some.inj ht
      exact h.flat_remarkText hfits
    | prose u => cases hfits

/-- Where literals stay on their line, the text of a line holds no character that ends a line. -/
lemma flat_line (hspans : L.spansLines = false) (hfits : l.fits L = true) : ∀ c ∈ (sp.line l).toList, c ∉ L.breaks := by
  rw [sp.line_eq]
  exact h.flat_pieces hspans hfits

/-- A line with its margin is read up to its remark. -/
lemma run_text (hfits : l.fits L = true) :
    L.run ⟨lines, [], .code⟩ (sp.line l).toList = match sp.remark? l.pieces with
      | some t => L.run ⟨lines, l.margin.toList.map .code ++ sp.said l.pieces, .remark []⟩ t.toList
      | none => some ⟨lines, l.margin.toList.map .code ++ sp.said l.pieces, .code⟩ := by
  have hpieces : fits L (opensLiteral ([] : List Token).getLast?) (.code l.margin :: l.pieces) = true := hfits
  rw [sp.line_eq, h.run_pieces hpieces]
  rfl

/-- A line whose remark does not end the program is read as its tokens. -/
lemma run_line (hfits : l.fits L = true) (hends : ¬ sp.EndsIn L l) :
    L.run ⟨lines, [], .code⟩ ((sp.line l).toList ++ ['\n']) = some ⟨lines ++ [sp.lineTokens l], [], .code⟩ := by
  rw [Language.run_append, h.run_text hfits, Spelling.lineTokens, Spelling.tokens]
  cases hremark : sp.remark? l.pieces with
  | none => simp [Language.step_code, h.newline]
  | some t =>
    have hclose : ¬ L.Closes t := fun hclose => hends ⟨t, hremark, hclose⟩
    have hrun : L.run ⟨lines, l.margin.toList.map .code ++ sp.said l.pieces, .remark []⟩ t.toList = some
        ⟨lines, l.margin.toList.map .code ++ sp.said l.pieces, .remark t.toList⟩ :=
      Language.run_remark (h.flat_remark? hfits hremark) (by simpa using hclose)
    simp [hrun, Language.step_remark, h.newline]

/-- A line whose remark ends the program is not read. -/
lemma run_line_ends (hfits : l.fits L = true) (hends : sp.EndsIn L l) :
    L.run ⟨lines, [], .code⟩ ((sp.line l).toList ++ ['\n']) = none := by
  obtain ⟨t, hremark, htag, hclose⟩ := hends
  have hrun : L.run ⟨lines, l.margin.toList.map .code ++ sp.said l.pieces, .remark []⟩ t.toList = none :=
    Language.run_remark_closes (h.flat_remark? hfits hremark) htag hclose
  rw [Language.run_append, h.run_text hfits, hremark]
  simp [hrun]

/-- Lines are read as their tokens. -/
lemma run_render (hfits : ∀ l ∈ ls, l.fits L = true) (hends : ∀ l ∈ ls, ¬ sp.EndsIn L l) :
    L.run ⟨lines, [], .code⟩ (sp.render ls).toList = some ⟨lines ++ ls.map sp.lineTokens, [], .code⟩ := by
  induction ls generalizing lines with
  | nil => simp [Spelling.render]
  | cons l rest ih =>
    obtain ⟨hl, hrest⟩ := List.forall_mem_cons.1 hfits
    obtain ⟨hopen, hopens⟩ := List.forall_mem_cons.1 hends
    rw [sp.render_cons, Language.run_append_of (h.run_line hl hopen), ih hrest hopens]
    simp

/-- Lines are not read where a remark ends the program. -/
lemma run_render_ends (hfits : ∀ l ∈ ls, l.fits L = true) (hends : ∃ l ∈ ls, sp.EndsIn L l) :
    L.run ⟨lines, [], .code⟩ (sp.render ls).toList = none := by
  induction ls generalizing lines with
  | nil => simp at hends
  | cons l rest ih =>
    obtain ⟨hl, hrest⟩ := List.forall_mem_cons.1 hfits
    rw [sp.render_cons]
    by_cases hhead : sp.EndsIn L l
    · rw [Language.run_append, h.run_line_ends hl hhead, Option.bind_none]
    · have htail : ∃ l ∈ rest, sp.EndsIn L l := by simpa [hhead] using hends
      rw [Language.run_append_of (h.run_line hl hhead), ih hrest htail]

/-- **A script is read as its lines say, unless a remark ends the program.** -/
lemma read_render (hfits : ∀ l ∈ ls, l.fits L = true) (hends : ∀ l ∈ ls, ¬ sp.EndsIn L l) :
    L.read (String.ofList L.opening ++ sp.render ls) = some (ls.map sp.lineTokens) := by
  simp [Language.read, h.run_render hfits hends]

/-- A script is not read where a remark ends the program. -/
lemma read_render_ends (hfits : ∀ l ∈ ls, l.fits L = true) (hends : ∃ l ∈ ls, sp.EndsIn L l) :
    L.read (String.ofList L.opening ++ sp.render ls) = none := by
  simp [Language.read, h.run_render_ends hfits hends]

end Spelling.Suits

end PageTape.Script
