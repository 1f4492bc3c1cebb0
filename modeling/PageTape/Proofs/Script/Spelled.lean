import Mathlib.Data.Char
import Mathlib.Data.List.Basic
import PageTape.Proofs.Script.Reading

/-!
# Literals are read as the texts that they were made from

Of the two escapes, that for one line writes a character by itself, behind a backslash or by its code (`IsCoded`), and
no character that ends a line is written by itself; the raw one marks the quote and the backslash only.  Either is read
back character by character where the language has its escapes (`Spelling.Suits.run_escaped`), so that the language
undoes it (`escaped_undone`).  The name of a key is put in lower case after it has been escaped; it is read back as its
lower case too, a capital sigma apart, whose form depends on its neighbours as they are written
(`Spelling.Suits.run_lowered`, `map_lowerSpelled`).
-/

namespace PageTape.Script

open Html (hexValue? char?)
open Text (lowerChar lowerFrom nextHasCase)

variable {c d : Char} {cs ds read before : List Char} {lines : List (List Token)} {line : List Token} {L : Language}

/-! ### Characters -/

/-- A character that is written behind a backslash or by its code, so that a literal stays on its line. -/
def IsCoded (c : Char) : Prop :=
  c = '\\' ∨ c = quote ∨ c.toNat < 0x20 ∨ (0x7F ≤ c.toNat ∧ c.toNat < 0xA0) ∨ c.toNat = 0x2028 ∨ c.toNat = 0x2029

instance : DecidablePred IsCoded := fun c => by unfold IsCoded; infer_instance

lemma lineEscape_of_not (h : ¬ IsCoded c) : lineEscape c = [c] := by
  simp only [IsCoded, not_or, not_and, not_lt] at h
  obtain ⟨hslash, hquote, hlow, hhigh, h8, h9⟩ := h
  have hn : ∀ e : Char, e.toNat < 0x20 → c ≠ e := fun e he heq => by rw [heq] at hlow; omega
  unfold lineEscape
  simp only [hslash, hquote, hn '\n' (by decide), hn '\r' (by decide), hn '\t' (by decide), h8, h9, beq_iff_eq,
    Bool.or_eq_true, decide_eq_true_eq, Bool.and_eq_true, or_self, if_false]
  rw [if_neg (by omega)]

lemma rawEscape_of_not (h : ¬ IsCoded c) : rawEscape c = [c] := by
  simp only [IsCoded, not_or] at h
  simp [rawEscape, h.1, h.2.1]

/-- A property of all characters that are coded is one of some 160 characters. -/
lemma IsCoded.induction {P : Char → Prop} (h : IsCoded c)
    (hlow : ∀ n < 0xA0, IsCoded (Char.ofNat n) → P (Char.ofNat n))
    (h8 : P (Char.ofNat 0x2028)) (h9 : P (Char.ofNat 0x2029)) : P c := by
  have hc : c = Char.ofNat c.toNat := (Char.ofNat_toNat c).symm
  by_cases hn : c.toNat < 0xA0
  · rw [hc] at h ⊢
    exact hlow _ hn h
  · have hne : ∀ e : Char, e.toNat < 0xA0 → c ≠ e := fun e he heq => hn (heq ▸ he)
    rcases h with rfl | rfl | h | h | h | h
    · exact absurd rfl (hne '\\' (by decide))
    · exact absurd rfl (hne quote (by decide))
    · omega
    · omega
    · rw [hc, h]
      exact h8
    · rw [hc, h]
      exact h9

/-- A character whose lower case is itself. -/
def IsSteady (c : Char) : Prop := c ≠ 'Σ' ∧ lowerChar c = [c]

instance : DecidablePred IsSteady := fun c => by unfold IsSteady; infer_instance

/-- Between the letters of ASCII and those behind the controls lower case changes nothing. -/
lemma lowerChar_between (hlow : 0x80 ≤ c.toNat) (hhigh : c.toNat < 0xA0) : lowerChar c = [c] := by
  have hall : ∀ r ∈ Text.lowerRuns, r.2.1 < 0x80 ∨ 0xA0 ≤ r.1 := by decide +kernel
  have hruns : Text.lowerRuns.map? c.toNat = none := by
    refine Option.map_eq_none_iff.2 (List.find?_eq_none.2 fun r hr => ?_)
    simp only [Bool.and_eq_true, decide_eq_true_eq]
    have hr := hall r hr
    omega
  have hspecials : Text.lowerSpecials.lookup c.toNat = none := by
    have hne : (c.toNat == 304) = false := by
      rw [beq_eq_false_iff_ne]
      omega
    rw [Text.lowerSpecials, List.lookup_cons, hne]
    rfl
  rw [lowerChar, if_neg (by omega), hspecials, hruns]
  rfl

lemma IsCoded.steady (h : IsCoded c) : IsSteady c ∧ ∀ d ∈ lineEscape c, IsSteady d := by
  have hascii : ∀ n < 0x80, IsCoded (Char.ofNat n) → IsSteady (Char.ofNat n) := by decide +kernel
  constructor
  · refine h.induction (P := IsSteady) (fun n hn hcoded => ?_) (by decide +kernel) (by decide +kernel)
    rcases lt_or_ge n 0x80 with hlow | hhigh
    · exact hascii n hlow hcoded
    · have hcode : (Char.ofNat n).toNat = n := by
        rw [Char.ofNat, dif_pos (.inl (by omega))]
        rfl
      have hsigma : Char.ofNat n ≠ 'Σ' := fun heq => by
        have hcodes := congrArg Char.toNat heq
        rw [hcode] at hcodes
        subst hcodes
        exact absurd hn (by decide)
      exact ⟨hsigma, lowerChar_between (by omega) (by omega)⟩
  · exact h.induction (P := fun c => ∀ d ∈ lineEscape c, IsSteady d) (by decide +kernel) (by decide +kernel)
      (by decide +kernel)

/-- All codes that a run of characters is mapped to are codes of characters that are not coded. -/
def runsToPlain (r : Nat × Nat × Nat × Int) : Bool :=
  let low := r.1 + r.2.2.2
  let high := r.2.1 + r.2.2.2
  0x60 < low && (high < 0x7F || 0xA0 ≤ low) && (high < 0x2028 || 0x2029 < low)
    && (high < 0xD800 || (0xDFFF < low && high < 0x110000))

lemma not_isCoded_of_run {r : Nat × Nat × Nat × Int} (h : runsToPlain r = true) {n : Nat} (hlow : r.1 ≤ n)
    (hhigh : n ≤ r.2.1) : ¬ IsCoded (Char.ofNat (Int.ofNat n + r.2.2.2).toNat) := by
  simp only [runsToPlain, Bool.and_eq_true, Bool.or_eq_true, decide_eq_true_eq] at h
  obtain ⟨⟨⟨hfrom, hcontrols⟩, hseparators⟩, hvalid⟩ := h
  generalize hcode : (Int.ofNat n + r.2.2.2).toNat = code
  rw [Int.ofNat_eq_natCast] at hcode
  have hnat : (Char.ofNat code).toNat = code := by
    have : code.isValidChar := by unfold Nat.isValidChar; omega
    rw [Char.ofNat, dif_pos this]
    rfl
  have hne : ∀ e : Char, e.toNat ≤ 0x60 → Char.ofNat code ≠ e := fun e he heq => by
    rw [← heq, hnat] at he
    omega
  have hslash := hne '\\' (by decide)
  have hquote := hne quote (by decide)
  simp only [IsCoded, hnat, hslash, hquote, false_or]
  omega

/-- The lower case of a character is itself or a character that is not coded. -/
lemma lowerChar_cases (h : d ∈ lowerChar c) : d = c ∨ ¬ IsCoded d := by
  by_cases hn : c.toNat < 128
  · have hall : ∀ n < 128, ∀ d ∈ lowerChar (Char.ofNat n), d = Char.ofNat n ∨ ¬ IsCoded d := by decide +kernel
    have hc := hall c.toNat hn
    rw [Char.ofNat_toNat] at hc
    exact hc d h
  · unfold lowerChar at h
    rw [if_neg hn] at h
    cases hspecial : Text.lowerSpecials.lookup c.toNat with
    | some codes =>
      have hall : ∀ x ∈ Text.lowerSpecials, ∀ d ∈ x.2.map Char.ofNat, ¬ IsCoded d := by decide +kernel
      obtain ⟨before, rest, heq, -⟩ := List.lookup_eq_some_iff.1 hspecial
      rw [hspecial] at h
      exact .inr (hall (c.toNat, codes) (by rw [heq]; simp) d h)
    | none =>
      rw [hspecial] at h
      obtain rfl := List.mem_singleton.1 h
      cases hrun : Text.lowerRuns.map? c.toNat with
      | none => exact .inl rfl
      | some code =>
        have hall : Text.lowerRuns.all runsToPlain = true := by decide +kernel
        obtain ⟨r, hr, rfl⟩ := Option.map_eq_some_iff.1 hrun
        have hin := List.find?_some hr
        simp only [Bool.and_eq_true, decide_eq_true_eq] at hin
        exact .inr (not_isCoded_of_run (List.all_eq_true.1 hall r (List.mem_of_find?_eq_some hr)) hin.1.1 hin.1.2)

/-! ### What is read back -/

/-- The digits of a code are read as its character. -/
lemma run_digits {value code : Nat} (hds : ds ≠ [])
    (hvalue : ds.foldlM (fun value d => (hexValue? d).map (value * 16 + ·)) value = some code)
    (hchar : char? code = some c) : L.run ⟨lines, line, .digits read ds.length value⟩ ds =
      some ⟨lines, line, .literal (read ++ [c])⟩ := by
  induction ds generalizing value with
  | nil => exact absurd rfl hds
  | cons d rest ih =>
    rw [List.foldlM_cons] at hvalue
    obtain ⟨next, hnext, hrest⟩ := Option.bind_eq_some_iff.1 hvalue
    obtain ⟨digit, hdigit, rfl⟩ := Option.map_eq_some_iff.1 hnext
    cases rest with
    | nil =>
      obtain rfl : value * 16 + digit = code := Option.some.inj hrest
      simp [Language.step, hdigit, hchar]
    | cons e more =>
      have hstep : L.step ⟨lines, line, .digits read (d :: e :: more).length value⟩ d =
          some ⟨lines, line, .digits read (e :: more).length (value * 16 + digit)⟩ := by
        simp [Language.step, hdigit]
      rw [Language.run_cons, hstep, Option.bind_some]
      exact ih (by simp) hrest

/-- The digits that a code is written in have its value. -/
lemma hex_value (width : Nat) {n : Nat} (hwidth : (width = 2 ∧ n < 0xA0) ∨ (width = 4 ∧ (n = 0x2028 ∨ n = 0x2029))) :
    (Text.hex width n).length = width ∧
      (Text.hex width n).foldlM (fun value d => (hexValue? d).map (value * 16 + ·)) 0 = some n := by
  rcases hwidth with ⟨rfl, hn⟩ | ⟨rfl, rfl | rfl⟩
  · have hall : ∀ n < 0xA0, (Text.hex 2 n).length = 2 ∧
        (Text.hex 2 n).foldlM (fun value d => (hexValue? d).map (value * 16 + ·)) 0 = some n := by decide +kernel
    exact hall n hn
  · decide +kernel
  · decide +kernel

lemma char?_toNat (c : Char) : char? c.toNat = some c := dif_pos c.valid

/-- **How a character is written for one line**: behind a backslash, by its code, or as it is where it is not coded. -/
lemma lineEscape_cases (c : Char) : (∃ x, lineEscape c = ['\\', x] ∧ sharedEscape x = some (.char c)) ∨
    (∃ x width, lineEscape c = '\\' :: x :: Text.hex width c.toNat ∧ sharedEscape x = some (.code width) ∧
      ((width = 2 ∧ c.toNat < 0xA0) ∨ (width = 4 ∧ (c.toNat = 0x2028 ∨ c.toNat = 0x2029)))) ∨
    (¬ IsCoded c ∧ lineEscape c = [c]) := by
  by_cases hmark : (c == '\\' || c == quote) = true
  · exact .inl ⟨c, if_pos hmark, if_pos hmark⟩
  have hrest : lineEscape c = if c == '\n' then ['\\', 'n'] else if c == '\r' then ['\\', 'r']
      else if c == '\t' then ['\\', 't']
      else if c.toNat < 0x20 || (0x7F ≤ c.toNat && c.toNat < 0xA0) then '\\' :: 'x' :: Text.hex 2 c.toNat
      else if c.toNat == 0x2028 || c.toNat == 0x2029 then '\\' :: 'u' :: Text.hex 4 c.toNat else [c] := if_neg hmark
  by_cases hfeed : c = '\n'
  · subst hfeed
    exact .inl ⟨'n', rfl, rfl⟩
  by_cases hreturn : c = '\r'
  · subst hreturn
    exact .inl ⟨'r', rfl, rfl⟩
  by_cases htab : c = '\t'
  · subst htab
    exact .inl ⟨'t', rfl, rfl⟩
  rw [if_neg (by simpa using hfeed), if_neg (by simpa using hreturn), if_neg (by simpa using htab)] at hrest
  by_cases hlow : (c.toNat < 0x20 || (0x7F ≤ c.toNat && c.toNat < 0xA0)) = true
  · rw [if_pos hlow] at hrest
    simp only [Bool.or_eq_true, Bool.and_eq_true, decide_eq_true_eq] at hlow
    exact .inr (.inl ⟨'x', 2, hrest, rfl, .inl ⟨rfl, by omega⟩⟩)
  by_cases hseparator : (c.toNat == 0x2028 || c.toNat == 0x2029) = true
  · rw [if_neg hlow, if_pos hseparator] at hrest
    exact .inr (.inl ⟨'u', 4, hrest, rfl, .inr ⟨rfl, by simpa using hseparator⟩⟩)
  rw [if_neg hlow, if_neg hseparator] at hrest
  simp only [Bool.or_eq_true, Bool.and_eq_true, decide_eq_true_eq, beq_iff_eq] at hmark hlow hseparator
  refine .inr (.inr ⟨?_, hrest⟩)
  unfold IsCoded
  tauto

/-- A language has the escapes that the escape for one line uses, and ends no line within what that escape leaves as it
is. -/
structure Language.HasLineEscape (L : Language) : Prop where
  escape : L.escape = sharedEscape
  breaks : ∀ b ∈ L.breaks, IsCoded b

/-- A character is read back as it was, however it is written. -/
lemma run_lineEscape (h : L.HasLineEscape) :
    L.run ⟨lines, line, .literal read⟩ (lineEscape c) = some ⟨lines, line, .literal (read ++ [c])⟩ := by
  have hslash : L.step ⟨lines, line, .literal read⟩ '\\' = some ⟨lines, line, .escape read⟩ := rfl
  rcases lineEscape_cases c with ⟨x, hc, hx⟩ | ⟨x, width, hc, hx, hwidth⟩ | ⟨hcoded, hc⟩
  · have hstep : L.step ⟨lines, line, .escape read⟩ x = some ⟨lines, line, .literal (read ++ [c])⟩ := by
      simp only [Language.step_escape, h.escape, hx]
    rw [hc, Language.run_cons, hslash, Option.bind_some, Language.run_cons, hstep, Option.bind_some, Language.run_nil]
  · obtain ⟨hlength, hvalue⟩ := hex_value width hwidth
    have hstep : L.step ⟨lines, line, .escape read⟩ x = some ⟨lines, line, .digits read width 0⟩ := by
      simp only [Language.step_escape, h.escape, hx]
    have hnil : Text.hex width c.toNat ≠ [] := by
      rintro hnil
      rw [hnil] at hlength
      rcases hwidth with ⟨rfl, -⟩ | ⟨rfl, -⟩ <;> cases hlength
    have hdigits : L.run ⟨lines, line, .digits read (Text.hex width c.toNat).length 0⟩ (Text.hex width c.toNat) =
        some ⟨lines, line, .literal (read ++ [c])⟩ := run_digits hnil hvalue (char?_toNat c)
    rw [hlength] at hdigits
    rw [hc, Language.run_cons, hslash, Option.bind_some, Language.run_cons, hstep, Option.bind_some, hdigits]
  · have hbreak : c ∉ L.breaks := fun hmem => hcoded (h.breaks c hmem)
    rw [hc]
    simp only [IsCoded, not_or] at hcoded
    simp [Language.step_literal, hcoded.1, hcoded.2.1, hbreak]

/-- In PHP a character is read back where the quote and the backslash alone have an escape. -/
lemma run_rawEscape : php.run ⟨lines, line, .literal read⟩ (rawEscape c) =
    some ⟨lines, line, .literal (read ++ [c])⟩ := by
  have hslash : ('\\' == quote) = false := rfl
  unfold rawEscape
  split
  · simp_all [Language.step_literal, Language.step_escape, php]
  · simp_all [Language.step_literal, php]

/-! ### Keys in lower case -/

/-- **What a spelling must be so that a language reads back what it writes**: the mark of remarks is the language's, an
escape is read as its character, and it changes coded characters only, to characters that lower case leaves alone. -/
structure Spelling.Suits (sp : Spelling) (L : Language) : Prop where
  mark : sp.mark = String.ofList (if L.isDouble then [L.mark, L.mark] else [L.mark])
  mark_ne : L.mark ≠ quote ∧ L.mark ∉ L.breaks ∧ quote ∉ L.breaks
  newline : '\n' ∈ L.breaks
  coded : ∀ b ∈ L.breaks, IsCoded b
  unprintable : ∀ b ∈ L.breaks, Text.isPrintable b = false
  flat : L.spansLines = false → ∀ c, ∀ d ∈ sp.escape c, d ∉ L.breaks
  escape : ∀ lines line read c, L.run ⟨lines, line, .literal read⟩ (sp.escape c) =
    some ⟨lines, line, .literal (read ++ [c])⟩
  plain : ∀ c, ¬ IsCoded c → sp.escape c = [c]
  steady : ∀ c, IsCoded c → ∀ d ∈ sp.escape c, IsSteady d

/-- The lower case of a text as it is read back from its spelling: the form of a capital sigma depends on the neighbours
as they are spelled. -/
def lowerSpelled (escape : Char → List Char) (before : List Char) : List Char → List Char
  | [] => []
  | c :: rest =>
    (if c == 'Σ' then [if nextHasCase before && !nextHasCase (rest.flatMap escape) then 'ς' else 'σ']
      else lowerChar c) ++ lowerSpelled escape ((escape c).reverse ++ before) rest

/-- The text that the literal of a key is read as. -/
def Spelling.keyText (sp : Spelling) (key : String) : String :=
  String.ofList ('\x7b' :: lowerSpelled sp.escape [] key.toList ++ ['\x7d'])

/-- Lower case goes past characters that it leaves alone. -/
lemma lowerFrom_steady (h : ∀ d ∈ ds, IsSteady d) :
    lowerFrom before (ds ++ cs) = ds ++ lowerFrom (ds.reverse ++ before) cs := by
  induction ds generalizing before with
  | nil => rfl
  | cons d rest ih =>
    obtain ⟨⟨hsigma, hlower⟩, hrest⟩ := List.forall_mem_cons.1 h
    rw [List.cons_append, lowerFrom, if_neg (by simpa using hsigma), hlower, ih hrest]
    simp

/-- Lower case of what is not coded is not coded. -/
lemma mem_lowerFrom (hd : d ∈ lowerFrom before cs) : d ∈ cs ∨ ¬ IsCoded d := by
  induction cs generalizing before with
  | nil => cases hd
  | cons c rest ih =>
    rw [lowerFrom, List.mem_append] at hd
    rcases hd with hd | hd
    · split at hd
      · rw [List.mem_singleton] at hd
        split at hd <;> exact .inr (by rw [hd]; decide)
      · rcases lowerChar_cases hd with rfl | hd
        · exact .inl List.mem_cons_self
        · exact .inr hd
    · rcases ih hd with hd | hd
      · exact .inl (List.mem_cons_of_mem c hd)
      · exact .inr hd

namespace Spelling.Suits

variable {sp : Spelling} (h : sp.Suits L)
include h

/-- A text is read back as it was. -/
lemma run_escaped : L.run ⟨lines, line, .literal read⟩ (cs.flatMap sp.escape) =
    some ⟨lines, line, .literal (read ++ cs)⟩ := by
  induction cs generalizing read with
  | nil => simp
  | cons c rest ih =>
    rw [List.flatMap_cons, Language.run_append_of (h.escape lines line read c), ih]
    simp

/-- Characters that are not coded are read as themselves. -/
lemma run_uncoded (hds : ∀ d ∈ ds, ¬ IsCoded d) :
    L.run ⟨lines, line, .literal read⟩ ds = some ⟨lines, line, .literal (read ++ ds)⟩ := by
  have hmap : ds.flatMap sp.escape = ds := by
    induction ds with
    | nil => rfl
    | cons d rest ih =>
      obtain ⟨hd, hrest⟩ := List.forall_mem_cons.1 hds
      rw [List.flatMap_cons, h.plain d hd, ih hrest, List.singleton_append]
  rw [← h.run_escaped, hmap]

/-- A text that has been put in lower case as it is spelled is read back in lower case. -/
lemma run_lowered : L.run ⟨lines, line, .literal read⟩ (lowerFrom before (cs.flatMap sp.escape)) =
    some ⟨lines, line, .literal (read ++ lowerSpelled sp.escape before cs)⟩ := by
  induction cs generalizing read before with
  | nil => simp [lowerFrom, lowerSpelled]
  | cons c rest ih =>
    rw [List.flatMap_cons]
    by_cases hc : IsCoded c
    · have hsteady := hc.steady.1
      rw [lowerFrom_steady (h.steady c hc), Language.run_append_of (h.escape lines line read c), ih, lowerSpelled,
        if_neg (by simpa using hsteady.1), hsteady.2]
      simp
    · have hforms : ∀ d ∈ (if c == 'Σ' then
          [if nextHasCase before && !nextHasCase (rest.flatMap sp.escape) then 'ς' else 'σ'] else lowerChar c),
          ¬ IsCoded d := by
        split
        · rw [List.forall_mem_singleton]
          split <;> decide
        · intro d hd hcoded
          rcases lowerChar_cases hd with rfl | hd'
          · exact hc hcoded
          · exact hd' hcoded
      rw [h.plain c hc, List.singleton_append, lowerFrom, Language.run_append_of (h.run_uncoded hforms), ih,
        lowerSpelled, h.plain c hc]
      simp

end Spelling.Suits

/-- A final sigma as the sigma that is not final. -/
def plainSigma (c : Char) : Char := if c = 'ς' then 'σ' else c

/-- The text of a key is its lower case but for the form of a sigma. -/
lemma map_lowerSpelled (escape : Char → List Char) (before' : List Char) :
    (lowerSpelled escape before cs).map plainSigma = (lowerFrom before' cs).map plainSigma := by
  induction cs generalizing before before' with
  | nil => rfl
  | cons c rest ih =>
    rw [lowerSpelled, lowerFrom, List.map_append, List.map_append, ih]
    congr 1
    split
    · split <;> split <;> rfl
    · rfl

/-- A text without a capital sigma is read back as its lower case. -/
lemma lowerSpelled_of_not_mem (escape : Char → List Char) (before' : List Char) (hcs : 'Σ' ∉ cs) :
    lowerSpelled escape before cs = lowerFrom before' cs := by
  induction cs generalizing before before' with
  | nil => rfl
  | cons c rest ih =>
    rw [List.mem_cons, not_or] at hcs
    have hc : (c == 'Σ') = false := by simpa using Ne.symm hcs.1
    simp only [lowerSpelled, lowerFrom, hc, Bool.false_eq_true, if_false]
    rw [ih _ hcs.2]

/-! ### The three spellings -/

/-- A character that is coded is written in characters that print. -/
lemma IsCoded.printable (h : IsCoded c) : ∀ d ∈ lineEscape c, Text.isPrintable d = true :=
  h.induction (P := fun c => ∀ d ∈ lineEscape c, Text.isPrintable d = true) (by decide +kernel) (by decide +kernel)
    (by decide +kernel)

/-- A literal stays on its line. -/
lemma lineEscape_flat (hcoded : ∀ b ∈ L.breaks, IsCoded b) (hprint : ∀ b ∈ L.breaks, Text.isPrintable b = false) (c : Char)
    (hd : d ∈ lineEscape c) : d ∉ L.breaks := by
  intro hmem
  by_cases hc : IsCoded c
  · exact absurd (hc.printable d hd) (by simp [hprint d hmem])
  · rw [lineEscape_of_not hc, List.mem_singleton] at hd
    exact hc (hcoded c (hd ▸ hmem))

lemma javaScript_suits : ({ escape := lineEscape, mark := "//" } : Spelling).Suits javaScript where
  mark := rfl
  mark_ne := by decide
  newline := by decide
  coded := by decide
  unprintable := by decide +kernel
  flat _ c _ := lineEscape_flat (by decide) (by decide +kernel) c
  escape _ _ _ _ := run_lineEscape ⟨rfl, by decide⟩
  plain _ := lineEscape_of_not
  steady _ hc := hc.steady.2

lemma python_suits : ({ escape := lineEscape, mark := "#" } : Spelling).Suits python where
  mark := rfl
  mark_ne := by decide
  newline := by decide
  coded := by decide
  unprintable := by decide +kernel
  flat _ c _ := lineEscape_flat (by decide) (by decide +kernel) c
  escape _ _ _ _ := run_lineEscape ⟨rfl, by decide⟩
  plain _ := lineEscape_of_not
  steady _ hc := hc.steady.2

lemma php_suits : ({ escape := rawEscape, mark := "//" } : Spelling).Suits php where
  mark := rfl
  mark_ne := by decide
  newline := by decide
  coded := by decide
  unprintable := by decide +kernel
  flat h := by cases h
  escape _ _ _ _ := run_rawEscape
  plain _ := rawEscape_of_not
  steady c hc d hd := by
    change d ∈ rawEscape c at hd
    unfold rawEscape at hd
    split at hd
    · rw [List.mem_cons, List.mem_singleton] at hd
      rcases hd with rfl | rfl
      · decide +kernel
      · exact hc.steady.1
    · rw [List.mem_singleton.1 hd]
      exact hc.steady.1

/-! ### Undone by the language -/

/-- The text that a language reads between the quotes of a literal.  It refuses what does not end within the literal: a
quote by itself, half an escape, and the end of a line where a literal may not go on over it. -/
def Language.decode? (L : Language) (written : String) : Option String :=
  match L.run ⟨[], [], .literal []⟩ written.toList with
  | some ⟨[], [], .literal read⟩ => some (String.ofList read)
  | _ => none

lemma Spelling.Suits.decode? {sp : Spelling} (h : sp.Suits L) (s : String) :
    L.decode? (escaped sp.escape s) = some s := by
  have hrun : L.run ⟨[], [], .literal []⟩ (s.toList.flatMap sp.escape) = some ⟨[], [], .literal ([] ++ s.toList)⟩ :=
    h.run_escaped
  rw [Language.decode?, escaped, String.toList_ofList, hrun]
  simp

/-- A text with a backslash before each of the characters that are `mark`. -/
def marked (mark : Char) (cs : List Char) : List Char := cs.flatMap fun c => if c = mark then ['\\', c] else [c]

/-- The raw escape in two passes, the backslash first. -/
lemma marked_quote_marked (cs : List Char) : marked quote (marked '\\' cs) = cs.flatMap rawEscape := by
  unfold marked
  rw [List.flatMap_assoc]
  refine List.flatMap_congr fun c _ => ?_
  by_cases hslash : c = '\\'
  · subst hslash
    rfl
  · by_cases hquote : c = quote
    · subst hquote
      rfl
    · simp [hslash, hquote, rawEscape]

/-- The other way round the backslashes that mark the quotes are marked themselves. -/
example : php.decode? (String.ofList (marked '\\' (marked quote [quote]))) = none := by decide +kernel

/-- **What is escaped for a language is undone by it**, whatever the text.  Of what is escaped for one line, JavaScript
and Python read the text back, and no character in it ends a line; of what is escaped by marking first the backslashes
and then the quotes, PHP does. -/
theorem escaped_undone (s : String) :
    (javaScript.decode? (escapeLine s) = some s ∧ python.decode? (escapeLine s) = some s ∧
      ∀ c ∈ (escapeLine s).toList, c ∉ javaScript.breaks) ∧
    php.decode? (escapeRaw s) = some s ∧ (escapeRaw s).toList = marked quote (marked '\\' s.toList) := by
  refine ⟨⟨javaScript_suits.decode? s, python_suits.decode? s, fun c hc => ?_⟩, php_suits.decode? s, ?_⟩
  · rw [escapeLine, escaped, String.toList_ofList] at hc
    obtain ⟨d, -, hc⟩ := List.mem_flatMap.1 hc
    exact javaScript_suits.flat rfl d c hc
  · rw [marked_quote_marked, escapeRaw, escaped, String.toList_ofList]

end PageTape.Script
