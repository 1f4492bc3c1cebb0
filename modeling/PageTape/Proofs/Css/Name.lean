import Mathlib.Data.Char
import Mathlib.Tactic.Tauto
import PageTape.Css.Escape
import PageTape.Css.Reader
import PageTape.Proofs.Text.Digits

/-!
# What is written as an identifier is read as it was

`escape` writes every character of a text in one of three ways (`Piece`, `escape_spells`): by itself, behind a
backslash, or by its code.  What is written so is read back between quotes (`quotedFrom_spells`), where any text may
stand, and as a name (`name?_escape`), where the control characters behind ASCII may not (`name?_control`).  A zero is
written as the replacement character (`escape_zeroless`).
-/

namespace PageTape.Css

open Html (hexValue? hexNat char? replacement)

variable {c : Char} {cs piece text rest : List Char}

/-! ### Characters -/

/-- What is said of all characters of a text is decided along the text, not over all characters that there are. -/
instance decidableForallMem (p : Char → Prop) [DecidablePred p] (cs : List Char) : Decidable (∀ c ∈ cs, p c) :=
  List.decidableBAll p cs

/-- A character that stands by itself where it is written as part of an identifier. -/
def IsPlainChar (c : Char) : Prop := c.isAlphanum = true ∨ c = '-' ∨ c = '_' ∨ 0x80 ≤ c.toNat

instance : DecidablePred IsPlainChar := fun c => by unfold IsPlainChar; infer_instance

/-- One of the control characters behind ASCII. -/
def IsControl (c : Char) : Prop := 0x80 ≤ c.toNat ∧ c.toNat < 0xA0

instance : DecidablePred IsControl := fun c => by unfold IsControl; infer_instance

lemma IsPlainChar.ne {d : Char} (h : IsPlainChar c) (hd : ¬ IsPlainChar d) : c ≠ d := fun e => hd (e ▸ h)

lemma IsPlainChar.isNameChar (h : IsPlainChar c) (hc : ¬ IsControl c) : isNameChar c = true := by
  have hlarge : 0x80 ≤ c.toNat → 0xA0 ≤ c.toNat := fun hle => Nat.not_lt.1 fun hlt => hc ⟨hle, hlt⟩
  simp only [Css.isNameChar, isNameStart, Bool.or_eq_true, beq_iff_eq, decide_eq_true_eq]
  rcases h with h | rfl | rfl | h
  · rw [Text.isAlphanum_iff, ← Text.isAlpha_iff] at h
    tauto
  · tauto
  · tauto
  · exact .inl (.inl (.inr (hlarge h)))

/-- A hexadecimal digit stands by itself. -/
lemma hexValue?_eq_none (h : ¬ IsPlainChar c) : hexValue? c = none := by
  have hplain : ¬ c.isAlphanum = true := fun ha => h (.inl ha)
  rw [Text.isAlphanum_iff, Text.isUpper_iff, Text.isLower_iff] at hplain
  have hle : ∀ a b : Char, a ≤ b → a.toNat ≤ b.toNat := fun _ _ h => UInt32.le_iff_toNat_le.1 h
  have hlower : ¬ ('a' ≤ c ∧ c ≤ 'f') := by
    rintro ⟨h₁, h₂⟩
    have hlow : 0x61 ≤ c.toNat := hle _ _ h₁
    have hhigh : c.toNat ≤ 0x66 := hle _ _ h₂
    omega
  have hupper : ¬ ('A' ≤ c ∧ c ≤ 'F') := by
    rintro ⟨h₁, h₂⟩
    have hlow : 0x41 ≤ c.toNat := hle _ _ h₁
    have hhigh : c.toNat ≤ 0x46 := hle _ _ h₂
    omega
  unfold hexValue?
  rw [if_neg fun hd => hplain (.inr hd), if_neg (by simpa using hlower), if_neg (by simpa using hupper)]

/-- A character as it is written: by itself, behind a backslash, or by its code. -/
inductive Piece (c : Char) : List Char → Prop
  | plain (h : IsPlainChar c) : Piece c [c]
  | marked (hx : hexValue? c = none) (hn : 0x20 ≤ c.toNat) : Piece c ['\\', c]
  | coded (h₀ : c.toNat ≠ 0) (hn : c.toNat < 0x80) : Piece c (codeEscape c)

/-- The hexadecimal digits of a code below 128 are at most six, and they have its value. -/
lemma hex_lt : ∀ n < 0x80, (Text.hex 1 n).all (fun d => (hexValue? d).isSome) = true ∧ (Text.hex 1 n).length ≤ 6 ∧
    (Text.hex 1 n).isEmpty = false ∧ hexNat (Text.hex 1 n) = n := by decide +kernel

/-- A code is read as its character, with the blank behind it. -/
lemma escaped?_hex (h₀ : c.toNat ≠ 0) (hn : c.toNat < 0x80) (rest : List Char) :
    escaped? (Text.hex 1 c.toNat ++ ' ' :: rest) = some (c, rest) := by
  obtain ⟨hdigits, hlength, hempty, hvalue⟩ := hex_lt c.toNat hn
  have htake : (Text.hex 1 c.toNat ++ ' ' :: rest).takeWhile (fun d => (hexValue? d).isSome) =
      Text.hex 1 c.toNat := by
    rw [List.takeWhile_append_of_pos (List.all_eq_true.1 hdigits), List.takeWhile_cons_of_neg (by decide),
      List.append_nil]
  have hchar : char? c.toNat = some c := by
    unfold char?
    exact dif_pos c.valid
  unfold escaped?
  dsimp only
  rw [htake, List.take_of_length_le hlength, hempty, hvalue, hchar, List.drop_left]
  simp [h₀, skipOne, isSpace]

/-- A character behind a backslash. -/
lemma escaped?_marked (hx : hexValue? c = none) (hn : 0x20 ≤ c.toNat) (rest : List Char) :
    escaped? (c :: rest) = some (c, rest) := by
  have hne : ∀ d : Char, d.toNat < 0x20 → c ≠ d := fun d hd e => absurd (e ▸ hn) (Nat.not_le.2 hd)
  unfold escaped?
  simp [hx, hne '\n' (by decide), hne '\r' (by decide), hne (Char.ofNat 12) (by decide)]

/-! ### Texts -/

/-- A text as it is written, character by character. -/
inductive Spells : List Char → List Char → Prop
  | nil : Spells [] []
  | cons {c : Char} {piece cs text : List Char} (hp : Piece c piece) (h : Spells cs text) :
      Spells (c :: cs) (piece ++ text)

lemma Piece.length_pos (h : Piece c piece) : 0 < piece.length := by
  cases h <;> simp [codeEscape]

lemma Spells.length_le (h : Spells cs text) : cs.length ≤ text.length := by
  induction h with
  | nil => exact le_rfl
  | cons hp _ ih =>
    have := hp.length_pos
    simp only [List.length_cons, List.length_append]
    omega

lemma escapeAt_piece (first : Char) (position : Nat) (h : c.toNat ≠ 0) : Piece c (escapeAt first position c) := by
  unfold escapeAt
  dsimp only
  rw [if_neg (by simpa using h)]
  split
  · rename_i hcontrol
    refine .coded h ?_
    simp only [Bool.or_eq_true, decide_eq_true_eq, beq_iff_eq] at hcontrol
    omega
  · rename_i hcontrol
    split
    · rename_i hdigit
      refine .coded h ?_
      simp only [Bool.and_eq_true] at hdigit
      have := Text.isDigit_iff.1 hdigit.1
      omega
    · split
      · rename_i hplain
        refine .plain ?_
        simpa [IsPlainChar, or_assoc] using hplain
      · rename_i hplain
        simp only [Bool.or_eq_true, decide_eq_true_eq, beq_iff_eq, not_or] at hcontrol
        refine .marked (hexValue?_eq_none fun hc => hplain ?_) (by omega)
        simpa [IsPlainChar, or_assoc] using hc

lemma escapeFrom_spells (first : Char) (position : Nat) (h : ∀ c ∈ cs, c.toNat ≠ 0) :
    Spells cs (escapeFrom first position cs) := by
  induction cs generalizing position with
  | nil => exact .nil
  | cons c cs ih =>
    obtain ⟨hc, hcs⟩ := List.forall_mem_cons.1 h
    exact .cons (escapeAt_piece first position hc) (ih (position + 1) hcs)

/-- **What is written as an identifier spells the text.** -/
theorem escape_spells {s : String} (h : ∀ c ∈ s.toList, c.toNat ≠ 0) : Spells s.toList (escape s).toList := by
  unfold escape
  split
  · rename_i hs
    rw [hs]
    exact .nil
  · rename_i hs
    rw [hs]
    exact .cons (.marked (by decide) (by decide)) .nil
  · rename_i first cs _ hs
    rw [hs] at h ⊢
    rw [String.toList_ofList]
    exact escapeFrom_spells first 0 h

/-- No character is written with a zero. -/
lemma Spells.ne_zero (h : Spells cs text) : ∀ c ∈ text, c.toNat ≠ 0 := by
  induction h with
  | nil => exact fun c hc => absurd hc List.not_mem_nil
  | @cons c piece cs text hp _ ih =>
    refine fun d hd => (List.mem_append.1 hd).elim (fun hd => ?_) (ih d)
    cases hp with
    | plain h =>
      obtain rfl := List.mem_singleton.1 hd
      exact fun hzero => h.ne (d := Char.ofNat 0) (by decide) (Char.ext (UInt32.toNat_inj.1 hzero))
    | marked hx hn =>
      rcases List.mem_cons.1 hd with rfl | hd
      · decide
      · obtain rfl := List.mem_singleton.1 hd
        omega
    | coded h₀ hn =>
      have hdigits := List.all_eq_true.1 (hex_lt c.toNat hn).1
      simp only [codeEscape, List.cons_append, List.mem_cons, List.mem_append, List.not_mem_nil, or_false] at hd
      rcases hd with rfl | hd | rfl
      · decide
      · intro hzero
        have hnul : d = Char.ofNat 0 := Char.ext (UInt32.toNat_inj.1 hzero)
        exact absurd (hdigits d hd) (by rw [hnul]; decide)
      · decide

/-! ### Zeros -/

/-- The replacement character for a zero. -/
def nonzero (c : Char) : Char := if c == Char.ofNat 0 then replacement else c

/-- A text with the replacement character for every zero, as it is written and as it is read. -/
def zeroless (s : String) : String := s.map nonzero

lemma nonzero_ne (c : Char) : (nonzero c).toNat ≠ 0 := by
  unfold nonzero
  split
  · decide
  · rename_i hc
    exact fun hzero => hc (beq_iff_eq.2 (Char.toNat_inj.1 hzero))

lemma nonzero_of_ne (h : c.toNat ≠ 0) : nonzero c = c := by
  unfold nonzero
  rw [if_neg]
  rw [beq_iff_eq]
  rintro rfl
  exact h rfl

lemma map_nonzero (h : ∀ c ∈ cs, c.toNat ≠ 0) : cs.map nonzero = cs := by
  have hid : cs.map nonzero = cs.map id := List.map_congr_left fun c hc => nonzero_of_ne (h c hc)
  rw [hid, List.map_id]

lemma toList_zeroless (s : String) : (zeroless s).toList = s.toList.map nonzero := String.toList_map

lemma zeroless_eq_self {s : String} (h : ∀ c ∈ s.toList, c.toNat ≠ 0) : zeroless s = s := by
  rw [← String.toList_inj, toList_zeroless, map_nonzero h]

lemma zeroless_ne_zero (s : String) : ∀ c ∈ (zeroless s).toList, c.toNat ≠ 0 := fun c hc => by
  rw [toList_zeroless] at hc
  obtain ⟨d, -, rfl⟩ := List.mem_map.1 hc
  exact nonzero_ne d

lemma zeroless_isEmpty (s : String) : (zeroless s).isEmpty = s.isEmpty := by
  rw [Bool.eq_iff_iff, String.isEmpty_iff, String.isEmpty_iff, ← String.toList_eq_nil_iff, ← String.toList_eq_nil_iff,
    toList_zeroless, List.map_eq_nil_iff]

/-- A zero is none of the control characters behind ASCII, nor is what stands for it. -/
lemma isControl_nonzero : IsControl (nonzero c) ↔ IsControl c := by
  unfold nonzero
  split
  · rename_i hc
    rw [beq_iff_eq.1 hc]
    decide
  · rfl

lemma exists_control_zeroless {s : String} :
    (∃ c ∈ (zeroless s).toList, IsControl c) ↔ ∃ c ∈ s.toList, IsControl c := by
  simp [toList_zeroless, isControl_nonzero]

lemma escapeAt_nonzero (first : Char) (position : Nat) (c : Char) :
    escapeAt (nonzero first) position (nonzero c) = escapeAt first position c := by
  have hfirst : (nonzero first == '-') = (first == '-') := by
    unfold nonzero
    split
    · rename_i h
      rw [beq_iff_eq.1 h]
      rfl
    · rfl
  by_cases hc : c.toNat = 0
  · obtain rfl : c = Char.ofNat 0 := Char.toNat_inj.1 hc
    rfl
  · rw [nonzero_of_ne hc]
    unfold escapeAt
    rw [hfirst]

lemma escapeFrom_nonzero (first : Char) (position : Nat) (cs : List Char) :
    escapeFrom (nonzero first) position (cs.map nonzero) = escapeFrom first position cs := by
  induction cs generalizing position with
  | nil => rfl
  | cons c cs ih => rw [List.map_cons, escapeFrom, escapeFrom, escapeAt_nonzero, ih]

lemma escape_cons {s : String} {first : Char} (hs : s.toList = first :: cs) (hdash : first :: cs ≠ ['-']) :
    (escape s).toList = escapeFrom first 0 (first :: cs) := by
  unfold escape
  rw [hs]
  split
  · contradiction
  · rename_i heq
    exact absurd heq hdash
  · rename_i heq
    obtain ⟨rfl, rfl⟩ := List.cons.inj heq
    rw [String.toList_ofList]

/-- A zero and the replacement character are written alike. -/
lemma escape_zeroless (s : String) : escape (zeroless s) = escape s := by
  by_cases h : Char.ofNat 0 ∈ s.toList
  · rcases hs : s.toList with _ | ⟨first, cs⟩
    · simp [hs] at h
    have hzeroless : (zeroless s).toList = nonzero first :: cs.map nonzero := by rw [toList_zeroless, hs, List.map_cons]
    have hmem : nonzero (Char.ofNat 0) ∈ (zeroless s).toList := toList_zeroless s ▸ List.mem_map_of_mem h
    rw [hs] at h
    rw [hzeroless] at hmem
    rw [← String.toList_inj, escape_cons hs (fun heq => absurd (heq ▸ h) (by decide)),
      escape_cons hzeroless (fun heq => absurd (heq ▸ hmem) (by decide)), ← List.map_cons, escapeFrom_nonzero]
  · rw [zeroless_eq_self fun c hc hzero => ?_]
    obtain rfl : c = Char.ofNat 0 := Char.toNat_inj.1 hzero
    exact h hc

/-- No zero is ever written. -/
lemma escape_ne_zero (s : String) : ∀ c ∈ (escape s).toList, c.toNat ≠ 0 := by
  rw [← escape_zeroless]
  exact (escape_spells (zeroless_ne_zero s)).ne_zero

/-! ### Between quotes -/

/-- An escape between quotes, unless a line ends behind its backslash. -/
lemma quotedFrom_escape {d : Char} {after : List Char} (hspace : isSpace c = true → c = ' ')
    (h : escaped? (c :: cs) = some (d, after)) (fuel : Nat) :
    quotedFrom '"' (fuel + 1) ('\\' :: c :: cs) =
      (quotedFrom '"' fuel after).map fun read => (d :: read.1, read.2) := by
  have hcond : (isSpace c && c != ' ' && c != '\t') = false := by
    by_cases hs : isSpace c = true
    · simp [hspace hs]
    · simp [hs]
  rw [quotedFrom.eq_def]
  dsimp only
  split
  · rename_i heq
    obtain ⟨-, hcr, -⟩ : '\\' = '\\' ∧ c = '\r' ∧ _ = _ := by simpa using heq
    exact absurd (hspace (hcr ▸ by decide)) (hcr ▸ by decide)
  · rename_i heq
    obtain ⟨-, rfl, rfl⟩ : '\\' = '\\' ∧ c = _ ∧ cs = _ := by simpa using heq
    rw [hcond, h]
    rfl
  · rename_i hnot heq
    obtain ⟨rfl, rfl⟩ := List.cons.inj heq
    exact absurd rfl (hnot c cs rfl)
  · contradiction

lemma quotedFrom_piece (h : Piece c piece) (fuel : Nat) (rest : List Char) :
    quotedFrom '"' (fuel + 1) (piece ++ rest) =
      (quotedFrom '"' fuel rest).map fun read => (c :: read.1, read.2) := by
  cases h with
  | plain h =>
    have hne : ∀ d, ¬ IsPlainChar d → c ≠ d := fun d hd => h.ne hd
    rw [List.singleton_append, quotedFrom.eq_def]
    dsimp only
    split
    · rename_i heq
      exact absurd (List.cons.inj heq).1 (hne _ (by decide))
    · rename_i heq
      exact absurd (List.cons.inj heq).1 (hne _ (by decide))
    · rename_i heq
      obtain ⟨rfl, rfl⟩ := List.cons.inj heq
      simp [hne '"' (by decide), hne '\n' (by decide), hne '\r' (by decide), hne (Char.ofNat 12) (by decide)]
    · contradiction
  | marked hx hn =>
    refine quotedFrom_escape (fun hspace => ?_) (escaped?_marked hx hn rest) fuel
    have hne : ∀ d : Char, d.toNat < 0x20 → c ≠ d := fun d hd e => absurd (e ▸ hn) (Nat.not_le.2 hd)
    simpa [isSpace, hne '\t' (by decide), hne '\n' (by decide), hne '\r' (by decide),
      hne (Char.ofNat 12) (by decide)] using hspace
  | coded h₀ hn =>
    obtain ⟨hdigits, -, hempty, -⟩ := hex_lt c.toNat hn
    have hescaped := escaped?_hex h₀ hn rest
    have happend : codeEscape c ++ rest = '\\' :: (Text.hex 1 c.toNat ++ ' ' :: rest) := by simp [codeEscape]
    rw [happend]
    cases hhex : Text.hex 1 c.toNat with
    | nil => simp [hhex] at hempty
    | cons d digits =>
      rw [hhex] at hdigits hescaped
      refine quotedFrom_escape (fun hspace => ?_) hescaped fuel
      have hdigit : (hexValue? d).isSome = true := List.all_eq_true.1 hdigits d List.mem_cons_self
      simp only [isSpace, Bool.or_eq_true, beq_iff_eq] at hspace
      rcases hspace with (((rfl | rfl) | rfl) | rfl) | rfl <;> simp [hexValue?] at hdigit ⊢

/-- **A text that is written as an identifier is read between quotes.** -/
theorem quotedFrom_spells (h : Spells cs text) (rest : List Char) {fuel : Nat} (hf : cs.length < fuel) :
    quotedFrom '"' fuel (text ++ '"' :: rest) = some (cs, rest) := by
  induction h generalizing fuel with
  | nil =>
    cases fuel with
    | zero => exact absurd hf (Nat.not_lt_zero _)
    | succ fuel => rfl
  | @cons c piece cs text hp _ ih =>
    cases fuel with
    | zero => exact absurd hf (Nat.not_lt_zero _)
    | succ fuel => rw [List.append_assoc, quotedFrom_piece hp, ih (Nat.lt_of_succ_lt_succ hf), Option.map_some]

/-! ### As a name -/

/-- No name goes on here. -/
def EndsName (rest : List Char) : Prop := ∀ c ∈ rest.head?, isNameChar c = false ∧ c ≠ '\\'

lemma EndsName.nil : EndsName [] := fun _ hc => by simp at hc

lemma EndsName.cons (h : isNameChar c = false ∧ c ≠ '\\') : EndsName (c :: rest) := fun d hd => by
  obtain rfl : c = d := by simpa using hd
  exact h

lemma nameRest_end (h : EndsName rest) (fuel : Nat) : nameRest fuel rest = ([], rest) := by
  cases fuel with
  | zero => rfl
  | succ fuel =>
    cases rest with
    | nil => rfl
    | cons c rest =>
      obtain ⟨hname, hne⟩ := h c rfl
      rw [nameRest.eq_def]
      dsimp only
      split
      · rename_i heq
        exact absurd (List.cons.inj heq).1 hne
      · rename_i heq
        obtain ⟨rfl, rfl⟩ := List.cons.inj heq
        rw [hname]
        rfl
      · contradiction

lemma nameRest_piece (h : Piece c piece) (hc : ¬ IsControl c) (fuel : Nat) (rest : List Char) :
    nameRest (fuel + 1) (piece ++ rest) = (c :: (nameRest fuel rest).1, (nameRest fuel rest).2) := by
  have hescape : ∀ {cs after}, escaped? cs = some (c, after) →
      nameRest (fuel + 1) ('\\' :: cs) = (c :: (nameRest fuel after).1, (nameRest fuel after).2) := fun hcs => by
    rw [nameRest.eq_def]
    simp only [hcs]
  cases h with
  | plain h =>
    rw [List.singleton_append, nameRest.eq_def]
    dsimp only
    split
    · rename_i heq
      exact absurd (List.cons.inj heq).1 (h.ne (by decide))
    · rename_i heq
      obtain ⟨rfl, rfl⟩ := List.cons.inj heq
      rw [h.isNameChar hc]
      rfl
    · contradiction
  | marked hx hn => exact hescape (escaped?_marked hx hn rest)
  | coded h₀ hn =>
    have happend : codeEscape c ++ rest = '\\' :: (Text.hex 1 c.toNat ++ ' ' :: rest) := by simp [codeEscape]
    rw [happend]
    exact hescape (escaped?_hex h₀ hn rest)

lemma nameRest_spells (h : Spells cs text) (hc : ∀ c ∈ cs, ¬ IsControl c) (hrest : EndsName rest) {fuel : Nat}
    (hf : cs.length ≤ fuel) : nameRest fuel (text ++ rest) = (cs, rest) := by
  induction h generalizing fuel with
  | nil => exact nameRest_end hrest fuel
  | @cons c piece cs text hp _ ih =>
    obtain ⟨hc, hcs⟩ := List.forall_mem_cons.1 hc
    cases fuel with
    | zero => exact absurd hf (Nat.not_succ_le_zero _)
    | succ fuel => rw [List.append_assoc, nameRest_piece hp hc, ih hcs (Nat.le_of_succ_le_succ hf)]

/-- A name begins with an escape, and with what stands by itself unless it is a digit or a hyphen. -/
lemma startsName_piece (h : Piece c piece) (hc : ¬ IsControl c) (hd : piece = [c] → c.isDigit = false ∧ c ≠ '-')
    (rest : List Char) : startsName (piece ++ rest) = true := by
  cases h with
  | plain h =>
    obtain ⟨hdigit, hhyphen⟩ := hd rfl
    have hname := h.isNameChar hc
    have hstart : isNameStart c = true := by simpa [isNameChar, hdigit, hhyphen] using hname
    rw [List.singleton_append]
    unfold startsName
    dsimp only
    split
    · rename_i heq
      exact absurd (List.cons.inj heq).1 hhyphen
    · rename_i heq
      exact absurd (List.cons.inj heq).1 hhyphen
    · split
      · rename_i heq
        exact absurd (List.cons.inj heq).1 (h.ne (by decide))
      · rename_i heq
        obtain ⟨rfl, rfl⟩ := List.cons.inj heq
        exact hstart
      · contradiction
  | marked hx hn => exact congrArg Option.isSome (escaped?_marked hx hn rest)
  | coded h₀ hn =>
    have happend : codeEscape c ++ rest = '\\' :: (Text.hex 1 c.toNat ++ ' ' :: rest) := by simp [codeEscape]
    rw [happend]
    exact congrArg Option.isSome (escaped?_hex h₀ hn rest)

/-- One hyphen may stand before a name. -/
lemma startsName_hyphen (h : startsName cs = true) : startsName ('-' :: cs) = true := by
  cases cs with
  | nil => exact absurd h (by decide)
  | cons c cs =>
    by_cases hc : c = '-'
    · subst hc
      rfl
    · simpa [startsName, hc] using h

/-- A digit is written by its code where it would begin a name. -/
lemma escapeAt_ne_self {first : Char} {position : Nat} (hdigit : c.isDigit = true)
    (hposition : position = 0 ∨ position = 1 ∧ first = '-') : escapeAt first position c ≠ [c] := by
  have hcond : (c.isDigit && (position == 0 || (position == 1 && first == '-'))) = true := by
    rcases hposition with rfl | ⟨rfl, rfl⟩ <;> simp [hdigit]
  have hcode : codeEscape c ≠ [c] := fun he => by simpa [codeEscape] using congrArg List.length he
  have hbounds := Text.isDigit_iff.1 hdigit
  unfold escapeAt
  dsimp only
  rw [if_neg (by simp; omega), hcond]
  split
  · exact hcode
  · exact hcode

lemma startsName_escape {s : String} (hs : s.toList ≠ []) (h : ∀ c ∈ s.toList, c.toNat ≠ 0 ∧ ¬ IsControl c)
    (rest : List Char) : startsName ((escape s).toList ++ rest) = true := by
  unfold escape
  split
  · contradiction
  · rfl
  · rename_i first cs hne heq
    rw [heq] at h
    obtain ⟨⟨h₀, hcontrol⟩, hcs⟩ := List.forall_mem_cons.1 h
    rw [String.toList_ofList, escapeFrom, List.append_assoc]
    by_cases hfirst : first = '-'
    · subst hfirst
      rw [show escapeAt '-' 0 '-' = ['-'] by decide, List.singleton_append]
      cases cs with
      | nil => exact (hne rfl rfl).elim
      | cons c cs =>
        obtain ⟨⟨h₀, hcontrol⟩, -⟩ := List.forall_mem_cons.1 hcs
        rw [escapeFrom, List.append_assoc]
        by_cases hc : c = '-'
        · subst hc
          rfl
        · refine startsName_hyphen (startsName_piece (escapeAt_piece '-' 1 h₀) hcontrol (fun hself => ⟨?_, hc⟩) _)
          exact Bool.eq_false_iff.2 fun hdigit => escapeAt_ne_self hdigit (.inr ⟨rfl, rfl⟩) hself
    · refine startsName_piece (escapeAt_piece first 0 h₀) hcontrol (fun hself => ⟨?_, hfirst⟩) _
      exact Bool.eq_false_iff.2 fun hdigit => escapeAt_ne_self hdigit (.inl rfl) hself

/-- **A text that is written as an identifier is read as a name.** -/
theorem name?_escape {s : String} (hs : s.toList ≠ []) (h : ∀ c ∈ s.toList, c.toNat ≠ 0 ∧ ¬ IsControl c)
    (hrest : EndsName rest) : name? ((escape s).toList ++ rest) = some (s, rest) := by
  have hspells := escape_spells fun c hc => (h c hc).1
  have hlength : s.toList.length ≤ ((escape s).toList ++ rest).length := by
    have := hspells.length_le
    rw [List.length_append]
    omega
  unfold name?
  rw [startsName_escape hs h, nameRest_spells hspells (fun c hc => (h c hc).2) hrest hlength]
  simp

/-! ### Control characters -/

lemma escapeFrom_append (first : Char) (position : Nat) (cs ds : List Char) : escapeFrom first position (cs ++ ds) =
    escapeFrom first position cs ++ escapeFrom first (position + cs.length) ds := by
  induction cs generalizing position with
  | nil => rfl
  | cons c cs ih =>
    rw [List.cons_append, escapeFrom, escapeFrom, ih, List.append_assoc, List.length_cons, Nat.add_right_comm,
      Nat.add_assoc]

lemma IsControl.isPlainChar (h : IsControl c) : IsPlainChar c := .inr (.inr (.inr h.1))

lemma IsControl.not_isNameChar (h : IsControl c) : isNameStart c = false ∧ c.isDigit = false ∧ c ≠ '-' := by
  have hall : ∀ n < 0xA0, 0x80 ≤ n → isNameChar (Char.ofNat n) = false := by decide +kernel
  have hc := hall c.toNat h.2 h.1
  rw [Char.ofNat_toNat] at hc
  simpa [isNameChar, and_assoc] using hc

lemma IsControl.endsName (h : IsControl c) : EndsName (c :: rest) := by
  obtain ⟨hstart, hdigit, hhyphen⟩ := h.not_isNameChar
  exact .cons ⟨by simp [isNameChar, hstart, hdigit, hhyphen], h.isPlainChar.ne (by decide)⟩

lemma IsControl.escapeAt (h : IsControl c) (first : Char) (position : Nat) : escapeAt first position c = [c] := by
  have hlarge := h.1
  unfold Css.escapeAt
  simp only [h.not_isNameChar.2.1, beq_iff_eq, Bool.or_eq_true, decide_eq_true_eq, Bool.false_and, Bool.false_eq_true,
    if_false]
  rw [if_neg (by omega), if_neg (by omega), if_pos (by tauto)]

/-- A name that holds one of the control characters is read only as far as to there. -/
lemma name?_control {s n : String} {after : List Char} (h : ∀ c ∈ s.toList, c.toNat ≠ 0)
    (hcontrol : ∃ c ∈ s.toList, IsControl c) (hname : name? ((escape s).toList ++ rest) = some (n, after)) :
    ∃ c cs, after = c :: cs ∧ IsControl c := by
  obtain ⟨c, before, behind, hs, hc, hbefore⟩ : ∃ c before behind, s.toList = before ++ c :: behind ∧ IsControl c ∧
      ∀ d ∈ before, ¬ IsControl d := by
    obtain ⟨c, hfind⟩ := Option.isSome_iff_exists.1 (List.find?_isSome (p := fun c => decide (IsControl c)).2
      (by simpa using hcontrol))
    obtain ⟨hc, before, behind, hs, hbefore⟩ := List.find?_eq_some_iff_append.1 hfind
    exact ⟨c, before, behind, hs, by simpa using hc, fun d hd => by simpa using hbefore d hd⟩
  obtain ⟨text, cs, hspells, htext⟩ : ∃ text cs, Spells before text ∧ (escape s).toList ++ rest = text ++ c :: cs := by
    obtain ⟨first, tail, hcons⟩ : ∃ first tail, s.toList = first :: tail := by
      cases hcons : s.toList with
      | nil => simp [hcons] at hs
      | cons first tail => exact ⟨first, tail, rfl⟩
    have hdash : first :: tail ≠ ['-'] := fun heq => by
      rw [← hcons, hs] at heq
      have hmem : c ∈ ['-'] := heq ▸ List.mem_append_right _ List.mem_cons_self
      rw [List.mem_singleton.1 hmem] at hc
      exact absurd hc (by decide)
    refine ⟨escapeFrom first 0 before, escapeFrom first (before.length + 1) behind ++ rest,
      escapeFrom_spells first 0 fun d hd => h d (hs ▸ List.mem_append_left _ hd), ?_⟩
    rw [escape_cons hcons hdash, ← hcons, hs, escapeFrom_append, escapeFrom, hc.escapeAt]
    simp
  have hlength := hspells.length_le
  rw [htext] at hname
  unfold name? at hname
  split at hname
  · rw [nameRest_spells hspells hbefore hc.endsName (by rw [List.length_append]; omega)] at hname
    cases hname
    exact ⟨c, cs, rfl, hc⟩
  · cases hname

/-! ### As a value -/

/-- A text in quotes is a value. -/
theorem value?_escape {s : String} (h : ∀ c ∈ s.toList, c.toNat ≠ 0) (rest : List Char) :
    value? ('"' :: ((escape s).toList ++ '"' :: rest)) = some (s, rest) := by
  have hspells := escape_spells h
  have hlength := hspells.length_le
  have hread : quotedFrom '"' (((escape s).toList ++ '"' :: rest).length + 1) ((escape s).toList ++ '"' :: rest) =
      some (s.toList, rest) := quotedFrom_spells hspells rest (by
    rw [List.length_append]
    omega)
  show (quotedFrom '"' _ _).map (fun read => (String.ofList read.1, read.2)) = _
  rw [hread]
  simp

end PageTape.Css
