import Mathlib.Data.Nat.Digits.Defs

/-!
# The characters of numbers and words

A number in some base is written in the digits of that base, a whole number in decimal digits behind a sign.  Letters
and digits are told by the ranges of their codes.
-/

namespace PageTape.Text

/-! ### Letters and digits -/

section Ranges

variable {c : Char}

lemma isDigit_iff : c.isDigit = true ↔ 0x30 ≤ c.toNat ∧ c.toNat ≤ 0x39 := Char.isDigit_iff_toNat

lemma isUpper_iff : c.isUpper = true ↔ 0x41 ≤ c.toNat ∧ c.toNat ≤ 0x5A := by
  show decide ('A'.val ≤ c.val ∧ c.val ≤ 'Z'.val) = true ↔ _
  rw [decide_eq_true_eq, UInt32.le_iff_toNat_le, UInt32.le_iff_toNat_le]
  rfl

lemma isLower_iff : c.isLower = true ↔ 0x61 ≤ c.toNat ∧ c.toNat ≤ 0x7A := by
  show (decide ('a'.val ≤ c.val) && decide (c.val ≤ 'z'.val)) = true ↔ _
  rw [Bool.and_eq_true, decide_eq_true_eq, decide_eq_true_eq, UInt32.le_iff_toNat_le, UInt32.le_iff_toNat_le]
  rfl

lemma isAlpha_iff : c.isAlpha = true ↔ c.isUpper = true ∨ c.isLower = true := Bool.or_eq_true_iff

lemma isAlphanum_iff : c.isAlphanum = true ↔ (c.isUpper = true ∨ c.isLower = true) ∨ c.isDigit = true := by
  rw [← isAlpha_iff]
  exact Bool.or_eq_true_iff

end Ranges

/-! ### Numbers -/

lemma mem_toDigits {b n : ℕ} {c : Char} (hb : 1 < b) (hc : c ∈ Nat.toDigits b n) : ∃ d < b, c = Nat.digitChar d := by
  induction n using Nat.strongRecOn with
  | _ n ih =>
    rcases lt_or_ge n b with hn | hn
    · rw [Nat.toDigits_of_lt_base hn, List.mem_singleton] at hc
      exact ⟨n, hn, hc⟩
    · rw [Nat.toDigits_of_base_le hb hn, List.mem_append, List.mem_singleton] at hc
      rcases hc with hc | rfl
      · exact ih (n / b) (Nat.div_lt_self (by omega) hb) hc
      · exact ⟨n % b, Nat.mod_lt _ (by omega), rfl⟩

/-- The characters that whole numbers are written in. -/
def intChars : List Char := "-0123456789".toList

lemma mem_intChars {n : ℤ} {c : Char} (hc : c ∈ (toString n).toList) : c ∈ intChars := by
  have hdigit : ∀ m : ℕ, c ∈ (toString m).toList → c ∈ intChars := by
    intro m hm
    have hmem : c ∈ Nat.toDigits 10 m := by simpa [toString, Nat.repr] using hm
    obtain ⟨d, hd, rfl⟩ := mem_toDigits (by decide) hmem
    have hall : ∀ k < 10, Nat.digitChar k ∈ intChars := by decide
    exact hall d hd
  cases n with
  | ofNat m => exact hdigit m hc
  | negSucc m =>
    have hc' : c = '-' ∨ c ∈ (toString (m + 1)).toList := by
      simpa [toString, Int.repr, String.toList_append] using hc
    rcases hc' with rfl | hm
    · decide
    · exact hdigit _ hm

end PageTape.Text
