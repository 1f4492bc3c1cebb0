import Mathlib.Data.List.Infix
import Mathlib.Data.List.Sublists
import Mathlib.Tactic.Lemma

/-!
# Texts that are read as regular expressions

What a regular expression matches is said of a word between what stands before and after it (`Regex.Matches`), and it is
found in a text where it matches a word there (`Regex.FoundIn`).  `Reads` is the part of the syntax of regular
expressions that is common to the flavours: literal characters and escaped punctuation, the dot, sets, groups,
quantifiers and their lazy forms, the two anchors, and alternatives.  Numbers of repetitions, letters behind a backslash
and groups with more than a colon behind their question mark are left out.

A text that is read so finds what holds it literally, and nothing else, exactly where it has no metacharacter
(`Reads.finds_itself_iff`).  For a metacharacter leads to a word that is matched and is shorter than the text, or has
another letter in the place of a dot (`Reads.shrinks`, `Reads.matches_filled`).
-/

namespace PageTape.Script

/-! ### Regular expressions -/

/-- A regular expression. -/
inductive Regex where
  | empty
  | char (c : Char)
  | any
  | set (p : Char → Bool)
  | start
  | stop
  | seq (r s : Regex)
  | alt (r s : Regex)
  | star (r : Regex)

/-- **What flavours differ in**: the characters that a dot does not match, and what may stand behind an end. -/
structure Flavour where
  breaks : List Char
  tails : List (List Char)
  breaks_letter : 'x' ∉ breaks
  tails_sublist : ∀ tail ∈ tails, ∀ rest, rest.Sublist tail → rest ∈ tails

namespace Flavour

/-- The flavour of JavaScript: an end has nothing behind it. -/
def javaScript : Flavour where
  breaks := ['\n', '\r', Char.ofNat 0x2028, Char.ofNat 0x2029]
  tails := [[]]
  breaks_letter := by decide
  tails_sublist := by simp

/-- The flavour of Python: an end may have a line feed behind it. -/
def python : Flavour where
  breaks := ['\n']
  tails := [[], ['\n']]
  breaks_letter := by decide
  tails_sublist := by
    intro tail htail rest hrest
    rw [← List.mem_sublists] at hrest
    simp only [List.mem_cons, List.not_mem_nil, or_false] at htail
    rcases htail with rfl | rfl <;> revert rest <;> decide

end Flavour

variable {F : Flavour} {r s : Regex} {t u before word after : List Char}

/-- **A regular expression matches a word** between what stands before and after it. -/
inductive Regex.Matches (F : Flavour) : Regex → List Char → List Char → List Char → Prop
  | empty {before after : List Char} : Matches F .empty before [] after
  | char {c : Char} {before after : List Char} : Matches F (.char c) before [c] after
  | any {c : Char} {before after : List Char} : c ∉ F.breaks → Matches F .any before [c] after
  | set {p : Char → Bool} {c : Char} {before after : List Char} : p c = true → Matches F (.set p) before [c] after
  | start {after : List Char} : Matches F .start [] [] after
  | stop {before after : List Char} : after ∈ F.tails → Matches F .stop before [] after
  | seq {r s : Regex} {before v w after : List Char} : Matches F r before v (w ++ after) →
      Matches F s (before ++ v) w after → Matches F (.seq r s) before (v ++ w) after
  | left {r s : Regex} {before word after : List Char} : Matches F r before word after →
      Matches F (.alt r s) before word after
  | right {r s : Regex} {before word after : List Char} : Matches F s before word after →
      Matches F (.alt r s) before word after
  | done {r : Regex} {before after : List Char} : Matches F (.star r) before [] after
  | more {r : Regex} {before v w after : List Char} : Matches F r before v (w ++ after) →
      Matches F (.star r) (before ++ v) w after → Matches F (.star r) before (v ++ w) after

/-- **A regular expression is found in a text** where it matches a word of it. -/
def Regex.FoundIn (F : Flavour) (r : Regex) (text : List Char) : Prop :=
  ∃ before word after, text = before ++ (word ++ after) ∧ r.Matches F before word after

/-! ### Reading a text -/

/-- A character that stands for something other than itself, or for nothing on its own. -/
def isMeta (c : Char) : Bool := "\\^$.|?*+()[".toList.contains c

/-- A character that stands for itself wherever it stands. -/
def isLiteral (c : Char) : Bool := !isMeta c && c != '\x7b'

/-- The characters of a set: ranges and characters on their own. -/
def setItems? : List Char → Option (Char → Bool)
  | low :: '-' :: high :: rest =>
    if low ≤ high then (setItems? rest).map fun p c => (low ≤ c && c ≤ high) || p c else none
  | c :: rest => (setItems? rest).map fun p d => d == c || p d
  | [] => some fun _ => false

/-- The set between brackets; a caret at its beginning excludes. -/
def set? : List Char → Option (Char → Bool)
  | [] => none
  | '^' :: rest => if rest.isEmpty then none else (setItems? rest).map fun p c => !p c
  | items => setItems? items

/-- What a part of a text is read as. -/
inductive Level where
  | atom | piece | row | choice

/-- What follows an opening brace does not make it a number of repetitions. -/
def closesBrace : List Char → Bool
  | c :: _ => !(c.isDigit || c == ',')
  | [] => true

/-- **A text is read as a regular expression.** -/
inductive Reads : Level → List Char → Regex → Prop
  | literal {c : Char} : isLiteral c = true → Reads .atom [c] (.char c)
  | dot : Reads .atom ['.'] .any
  | escaped {c : Char} : c.isAlphanum = false → Reads .atom ['\\', c] (.char c)
  | set {items : List Char} {p : Char → Bool} : (∀ c ∈ items, c ∉ ['[', ']', '\\']) → set? items = some p →
      Reads .atom ('[' :: (items ++ [']'])) (.set p)
  | group {t : List Char} {r : Regex} : Reads .choice t r → Reads .atom ('(' :: (t ++ [')'])) r
  | silent {t : List Char} {r : Regex} : Reads .choice t r → Reads .atom ('(' :: '?' :: ':' :: (t ++ [')'])) r
  | once {t : List Char} {r : Regex} : Reads .atom t r → Reads .piece t r
  | star {t lazy : List Char} {r : Regex} : Reads .atom t r → lazy ∈ [[], ['?']] →
      Reads .piece (t ++ '*' :: lazy) (.star r)
  | plus {t lazy : List Char} {r : Regex} : Reads .atom t r → lazy ∈ [[], ['?']] →
      Reads .piece (t ++ '+' :: lazy) (.seq r (.star r))
  | option {t lazy : List Char} {r : Regex} : Reads .atom t r → lazy ∈ [[], ['?']] →
      Reads .piece (t ++ '?' :: lazy) (.alt r .empty)
  | start : Reads .piece ['^'] .start
  | stop : Reads .piece ['$'] .stop
  | nil : Reads .row [] .empty
  | cons {t u : List Char} {r s : Regex} : Reads .piece t r → Reads .row u s → Reads .row (t ++ u) (.seq r s)
  | brace {u : List Char} {s : Regex} : closesBrace u = true → Reads .row u s →
      Reads .row ('\x7b' :: u) (.seq (.char '\x7b') s)
  | one {t : List Char} {r : Regex} : Reads .row t r → Reads .choice t r
  | or {t u : List Char} {r s : Regex} : Reads .row t r → Reads .choice u s → Reads .choice (t ++ '|' :: u) (.alt r s)

/-! ### Words that are matched are short -/

/-- A character that stands for one character: itself or, as a dot, any other. -/
def isSingle (c : Char) : Bool := !isMeta c || c == '.'

/-- By how much a text is longer at least than a word that it matches: by one, if not each of its characters stands for
one. -/
def slack (t : List Char) : ℕ := if t.all isSingle then 0 else 1

lemma slack_le_one (t : List Char) : slack t ≤ 1 := by
  unfold slack
  split <;> decide

lemma slack_append_le (t u : List Char) : slack (t ++ u) ≤ slack t + slack u := by
  unfold slack
  rw [List.all_append]
  cases t.all isSingle <;> cases u.all isSingle <;> decide

lemma not_meta {c : Char} (h : isLiteral c = true) : isMeta c = false := by
  rw [isLiteral, Bool.and_eq_true, Bool.not_eq_true'] at h
  exact h.1

/-- A word that is matched in the place of another one, with less before and after it too, and that is no longer than
text. -/
structure Shrinks (F : Flavour) (t : List Char) (r : Regex) (before word after w : List Char) : Prop where
  sublist : w.Sublist word
  length : w.length + slack t ≤ t.length
  matches_less : ∀ before' after', before'.Sublist before → after'.Sublist after → r.Matches F before' w after'

/-- A character that stands for itself is no shorter. -/
lemma Shrinks.char {c : Char} (h : isMeta c = false) : Shrinks F [c] (.char c) before [c] after [c] where
  sublist := .refl _
  length := by simp [slack, isSingle, h]
  matches_less _ _ _ _ := .char

/-- The empty word is short if the text is not. -/
lemma Shrinks.nil (ht : t ≠ []) (h : ∀ before' after', before'.Sublist before → after'.Sublist after →
    r.Matches F before' [] after') : Shrinks F t r before word after [] where
  sublist := List.nil_sublist word
  length := by
    have hslack := slack_le_one t
    have hpos := List.length_pos_iff.2 ht
    rw [List.length_nil]
    omega
  matches_less := h

/-- A word stays short if the text gets longer. -/
lemma Shrinks.longer {w : List Char} (h : Shrinks F t r before word after w) (hlonger : t.length < u.length)
    (hmatches : ∀ before' after', r.Matches F before' w after' → s.Matches F before' w after') :
    Shrinks F u s before word after w where
  sublist := h.sublist
  length := by
    have hslack := slack_le_one u
    have hlength := h.length
    omega
  matches_less before' after' hbefore hafter := hmatches before' after' (h.matches_less before' after' hbefore hafter)

/-- Short words behind each other. -/
lemma Shrinks.seq {v w v' w' : List Char} (hv : Shrinks F t r before v (w ++ after) v')
    (hw : Shrinks F u s (before ++ v) w after w') : Shrinks F (t ++ u) (.seq r s) before (v ++ w) after (v' ++ w') where
  sublist := hv.sublist.append hw.sublist
  length := by
    have hslack := slack_append_le t u
    have hlength := hv.length
    have hlength' := hw.length
    rw [List.length_append, List.length_append]
    omega
  matches_less before' after' hbefore hafter :=
    .seq (hv.matches_less before' (w' ++ after') hbefore (hw.sublist.append hafter))
      (hw.matches_less (before' ++ v') after' (hbefore.append hv.sublist) hafter)

/-- **Where a regular expression matches a word, it matches one that is no longer than its text**, and shorter if some
character does not stand for one. -/
lemma Reads.shrinks {l : Level} (h : Reads l t r) (hm : r.Matches F before word after) :
    ∃ w, Shrinks F t r before word after w := by
  induction h generalizing before word after with
  | @literal c hc =>
    cases hm
    exact ⟨[c], .char (not_meta hc)⟩
  | dot =>
    cases hm with
    | @any c _ _ hc => exact ⟨[c], .refl _, (by decide : 1 + slack ['.'] ≤ 1), fun _ _ _ _ => .any hc⟩
  | @escaped c hc =>
    cases hm
    have hslack := slack_le_one ['\\', c]
    exact ⟨[c], .refl _, by simp only [List.length_cons, List.length_nil]; omega, fun _ _ _ _ => .char⟩
  | @set items p hitems hp =>
    cases hm with
    | @set _ c _ _ hc =>
      have hslack := slack_le_one ('[' :: (items ++ [']']))
      exact ⟨[c], .refl _, by simp only [List.length_cons, List.length_append, List.length_nil]; omega,
        fun _ _ _ _ => .set hc⟩
  | group _ ih =>
    obtain ⟨w, hw⟩ := ih hm
    exact ⟨w, hw.longer (by simp only [List.length_append, List.length_cons]; omega) fun _ _ => id⟩
  | silent _ ih =>
    obtain ⟨w, hw⟩ := ih hm
    exact ⟨w, hw.longer (by simp only [List.length_append, List.length_cons]; omega) fun _ _ => id⟩
  | once _ ih => exact ih hm
  | star => exact ⟨[], .nil (by simp) fun _ _ _ _ => .done⟩
  | @plus t lazy r _ _ ih =>
    cases hm with
    | @seq _ _ _ v w _ hv hw =>
      -- one repetition is enough
      obtain ⟨v', hv'⟩ := ih hv
      have hslack := slack_le_one (t ++ '+' :: lazy)
      have hlength := hv'.length
      refine ⟨v' ++ [], hv'.sublist.append (List.nil_sublist w), ?_, fun before' after' hbefore hafter => ?_⟩
      · simp only [List.length_append, List.length_cons, List.length_nil]
        omega
      · exact .seq (hv'.matches_less before' _ hbefore (hafter.trans (List.sublist_append_right w after))) .done
  | option => exact ⟨[], .nil (by simp) fun _ _ _ _ => .right .empty⟩
  | start =>
    cases hm
    refine ⟨[], .nil (by simp) fun before' _ hbefore _ => ?_⟩
    rw [List.sublist_nil.1 hbefore]
    exact .start
  | stop =>
    cases hm with
    | stop htail => exact ⟨[], .nil (by simp) fun _ after' _ hafter => .stop (F.tails_sublist _ htail after' hafter)⟩
  | nil =>
    cases hm
    exact ⟨[], .refl _, (by decide : 0 + slack [] ≤ 0), fun _ _ _ _ => .empty⟩
  | cons _ _ iht ihu =>
    cases hm with
    | seq hv hw =>
      obtain ⟨v', hv'⟩ := iht hv
      obtain ⟨w', hw'⟩ := ihu hw
      exact ⟨v' ++ w', hv'.seq hw'⟩
  | brace _ _ ih =>
    cases hm with
    | seq hv hw =>
      cases hv
      obtain ⟨w', hw'⟩ := ih hw
      exact ⟨['\x7b'] ++ w', .seq (t := ['\x7b']) (.char (by decide)) hw'⟩
  | one _ ih => exact ih hm
  | or _ _ iht ihu =>
    cases hm with
    | left hm =>
      obtain ⟨w, hw⟩ := iht hm
      exact ⟨w, hw.longer (by simp) fun _ _ => .left⟩
    | right hm =>
      obtain ⟨w, hw⟩ := ihu hm
      exact ⟨w, hw.longer (by simp only [List.length_append, List.length_cons]; omega) fun _ _ => .right⟩

/-! ### Texts without metacharacters -/

/-- A character that a dot does match, in the place of a dot. -/
def fill (c : Char) : Char := if c == '.' then 'x' else c

lemma fill_eq {c : Char} (h : isMeta c = false) : fill c = c := by
  have hdot : c ≠ '.' := by
    rintro rfl
    exact absurd h (by decide)
  simp [fill, hdot]

lemma not_all {p : Char → Bool} {c : Char} (hc : p c = false) (h : (t ++ c :: u).all p = true) : False := by
  rw [List.all_append, List.all_cons, hc] at h
  simp at h

/-- If each character stands for one, the text is matched with something else in the place of its dots. -/
lemma Reads.matches_filled {l : Level} (h : Reads l t r) (hsingle : t.all isSingle = true) :
    r.Matches F before (t.map fill) after := by
  induction h generalizing before after with
  | literal hc =>
    rw [List.map_singleton, fill_eq (not_meta hc)]
    exact .char
  | dot => exact .any F.breaks_letter
  | escaped | set | group | silent => exact (not_all (t := []) (by decide) hsingle).elim
  | once _ ih | one _ ih => exact ih hsingle
  | star | plus | option | or => exact (not_all (by decide) hsingle).elim
  | start | stop => exact absurd hsingle (by decide)
  | nil => exact .empty
  | cons _ _ iht ihu =>
    rw [List.all_append, Bool.and_eq_true] at hsingle
    rw [List.map_append]
    exact .seq (iht hsingle.1) (ihu hsingle.2)
  | brace _ _ ih =>
    rw [List.all_cons, Bool.and_eq_true] at hsingle
    exact .seq (v := ['\x7b']) .char (ih hsingle.2)

/-- A text without metacharacters matches nothing but itself. -/
lemma Reads.eq_of_matches {l : Level} (h : Reads l t r) (hplain : t.all (!isMeta ·) = true)
    (hm : r.Matches F before word after) : word = t := by
  induction h generalizing before word after with
  | literal =>
    cases hm
    rfl
  | dot => exact absurd hplain (by decide)
  | escaped | set | group | silent => exact (not_all (t := []) (by decide) hplain).elim
  | once _ ih | one _ ih => exact ih hplain hm
  | star | plus | option | or => exact (not_all (by decide) hplain).elim
  | start | stop => exact absurd hplain (by decide)
  | nil =>
    cases hm
    rfl
  | cons _ _ iht ihu =>
    rw [List.all_append, Bool.and_eq_true] at hplain
    cases hm with
    | seq hv hw => rw [iht hplain.1 hv, ihu hplain.2 hw]
  | brace _ _ ih =>
    rw [List.all_cons, Bool.and_eq_true] at hplain
    cases hm with
    | seq hv hw =>
      cases hv
      rw [ih hplain.2 hw]
      rfl

lemma isSingle_of_not_meta (h : t.all (!isMeta ·) = true) : t.all isSingle = true := by
  rw [List.all_eq_true] at h ⊢
  intro c hc
  rw [isSingle, h c hc, Bool.true_or]

lemma map_fill (h : t.all (!isMeta ·) = true) : t.map fill = t := by
  rw [List.map_congr_left fun c hc => fill_eq (by simpa using List.all_eq_true.1 h c hc), List.map_id']

/-- A text with a dot is not what is matched with another letter in its place. -/
lemma all_of_map_fill (hsingle : t.all isSingle = true) (h : t.map fill = t) : t.all (!isMeta ·) = true := by
  rw [List.all_eq_true] at hsingle ⊢
  intro c hc
  have hfill : fill c = c := by
    have hmap := List.map_eq_map_iff.1 (h.trans (List.map_id t).symm) c hc
    exact hmap
  have hdot : c ≠ '.' := by
    rintro rfl
    exact absurd hfill (by decide)
  simpa [isSingle, hdot] using hsingle c hc

/-- **A text finds what holds it, and nothing else, exactly where it has no metacharacter.** -/
lemma Reads.finds_itself_iff (h : Reads .choice t r) :
    (∀ text, r.FoundIn F text ↔ t <:+: text) ↔ t.all (!isMeta ·) = true := by
  constructor
  · intro hfinds
    obtain ⟨before, word, after, -, hm⟩ := (hfinds t).2 (List.infix_refl t)
    -- a word that is found alone holds the text
    have hholds : ∀ w, r.Matches F [] w [] → t <:+: w := fun w hw =>
      (hfinds w).1 ⟨[], w, [], by simp, hw⟩
    cases hsingle : t.all isSingle with
    | true =>
      have hpart := hholds _ (h.matches_filled hsingle)
      exact all_of_map_fill hsingle (hpart.eq_of_length (List.length_map fill).symm).symm
    | false =>
      obtain ⟨w, hw⟩ := h.shrinks hm
      have hpart := hholds w (hw.matches_less [] [] (List.nil_sublist _) (List.nil_sublist _))
      have hlength := hw.length
      rw [slack, hsingle] at hlength
      have hle := hpart.length_le
      simp only [Bool.false_eq_true, if_false] at hlength
      omega
  · rintro hplain text
    constructor
    · rintro ⟨before, word, after, rfl, hm⟩
      rw [h.eq_of_matches hplain hm]
      exact ⟨before, after, by simp⟩
    · rintro ⟨before, after, rfl⟩
      refine ⟨before, t, after, by simp, ?_⟩
      have hm : r.Matches F before (t.map fill) after := h.matches_filled (isSingle_of_not_meta hplain)
      rwa [map_fill hplain] at hm

/-! ### Texts that are spelled out -/

/-- A text of characters that stand for themselves. -/
def isSpelledOut : List Char → Bool
  | [] => true
  | c :: rest => (if c == '\x7b' then closesBrace rest else isLiteral c) && isSpelledOut rest

/-- The characters of a text one by one, and then something else. -/
def Regex.spelling (t : List Char) (s : Regex) : Regex := t.foldr (fun c s => .seq (.char c) s) s

/-- A text of characters that stand for themselves can be read. -/
lemma reads_spelledOut (h : isSpelledOut t = true) : Reads .choice t (.spelling t .empty) := by
  have hrow : Reads .row t (.spelling t .empty) := by
    induction t with
    | nil => exact .nil
    | cons c rest ih =>
      rw [isSpelledOut, Bool.and_eq_true] at h
      by_cases hc : c = '\x7b'
      · subst hc
        exact .brace (by simpa using h.1) (ih h.2)
      · have hliteral : isLiteral c = true := by simpa [hc] using h.1
        exact .cons (.once (.literal hliteral)) (ih h.2)
  exact .one hrow

lemma Reads.spelling (ht : t.all isLiteral = true) (h : Reads .row u s) : Reads .row (t ++ u) (.spelling t s) := by
  induction t with
  | nil => exact h
  | cons c rest ih =>
    rw [List.all_cons, Bool.and_eq_true] at ht
    rw [List.cons_append, ← List.singleton_append]
    exact .cons (.once (.literal ht.1)) (ih ht.2)

lemma matches_spelling : (Regex.spelling t s).Matches F before word after ↔
    ∃ w, word = t ++ w ∧ s.Matches F (before ++ t) w after := by
  induction t generalizing before word with
  | nil => simp [Regex.spelling]
  | cons c rest ih =>
    constructor
    · intro hm
      cases hm with
      | seq hv hw =>
        cases hv
        obtain ⟨w, rfl, hs⟩ := ih.1 hw
        exact ⟨w, rfl, by simpa using hs⟩
    · rintro ⟨w, rfl, hs⟩
      exact .seq (v := [c]) .char (ih.2 ⟨w, rfl, by simpa using hs⟩)

/-- **A question mark does not stand for itself**: it makes the character before it optional. -/
lemma reads_option {c : Char} (ht : t.all isLiteral = true) (hc : isLiteral c = true) (hu : u.all isLiteral = true) :
    ∃ r, Reads .choice (t ++ c :: '?' :: u) r ∧
      ∀ F text, r.FoundIn F text ↔ t ++ c :: u <:+: text ∨ t ++ u <:+: text := by
  have hrest : Reads .row (u ++ []) (.spelling u .empty) := .spelling hu .nil
  have hoption : Reads .piece ([c] ++ '?' :: []) (.alt (.char c) .empty) := .option (.literal hc) (by simp)
  refine ⟨.spelling t (.seq (.alt (.char c) .empty) (.spelling u .empty)), ?_, fun F text => ?_⟩
  · have hrow := Reads.spelling ht (.cons hoption hrest)
    rw [List.append_nil] at hrow
    exact .one hrow
  · constructor
    · rintro ⟨before, word, after, rfl, hm⟩
      obtain ⟨w, rfl, hs⟩ := matches_spelling.1 hm
      cases hs with
      | seq hv hw =>
        obtain ⟨w', rfl, hempty⟩ := matches_spelling.1 hw
        cases hempty
        cases hv with
        | left hchar =>
          cases hchar
          exact .inl ⟨before, after, by simp⟩
        | right hempty =>
          cases hempty
          exact .inr ⟨before, after, by simp⟩
    · have hempty : ∀ before after : List Char, (Regex.spelling u .empty).Matches F before u after := fun before after =>
        matches_spelling.2 ⟨[], by simp, .empty⟩
      rintro (⟨before, after, rfl⟩ | ⟨before, after, rfl⟩)
      · refine ⟨before, t ++ c :: u, after, by simp, matches_spelling.2 ⟨c :: u, rfl, ?_⟩⟩
        exact .seq (v := [c]) (.left .char) (hempty _ _)
      · refine ⟨before, t ++ u, after, by simp, matches_spelling.2 ⟨u, rfl, ?_⟩⟩
        exact .seq (v := []) (.right .empty) (hempty _ _)

end PageTape.Script
