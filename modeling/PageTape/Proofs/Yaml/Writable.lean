import Mathlib.Data.List.SplitBy
import PageTape.Files.Folder
import PageTape.Proofs.Datum
import PageTape.Proofs.Text.Digits
import PageTape.Yaml.Writer

/-!
# The characters of a written text

Whatever the texts in some data are, the text that it is written as holds only characters that can be written as they
are: what cannot is escaped.  In particular it holds no carriage return, so that it comes through a file line by line
unchanged (`unixLines_write`).
-/

namespace PageTape.Yaml

namespace Style

/-! ### Lines -/

lemma all_indent (indent : ℕ) : (List.replicate indent ' ').all isWritable = true := by
  rw [List.all_eq_true]
  intro c hc
  rw [List.eq_of_mem_replicate hc]
  decide

lemma all_newLine (indent : ℕ) : (newLine indent).all isWritable = true := by
  have hbreak : isWritable '\n' = true := by decide
  rw [newLine, List.all_cons, hbreak, all_indent, Bool.and_self]

lemma flatten_runs (cs : List Char) : (runs cs).flatten = cs :=
  List.flatten_splitBy _ cs

lemma all_runs {cs : List Char} (hcs : cs.all isWritable = true) : ∀ r ∈ runs cs, r.all isWritable = true := by
  rw [← flatten_runs cs, List.all_flatten] at hcs
  exact List.all_eq_true.1 hcs

lemma all_plainRuns {rs : List (List Char)} (hrs : ∀ r ∈ rs, r.all isWritable = true) (indent column : ℕ) :
    (plainRuns indent column rs).all isWritable = true := by
  induction rs generalizing column with
  | nil => rfl
  | cons r rest ih =>
    obtain ⟨hr, hrest⟩ := List.forall_mem_cons.1 hrs
    have hline := all_newLine indent
    unfold plainRuns
    split
    · simp only [List.all_append, hline, ih hrest, Bool.and_self]
    · split
      · simp only [List.all_append, hline, hr, ih hrest, Bool.and_self]
      · simp only [List.all_append, hr, ih hrest, Bool.and_self]

lemma all_singleRuns {rs : List (List Char)} (hrs : ∀ r ∈ rs, r.all isWritable = true) (indent column : ℕ)
    (isFirst : Bool) : (singleRuns indent column isFirst rs).all isWritable = true := by
  induction rs generalizing column isFirst with
  | nil =>
    rw [singleRuns]
    decide
  | cons r rest ih =>
    obtain ⟨hr, hrest⟩ := List.forall_mem_cons.1 hrs
    have hline := all_newLine indent
    have hbreak : (if r.head? == some '\n' then ['\n'] else []).all isWritable = true := by
      split <;> decide
    unfold singleRuns
    split
    · simp only [List.all_append, hbreak, hr, all_indent, ih hrest, Bool.and_self]
    · split
      · simp only [List.all_append, hline, ih hrest, Bool.and_self]
      · simp only [List.all_append, hr, ih hrest, Bool.and_self]

/-! ### Escapes -/

lemma all_hexUpper (width n : ℕ) : (hexUpper width n).all isWritable = true := by
  have hdigit : ∀ d < 16, isWritable (Nat.digitChar d).toUpper = true := by decide
  rw [List.all_eq_true]
  intro c hc
  simp only [hexUpper, Text.hex, List.map_append, List.map_replicate, List.mem_append, List.mem_map] at hc
  rcases hc with hc | ⟨c, hc, rfl⟩
  · rw [List.eq_of_mem_replicate hc]
    decide
  · obtain ⟨d, hd, rfl⟩ := Text.mem_toDigits (by decide) hc
    exact hdigit d hd

/-- What a character is escaped in can be written, and so can a character that is not escaped. -/
lemma all_escape? (c : Char) : ((escape? c).getD [c]).all isWritable = true := by
  have hletters : ∀ e ∈ escapeLetters, isWritable e.2 = true := by decide
  have hmark : isWritable '\\' = true ∧ isWritable 'x' = true ∧ isWritable 'u' = true ∧ isWritable 'U' = true := by
    decide
  cases hletter : escapeLetters.lookup c.toNat with
  | some letter =>
    obtain ⟨before, after, hmem, -⟩ := List.lookup_eq_some_iff.1 hletter
    have hwritable := hletters (c.toNat, letter) (hmem ▸ by simp)
    simp only [escape?, hletter, Option.getD_some, List.all_cons, List.all_nil, hmark, hwritable, Bool.and_self]
  | none =>
    simp only [escape?, hletter]
    split
    · simpa using ‹isWritable c = true›
    · split
      · simp only [Option.getD_some, List.all_cons, all_hexUpper, hmark, Bool.and_self]
      · split
        · simp only [Option.getD_some, List.all_cons, all_hexUpper, hmark, Bool.and_self]
        · simp only [Option.getD_some, List.all_cons, all_hexUpper, hmark, Bool.and_self]

lemma all_foldMark (before : Option Char) (indent : ℕ) (cs : List Char) :
    (foldMark before indent cs).all isWritable = true := by
  have hmark : (if needsBackslash before cs then ['\\'] else []).all isWritable = true := by
    split <;> decide
  rw [foldMark, List.all_append, hmark, all_newLine, Bool.and_self]

lemma all_doubleRest (cs : List Char) (indent column : ℕ) (before : Option Char) (fresh : Bool) :
    (doubleRest indent before fresh column cs).all isWritable = true := by
  induction cs generalizing indent column before fresh with
  | nil =>
    rw [doubleRest]
    decide
  | cons c rest ih =>
    have hescape := all_escape? c
    have hfold := all_foldMark before indent (c :: rest)
    cases he : escape? c with
    | some e =>
      rw [he, Option.getD_some] at hescape
      have hguard : ∀ b : Bool, (if b then ['\\'] else []).all isWritable = true := by decide
      simp only [doubleRest, he]
      split
      · simp only [List.all_append, hescape, hfold, hguard, ih, Bool.and_self]
      · simp only [List.all_append, hescape, ih, Bool.and_self]
    | none =>
      rw [he, Option.getD_none] at hescape
      have hkept : ∀ dropped : Bool,
          (if dropped then [] else if c == ' ' then ['\\', ' '] else [c]).all isWritable = true := by
        intro dropped
        cases dropped with
        | true => rfl
        | false => cases c == ' ' with
          | true =>
            have hpair : ['\\', ' '].all isWritable = true := by decide
            exact hpair
          | false => exact hescape
      simp only [doubleRest, he]
      split
      · simp only [List.all_append, hfold, hkept, ih, Bool.and_self]
      · rw [List.all_cons, ih, Bool.and_true]
        simpa using hescape

/-! ### Scalars -/

/-- Without escapes only a text is written that needs none. -/
lemma all_of_ofText {s : String} (h : ofText s ≠ .double) : s.toList.all isWritable = true := by
  by_contra hnot
  rw [Bool.not_eq_true] at hnot
  apply h
  simp [ofText, hnot]

lemma all_write_ofText (s : String) (indent column : ℕ) :
    ((ofText s).write indent column s).all isWritable = true := by
  cases hstyle : ofText s with
  | plain =>
    have hs := all_of_ofText (s := s) (by rw [hstyle]; decide)
    exact all_plainRuns (all_runs hs) indent column
  | single =>
    have hs := all_of_ofText (s := s) (by rw [hstyle]; decide)
    have hquote : isWritable singleQuote = true := by decide
    rw [write, List.all_cons, hquote, Bool.true_and]
    exact all_singleRuns (all_runs hs) indent (column + 1) true
  | double =>
    have hquote : isWritable '"' = true := by decide
    rw [write, List.all_cons, hquote, Bool.true_and]
    exact all_doubleRest s.toList indent (column + 1) none false

end Style

namespace Writer

open Style (isWritable)

lemma all_key (s : String) : (key s).toList.all isWritable = true := by
  rw [key, String.toList_ofList]
  exact Style.all_write_ofText s 0 0

lemma all_newLine (indent : ℕ) : (newLine indent).toList.all isWritable = true := by
  rw [newLine, String.toList_ofList]
  exact Style.all_newLine indent

lemma all_text (s : String) (indent column : ℕ) : (scalar indent column (.text s)).toList.all isWritable = true := by
  rw [scalar, String.toList_ofList]
  exact Style.all_write_ofText s indent column

lemma all_int (n : ℤ) (indent column : ℕ) : (scalar indent column (.int n)).toList.all isWritable = true := by
  have hchars : Text.intChars.all isWritable = true := by decide
  have hn : (toString n).toList.all isWritable = true := by
    rw [List.all_eq_true] at hchars ⊢
    exact fun c hc => hchars c (Text.mem_intChars hc)
  rw [scalar, String.toList_ofList, Style.write, Datum.quoted]
  · apply Style.all_plainRuns
    rw [← Style.flatten_runs (toString n).toList, List.all_flatten] at hn
    exact List.all_eq_true.1 hn
  · simp
  · simp

lemma all_bool (b : Bool) (indent column : ℕ) : (scalar indent column (.bool b)).toList.all isWritable = true := by
  cases b <;> (rw [scalar]; decide)

/-- The written form of some data, wherever it stands, holds only characters that can be written. -/
def IsClean (d : Datum) : Prop :=
  ∀ (isItem : Bool) (indent column : ℕ), (value isItem indent column d).toList.all isWritable = true

lemma all_items {ds : List Datum} (hds : ∀ d ∈ ds, IsClean d) (indent : ℕ) :
    (items indent ds).toList.all isWritable = true := by
  induction ds with
  | nil => simp [items]
  | cons d rest ih =>
    obtain ⟨hd, hrest⟩ := List.forall_mem_cons.1 hds
    have hdash : "-".toList.all isWritable = true := by decide
    have hnext : (if rest.isEmpty then "" else newLine indent ++ items indent rest).toList.all isWritable = true := by
      split
      · rfl
      · rw [String.toList_append, List.all_append, all_newLine, ih hrest, Bool.and_self]
    rw [items]
    simp only [String.toList_append, List.all_append, hdash, hd true indent (indent + 1), hnext, Bool.and_self]

lemma all_entries {es : List (String × Datum)} (hes : ∀ e ∈ es, IsClean e.2) (indent : ℕ) :
    (entries indent es).toList.all isWritable = true := by
  induction es with
  | nil => simp [entries]
  | cons e rest ih =>
    obtain ⟨hd, hrest⟩ := List.forall_mem_cons.1 hes
    have hcolon : ":".toList.all isWritable = true := by decide
    have hnext : (if rest.isEmpty then "" else newLine indent ++ entries indent rest).toList.all isWritable
        = true := by
      split
      · rfl
      · rw [String.toList_append, List.all_append, all_newLine, ih hrest, Bool.and_self]
    rw [entries]
    simp only [String.toList_append, List.all_append, all_key, hcolon, hd false indent _, hnext, Bool.and_self]

lemma isClean {d : Datum} (h : d.IsTree) : IsClean d := by
  have hblank : " ".toList.all isWritable = true := by decide
  induction h with
  | text s =>
    intro isItem indent column
    rw [value, String.toList_append, List.all_append, hblank, all_text, Bool.and_self]
    all_goals simp
  | int n =>
    intro isItem indent column
    rw [value, String.toList_append, List.all_append, hblank, all_int, Bool.and_self]
    all_goals simp
  | bool b =>
    intro isItem indent column
    rw [value, String.toList_append, List.all_append, hblank, all_bool, Bool.and_self]
    all_goals simp
  | list hds ih =>
    intro isItem indent column
    rw [value]
    split
    · decide
    · split
      · rw [String.toList_append, List.all_append, hblank, all_items ih, Bool.and_self]
      · rw [String.toList_append, List.all_append, all_newLine, all_items ih, Bool.and_self]
  | map hes ih =>
    intro isItem indent column
    rw [value]
    split
    · decide
    · split
      · rw [String.toList_append, List.all_append, hblank, all_entries ih, Bool.and_self]
      · rw [String.toList_append, List.all_append, all_newLine, all_entries ih, Bool.and_self]

end Writer

/-! ### Files -/

/-- **A written text holds only characters that can be written as they are**, whatever the texts and keys of the data
hold. -/
theorem all_write {d : Datum} (h : d.IsTree) : (write d).toList.all Style.isWritable = true := by
  have hend : "\n".toList.all Style.isWritable = true := by decide
  have hscalar : ∀ e : Datum, (Writer.scalar 0 0 e).toList.all Style.isWritable = true →
      (Writer.scalar 0 0 e ++ "\n").toList.all Style.isWritable = true := by
    intro e he
    rw [String.toList_append, List.all_append, he, hend, Bool.and_self]
  cases h with
  | text s => exact hscalar _ (Writer.all_text s 0 0)
  | int n => exact hscalar _ (Writer.all_int n 0 0)
  | bool b => exact hscalar _ (Writer.all_bool b 0 0)
  | @list ds hds =>
    have hitems := Writer.all_items (fun d hd => Writer.isClean (hds d hd)) 0
    rw [write, String.toList_append, List.all_append, hend, Bool.and_true]
    split
    · decide
    · exact hitems
  | @map es hes =>
    have hentries := Writer.all_entries (fun e he => Writer.isClean (hes e he)) 0
    rw [write, String.toList_append, List.all_append, hend, Bool.and_true]
    split
    · decide
    · exact hentries

lemma unixLines_eq {cs : List Char} (h : '\r' ∉ cs) : Files.unixLines cs = cs := by
  fun_induction Files.unixLines cs with
  | case1 => rfl
  | case2 rest ih => exact absurd List.mem_cons_self h
  | case3 c rest hne ih =>
    have hc : c ≠ '\r' := fun hc => h (hc ▸ List.mem_cons_self)
    have hrest : '\r' ∉ rest := fun hrest => h (List.mem_cons_of_mem _ hrest)
    rw [ih hrest]
    simp [hc]

/-- A written text comes through a file, line by line, as it was. -/
lemma unixLines_write {d : Datum} (h : d.IsTree) : Files.unixLines (write d).toList = (write d).toList := by
  apply unixLines_eq
  intro hmem
  have hwritable := List.all_eq_true.1 (all_write h) _ hmem
  revert hwritable
  decide

end PageTape.Yaml
