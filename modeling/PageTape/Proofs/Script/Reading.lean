import Mathlib.Tactic.Lemma
import PageTape.Html.Reference
import PageTape.Script.Line

/-!
# How the language of a script reads it

A `Reader` goes through a script character by character.  It knows code, string literals in single quotes with
backslash escapes, and remarks up to the end of the line; what else a language has (other quotes, literals that touch a
name or each other, a line that goes on behind a backslash) it refuses.  So where `Language.read` gives lines of
tokens, every line has ended outside a literal, every literal has the text that is told, and no remark has gone on into
another line.
-/

namespace PageTape.Script

/-- What stands in a line: code character by character, a string literal with the text that it is read as, and a remark
without its mark. -/
inductive Token where
  | code (c : Char)
  | literal (text : String)
  | remark (text : String)
  deriving DecidableEq, Repr

/-- What a backslash in a literal stands for, together with the character behind it: a character, the character whose
code follows in so many hexadecimal digits, or nothing but the two themselves. -/
inductive Escape where
  | char (c : Char)
  | code (digits : Nat)
  | both
  deriving DecidableEq, Repr

/-- **What a reader must know of a language**: the mark of a remark, which is one character, written once or twice;
the characters that end a line; the characters that begin what the reader does not know; its escapes; whether a literal
may go on over the end of a line; whether a question mark and a greater-than sign in a remark end the program; and what
a script begins with. -/
structure Language where
  mark : Char
  isDouble : Bool
  breaks : List Char
  foreign : List Char
  escape : Char → Option Escape
  spansLines : Bool := false
  hasClosingTag : Bool := false
  opening : List Char := []

/-- Where a reader is: in code, behind the first of two marks, in a literal, behind a backslash, in the digits of a
code, or in a remark. -/
inductive Place where
  | code
  | mark
  | literal (read : List Char)
  | escape (read : List Char)
  | digits (read : List Char) (left value : Nat)
  | remark (read : List Char)
  deriving DecidableEq, Repr

/-- A reader: the lines that it has read, what it has read of the present line, and where it is. -/
structure Reader where
  lines : List (List Token) := []
  line : List Token := []
  place : Place := .code
  deriving DecidableEq, Repr

/-- A literal does not touch a name before it, which would be its prefix, nor another literal. -/
def opensLiteral : Option Token → Bool
  | some (.code c) => !(c.isAlphanum || c == '_')
  | some (.literal _) => false
  | _ => true

namespace Language

variable (L : Language)

/-- A character of code that stands for itself. -/
def isPlain (c : Char) : Bool := c != quote && c != L.mark && !L.breaks.contains c && !L.foreign.contains c

/-- A reader reads a character, unless it must refuse. -/
def step (r : Reader) (c : Char) : Option Reader :=
  match r.place with
  | .code =>
    if L.breaks.contains c then some { r with lines := r.lines ++ [r.line], line := [] }
    else if c == quote then if opensLiteral r.line.getLast? then some { r with place := .literal [] } else none
    else if c == L.mark then some { r with place := if L.isDouble then .mark else .remark [] }
    else if L.foreign.contains c then none
    else some { r with line := r.line ++ [.code c] }
  | .mark => if c == L.mark then some { r with place := .remark [] } else none
  | .literal read =>
    if c == quote then some { r with line := r.line ++ [.literal (String.ofList read)], place := .code }
    else if c == '\\' then some { r with place := .escape read }
    else if L.breaks.contains c && !L.spansLines then none
    else some { r with place := .literal (read ++ [c]) }
  | .escape read => match L.escape c with
    | some (.char d) => some { r with place := .literal (read ++ [d]) }
    | some (.code digits) => some { r with place := .digits read digits 0 }
    | some .both => some { r with place := .literal (read ++ ['\\', c]) }
    | none => none
  | .digits read left value => do
    let value := value * 16 + (← Html.hexValue? c)
    if left = 1 then return { r with place := .literal (read ++ [← Html.char? value]) }
    else return { r with place := .digits read (left - 1) value }
  | .remark read =>
    if L.breaks.contains c then
      some ⟨r.lines ++ [r.line ++ [.remark (String.ofList read)]], [], .code⟩
    else if L.hasClosingTag && c == '>' && read.getLast? == some '?' then none
    else some { r with place := .remark (read ++ [c]) }

/-- A reader reads a text. -/
def run (r : Reader) (text : List Char) : Option Reader := text.foldlM L.step r

/-- **The lines of a script, as the language reads them**; the last line ends in a break too. -/
def read (script : String) : Option (List (List Token)) :=
  if L.opening.isPrefixOf script.toList then
    match L.run {} (script.toList.drop L.opening.length) with
    | some ⟨lines, [], .code⟩ => some lines
    | _ => none
  else none

/-- A remark of this text ends the program. -/
def Closes (text : String) : Prop := L.hasClosingTag = true ∧ ['?', '>'] <:+: text.toList

instance (text : String) : Decidable (L.Closes text) := inferInstanceAs (Decidable (_ ∧ _))

end Language

/-! ### Three languages -/

/-- The escapes that two languages have in common. -/
def sharedEscape (c : Char) : Option Escape :=
  if c == '\\' || c == quote then some (.char c)
  else if c == 'n' then some (.char '\n')
  else if c == 'r' then some (.char '\r')
  else if c == 't' then some (.char '\t')
  else if c == 'x' then some (.code 2)
  else if c == 'u' then some (.code 4)
  else none

/-- JavaScript and TypeScript: two line separators end a line besides line feed and carriage return. -/
def javaScript : Language where
  mark := '/'
  isDouble := true
  breaks := ['\n', '\r', Char.ofNat 0x2028, Char.ofNat 0x2029]
  foreign := ['"', Char.ofNat 0x60, '\\']
  escape := sharedEscape

/-- Python. -/
def python : Language where
  mark := '#'
  isDouble := false
  breaks := ['\n', '\r']
  foreign := ['"', '\\']
  escape := sharedEscape

/-- PHP behind its opening tag.  In single quotes a backslash escapes a quote and another backslash, and elsewhere it is
itself; and a closing tag ends a remark. -/
def php : Language where
  mark := '/'
  isDouble := true
  breaks := ['\n', '\r']
  foreign := ['"', Char.ofNat 0x60, '#', '?', '<']
  escape c := some (if c == '\\' || c == quote then .char c else .both)
  spansLines := true
  hasClosingTag := true
  opening := "<?php\n".toList

namespace Language

variable {L : Language} {r s : Reader} {lines : List (List Token)} {line : List Token} {read cs ds : List Char}
  {c : Char}

/-! ### One character -/

lemma step_code : L.step ⟨lines, line, .code⟩ c =
    if L.breaks.contains c then some ⟨lines ++ [line], [], .code⟩
    else if c == quote then if opensLiteral line.getLast? then some ⟨lines, line, .literal []⟩ else none
    else if c == L.mark then some ⟨lines, line, if L.isDouble then .mark else .remark []⟩
    else if L.foreign.contains c then none
    else some ⟨lines, line ++ [.code c], .code⟩ := rfl

lemma step_mark : L.step ⟨lines, line, .mark⟩ c = if c == L.mark then some ⟨lines, line, .remark []⟩ else none := rfl

lemma step_literal : L.step ⟨lines, line, .literal read⟩ c =
    if c == quote then some ⟨lines, line ++ [.literal (String.ofList read)], .code⟩
    else if c == '\\' then some ⟨lines, line, .escape read⟩
    else if L.breaks.contains c && !L.spansLines then none
    else some ⟨lines, line, .literal (read ++ [c])⟩ := rfl

lemma step_escape : L.step ⟨lines, line, .escape read⟩ c = match L.escape c with
    | some (.char d) => some ⟨lines, line, .literal (read ++ [d])⟩
    | some (.code digits) => some ⟨lines, line, .digits read digits 0⟩
    | some .both => some ⟨lines, line, .literal (read ++ ['\\', c])⟩
    | none => none := rfl

lemma step_remark : L.step ⟨lines, line, .remark read⟩ c =
    if L.breaks.contains c then some ⟨lines ++ [line ++ [.remark (String.ofList read)]], [], .code⟩
    else if L.hasClosingTag && c == '>' && read.getLast? == some '?' then none
    else some ⟨lines, line, .remark (read ++ [c])⟩ := rfl

/-! ### Reading on -/

@[simp] lemma run_nil : L.run r [] = some r := rfl

@[simp] lemma run_cons : L.run r (c :: cs) = (L.step r c).bind (L.run · cs) := List.foldlM_cons

lemma run_append : L.run r (cs ++ ds) = (L.run r cs).bind (L.run · ds) := List.foldlM_append

/-- What has been read is as if it had not been there. -/
lemma run_append_of (h : L.run r cs = some s) : L.run r (cs ++ ds) = L.run s ds := by
  rw [run_append, h, Option.bind_some]

/-- Code is read character by character. -/
lemma run_plain (h : cs.all L.isPlain = true) :
    L.run ⟨lines, line, .code⟩ cs = some ⟨lines, line ++ cs.map .code, .code⟩ := by
  induction cs generalizing line with
  | nil => simp
  | cons c rest ih =>
    rw [List.all_cons, Bool.and_eq_true] at h
    have hstep : L.step ⟨lines, line, .code⟩ c = some ⟨lines, line ++ [.code c], .code⟩ := by
      have hc := h.1
      simp only [isPlain, Bool.and_eq_true, Bool.not_eq_true', bne] at hc
      obtain ⟨⟨⟨hquote, hmark⟩, hbreak⟩, hforeign⟩ := hc
      simp only [step_code, hquote, hmark, hbreak, hforeign, Bool.false_eq_true, if_false]
    rw [run_cons, hstep, Option.bind_some, ih h.2]
    simp

/-- A remark goes on over a character that ends neither the line nor the program. -/
lemma step_remark_on (hbreak : c ∉ L.breaks)
    (hopen : ¬ (L.hasClosingTag = true ∧ c = '>' ∧ read.getLast? = some '?')) :
    L.step ⟨lines, line, .remark read⟩ c = some ⟨lines, line, .remark (read ++ [c])⟩ := by
  have hclose : (L.hasClosingTag && c == '>' && read.getLast? == some '?') = false := by
    rw [Bool.eq_false_iff]
    intro h
    simp only [Bool.and_eq_true, beq_iff_eq] at h
    exact hopen ⟨h.1.1, h.1.2, h.2⟩
  simp only [step_remark, List.contains_eq_mem, hbreak, hclose, decide_false, Bool.false_eq_true, if_false]

/-- A remark goes on as long as neither the line nor the program ends. -/
lemma run_remark (hbreaks : ∀ c ∈ cs, c ∉ L.breaks) (hclose : ¬ L.Closes (String.ofList (read ++ cs))) :
    L.run ⟨lines, line, .remark read⟩ cs = some ⟨lines, line, .remark (read ++ cs)⟩ := by
  induction cs generalizing read with
  | nil => simp
  | cons c rest ih =>
    obtain ⟨hc, hrest⟩ := List.forall_mem_cons.1 hbreaks
    have hopen : ¬ (L.hasClosingTag = true ∧ c = '>' ∧ read.getLast? = some '?') := by
      rintro ⟨htag, rfl, hlast⟩
      obtain ⟨before, rfl⟩ := List.getLast?_eq_some_iff.1 hlast
      exact hclose ⟨htag, before, rest, by simp⟩
    rw [run_cons, step_remark_on hc hopen, Option.bind_some, ih hrest (by simpa using hclose)]
    simp

/-- A remark that holds a closing tag ends the program. -/
lemma run_remark_closes (hbreaks : ∀ c ∈ cs, c ∉ L.breaks) (htag : L.hasClosingTag = true)
    (hclose : ['?', '>'] <:+: cs) : L.run ⟨lines, line, .remark read⟩ cs = none := by
  induction cs generalizing read with
  | nil => simp at hclose
  | cons c rest ih =>
    obtain ⟨hc, hrest⟩ := List.forall_mem_cons.1 hbreaks
    rw [run_cons]
    by_cases hopen : L.hasClosingTag = true ∧ c = '>' ∧ read.getLast? = some '?'
    · obtain ⟨-, rfl, hlast⟩ := hopen
      have hstep : L.step ⟨lines, line, .remark read⟩ '>' = none := by simp [step_remark, hc, htag, hlast]
      rw [hstep, Option.bind_none]
    · rw [step_remark_on hc hopen, Option.bind_some]
      rcases List.infix_cons_iff.1 hclose with hprefix | hinfix
      · obtain ⟨after, hafter⟩ := hprefix
        obtain ⟨rfl, rfl⟩ : '?' = c ∧ '>' :: after = rest := by simpa using hafter
        have hstep : L.step ⟨lines, line, .remark (read ++ ['?'])⟩ '>' = none := by
          simp [step_remark, (List.forall_mem_cons.1 hrest).1, htag]
        rw [run_cons, hstep, Option.bind_none]
      · exact ih hrest hinfix

end Language

end PageTape.Script
