/-!
A place in a YAML text, with the line and the column that a message gives it, and the classes of
characters that the rules of YAML speak of.  At the end of the text stands a character that cannot
occur in it.
-/

namespace PageTape.Yaml

/-- The character at the end of a text. -/
def endChar : Char := Char.ofNat 0

/-- The characters that end a line or the text. -/
def isLineEnd (c : Char) : Bool := c == '\n' || c == endChar || c.toNat == 0x85

/-- The characters between words, and those that end a line or the text. -/
def isGap (c : Char) : Bool := isLineEnd c || c == ' ' || c == '\t'

/-- The characters that break a line. -/
def isBreak (c : Char) : Bool :=
  c == '\n' || c.toNat == 0x85 || c.toNat == 0x2028 || c.toNat == 0x2029

/-- The characters that may stand in a YAML text. -/
def isAllowed (c : Char) : Bool :=
  let n := c.toNat
  n == 9 || n == 10 || n == 13 || (0x20 ≤ n && n ≤ 0x7E) || n == 0x85
    || (0xA0 ≤ n && n ≤ 0xD7FF) || (0xE000 ≤ n && n ≤ 0xFFFD) || 0x10000 ≤ n

/-- A line and a column, both counted from zero. -/
structure Mark where
  line : Nat
  column : Nat
  deriving DecidableEq, Repr, Inhabited

/-- Why a text cannot be read: it breaks a rule of YAML at a place, or as a whole; a character is
given by a number too large; a date does not exist; a number is none, or has no digits at all; a
word is no truth value; or an alias stands for what it is part of. -/
inductive Fault where
  | malformed (mark : Option Mark)
  | characterTooLarge
  | noSuchDate (why : String)
  | notWhole (digits : String) (base : Nat)
  | notReal (text : String)
  | noDigits
  | notTruth {word : String}
  | endless
  deriving DecidableEq, Repr, Inhabited

/-- What is left of a text, and the place where it begins. -/
structure Cursor where
  rest : List Char
  line : Nat := 0
  column : Nat := 0
  index : Nat := 0
  deriving Repr, Inhabited

namespace Cursor

/-- The place. -/
def mark (c : Cursor) : Mark := ⟨c.line, c.column⟩

/-- The next character. -/
def peek (c : Cursor) : Char := c.rest.headD endChar

/-- A character further on. -/
def peekAt (c : Cursor) (n : Nat) : Char := (c.rest.drop n).headD endChar

/-- The place after the next character. -/
def next (c : Cursor) : Cursor :=
  match c.rest with
  | [] => c
  | ch :: rest =>
    if ch == '\n' then ⟨rest, c.line + 1, 0, c.index + 1⟩
    else if ch.toNat == 0xFEFF then ⟨rest, c.line, c.column, c.index + 1⟩
    else ⟨rest, c.line, c.column + 1, c.index + 1⟩

/-- The place after a number of characters. -/
def skip (c : Cursor) : Nat → Cursor
  | 0 => c
  | n + 1 => c.next.skip n

/-- The characters of a class that come next, and the place after them. -/
def takeWhile (c : Cursor) (p : Char → Bool) : List Char × Cursor :=
  let run := c.rest.takeWhile p
  (run, c.skip run.length)

/-- The place after the characters of a class that come next. -/
def dropWhile (c : Cursor) (p : Char → Bool) : Cursor := (c.takeWhile p).2

/-- The line break that comes next, as it counts in a text, and the place after it. -/
def takeBreak (c : Cursor) : List Char × Cursor :=
  let ch := c.peek
  if ch == '\n' || ch.toNat == 0x85 then (['\n'], c.next)
  else if isBreak ch then ([ch], c.next)
  else ([], c)

/-- The text continues with these characters. -/
def startsWith (c : Cursor) (cs : List Char) : Bool := c.rest.take cs.length == cs

/-- Three dashes or three points that stand alone come next, which separate documents. -/
def isSeparator (c : Cursor) : Bool :=
  (c.startsWith ['-', '-', '-'] || c.startsWith ['.', '.', '.']) && isGap (c.peekAt 3)

/-- A loop over the text needs no more steps than this. -/
def fuel (c : Cursor) : Nat := c.rest.length + 1

end Cursor

/-- A fault at the place of a cursor. -/
def Cursor.fault {α : Type} (c : Cursor) : Except Fault α := .error (.malformed (some c.mark))

end PageTape.Yaml
