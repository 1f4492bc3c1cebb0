import PageTape.Text.Quoted
import PageTape.Yaml.Plain

/-!
How a text is written as a scalar: without quotes where it reads back as itself, else in single
quotes, or in double quotes where characters must be escaped.  A long line goes on in the next one,
indented, which reads back as a blank; what a writer adds depends on the column that it has reached.
-/

namespace PageTape.Yaml

/-- How a scalar is written. -/
inductive Style where
  | plain | single | double
  deriving DecidableEq, Repr, Inhabited

namespace Style

/-! ### Which style a text needs -/

/-- White space before or after an indicator. -/
def isSpaceChar (c : Char) : Bool :=
  c == ' ' || c == '\t' || c == '\r' || c == endChar || isBreak c

/-- Characters that a scalar without quotes cannot begin with. -/
def isIndicator (c : Char) : Bool :=
  "#,[]\x7b\x7d&*!|>\"%@".toList.contains c || c == singleQuote || c.toNat == 0x60

/-- Nothing or white space comes next. -/
def endsWord (cs : List Char) : Bool := cs.head?.all isSpaceChar

/-- A colon before white space or a number sign after it comes next or later. -/
def hasIndicator (before : Char) : List Char → Bool
  | [] => false
  | c :: rest =>
    (c == ':' && endsWord rest) || (c == '#' && isSpaceChar before) || hasIndicator c rest

/-- A text that would read as something other than a scalar. -/
def isStructural (cs : List Char) : Bool :=
  let begins := match cs with
    | c :: rest => isIndicator c || ((c == '?' || c == ':' || c == '-') && endsWord rest)
    | [] => false
  begins || cs.take 3 == ['-', '-', '-'] || cs.take 3 == ['.', '.', '.']
    || hasIndicator (cs.headD endChar) cs.tail

/-- A character that can be written as it is. -/
def isWritable (c : Char) : Bool :=
  let n := c.toNat
  c == '\n' || (0x20 ≤ n && n ≤ 0x7E) || n == 0x85
    || (0xA0 ≤ n && n ≤ 0xFFFD && n != 0xFEFF) || 0x10000 ≤ n

/-- A blank beside a line break. -/
def hasLooseBlank : List Char → Bool
  | a :: b :: rest =>
    (a == ' ' && isBreak b) || (isBreak a && b == ' ') || hasLooseBlank (b :: rest)
  | _ => false

/-- White space at an end. -/
def hasLooseEnd (cs : List Char) : Bool :=
  let isLoose := fun c => c == ' ' || isBreak c
  cs.head?.any isLoose || cs.getLast?.any isLoose

/-- The style that a text is written in. -/
def ofText (s : String) : Style :=
  let cs := s.toList
  let needsEscapes := !cs.all isWritable || hasLooseBlank cs
  if !needsEscapes && Plain.kind s == .text && !hasLooseEnd cs && !cs.any isBreak
    && !isStructural cs then .plain
  else if needsEscapes || cs.contains singleQuote || cs.contains '\n' then .double
  else .single

/-! ### Lines -/

/-- A line is ended after this column where it can be. -/
def width : Nat := 80

/-- A line break and the indentation of the next line. -/
def newLine (indent : Nat) : List Char := '\n' :: List.replicate indent ' '

/-- Runs of blanks and of other characters. -/
def runs (cs : List Char) : List (List Char) :=
  cs.splitBy fun a b => (a == ' ') == (b == ' ') && isBreak a == isBreak b

/-- A run of blanks. -/
def isBlankRun (run : List Char) : Bool := run.head? == some ' '

/-- A single blank, where the line has passed its width. -/
def isFoldable (column : Nat) (run : List Char) : Bool := run == [' '] && width < column

/-- Runs without quotes from a column on: a word that does not fit begins a line. -/
def plainRuns (indent column : Nat) : List (List Char) → List Char
  | [] => []
  | run :: rest =>
    if isFoldable column run then newLine indent ++ plainRuns indent indent rest
    else if !isBlankRun run && width < column + run.length && indent < column then
      newLine indent ++ run ++ plainRuns indent (indent + run.length) rest
    else run ++ plainRuns indent (column + run.length) rest

/-- Runs in single quotes from a column on, and the quote after them. -/
def singleRuns (indent column : Nat) (isFirst : Bool) : List (List Char) → List Char
  | [] => [singleQuote]
  | run :: rest =>
    if run.any isBreak then
      (if run.head? == some '\n' then ['\n'] else []) ++ run ++ List.replicate indent ' '
        ++ singleRuns indent indent false rest
    else if isFoldable column run && !isFirst && !rest.isEmpty then
      newLine indent ++ singleRuns indent indent false rest
    else run ++ singleRuns indent (column + run.length) false rest

/-! ### Escapes -/

/-- The letters that are written for characters after a backslash. -/
def escapeLetters : List (Nat × Char) := [
  (0, '0'), (7, 'a'), (8, 'b'), (9, 't'), (10, 'n'), (11, 'v'), (12, 'f'), (13, 'r'), (27, 'e'),
  (34, '"'), (92, '\\'), (0x85, 'N'), (0x2028, 'L'), (0x2029, 'P')]

/-- Upper-case hexadecimal digits. -/
def hexUpper (digits n : Nat) : List Char := (Text.hex digits n).map Char.toUpper

/-- The escape that is written for a character, if it needs one. -/
def escape? (c : Char) : Option (List Char) :=
  let n := c.toNat
  match escapeLetters.lookup n with
  | some letter => some ['\\', letter]
  | none =>
    if isWritable c then none
    else if n < 0x100 then some ('\\' :: 'x' :: hexUpper 2 n)
    else if n < 0x10000 then some ('\\' :: 'u' :: hexUpper 4 n)
    else some ('\\' :: 'U' :: hexUpper 8 n)

/-- A line that ends before some text needs a backslash, unless a single blank or a word without
quotes comes next. -/
def needsBackslash (before : Option Char) (cs : List Char) : Bool :=
  match cs with
  | c :: next :: _ =>
    let word := cs.takeWhile (· != ' ')
    !cs.contains ' ' || word.contains '"' || word.contains singleQuote || next == ' '
      || (before == some ' ' && c == ' ')
  | _ => true

/-- What ends a line in double quotes. -/
def foldMark (before : Option Char) (indent : Nat) (cs : List Char) : List Char :=
  (if needsBackslash before cs then ['\\'] else []) ++ newLine indent

/-- Text in double quotes from a column on, and the quote after it.  A line may end before a blank
or at an escape, not at the ends of the text; `fresh` says that a line or an escape has just
ended. -/
def doubleRest (indent : Nat) (before : Option Char) (fresh : Bool) (column : Nat) :
    List Char → List Char
  | [] => ['"']
  | c :: rest =>
    let canFold := before.isSome && !rest.isEmpty
    let backslash := needsBackslash before (c :: rest)
    match escape? c with
    | some escape =>
      let column := column + escape.length
      if canFold && width + 1 < column then
        let guarded := backslash && rest.head? == some ' '
        escape ++ foldMark before indent (c :: rest) ++ (if guarded then ['\\'] else [])
          ++ doubleRest indent (some c) true (if guarded then indent + 1 else indent) rest
      else escape ++ doubleRest indent (some c) true column rest
    | none =>
      if canFold && (c == ' ' || fresh) && width < column then
        let dropped := c == ' ' && !backslash
        let kept := if dropped then [] else if c == ' ' then ['\\', ' '] else [c]
        foldMark before indent (c :: rest) ++ kept
          ++ doubleRest indent (some c) dropped (indent + kept.length) rest
      else c :: doubleRest indent (some c) false (column + 1) rest

/-! ### Scalars -/

/-- A text as a scalar that begins at a column, with the indentation of the lines after the
first. -/
def write (style : Style) (indent column : Nat) (s : String) : List Char :=
  match style with
  | .plain => plainRuns indent column (runs s.toList)
  | .single => singleQuote :: singleRuns indent (column + 1) true (runs s.toList)
  | .double => '"' :: doubleRest indent none false (column + 1) s.toList

end Style

end PageTape.Yaml
