import PageTape.Yaml.Cursor

/-!
The text of a scalar: plain, in quotes, or as a block of lines.  Each reader begins at the first
character of the scalar and gives the text and the place after it.
-/

namespace PageTape.Yaml

/-! ### Lines that are joined -/

/-- What a run of line breaks counts for between two words: the first is a space if no other
follows it. -/
def joined (first : List Char) (others : List Char) : List Char :=
  if first != ['\n'] then first ++ others else if others.isEmpty then [' '] else others

/-! ### Plain scalars -/

/-- A plain scalar has ended before a character, given the one after it. -/
def endsPlain (inFlow : Bool) (c after : Char) : Bool :=
  if c == ':' && !isGap after then false
  else if c == '?' then false
  else isGap c || (!inFlow && c == ':') || (inFlow && ",:[]\x7b\x7d".toList.contains c)

/-- The next word of a plain scalar. -/
def plainWord (inFlow : Bool) : List Char → List Char
  | [] => []
  | c :: rest =>
    if endsPlain inFlow c (rest.headD endChar) then [] else c :: plainWord inFlow rest

/-- The breaks and the indentation after the first break between two words; nothing if documents
are separated there. -/
def plainBreaks : Nat → Cursor → Option (List Char) × Cursor
  | 0, c => (some [], c)
  | n + 1, c =>
    if c.peek == ' ' then plainBreaks n c.next
    else if isBreak c.peek then
      let (first, c) := c.takeBreak
      if c.isSeparator then (none, c)
      else
        let (others, c) := plainBreaks n c
        (others.map (first ++ ·), c)
    else (some [], c)

/-- What stands between two words of a plain scalar, and whether a line has ended there.  Without
anything the scalar ends. -/
def plainGap (c : Cursor) : List Char × Bool × Cursor :=
  let (blanks, c) := c.takeWhile (· == ' ')
  if isBreak c.peek then
    let (first, c) := c.takeBreak
    if c.isSeparator then ([], true, c)
    else
      match plainBreaks c.fuel c with
      | (some others, c) => (joined first others, true, c)
      | (none, c) => ([], true, c)
  else (blanks, false, c)

/-- The words of a plain scalar from a place on, after what stands between it and the word before;
and whether a line has ended since the last word. -/
def plainWords (inFlow : Bool) (indent : Int) : Nat → List Char → Bool → Cursor →
    List Char × Bool × Cursor
  | 0, _, ended, c => ([], ended, c)
  | n + 1, before, ended, c =>
    let word := plainWord inFlow c.rest
    if c.peek == '#' || word.isEmpty then ([], ended, c)
    else
      let (gap, ended, c) := plainGap (c.skip word.length)
      if gap.isEmpty || c.peek == '#' || (!inFlow && c.column < indent) then
        (before ++ word, ended, c)
      else
        let (more, ended, c) := plainWords inFlow indent n gap ended c
        (before ++ word ++ more, ended, c)

/-- A plain scalar whose lines are indented by a number of columns at least; says whether a line
has ended after it. -/
def plainScalar (inFlow : Bool) (indent : Int) (c : Cursor) : String × Bool × Cursor :=
  let (text, ended, c) := plainWords inFlow indent c.fuel [] false c
  (String.ofList text, ended, c)

/-! ### Quoted scalars -/

/-- The characters that a letter after a backslash stands for. -/
def escapes : List (Char × Nat) := [
  ('0', 0), ('a', 7), ('b', 8), ('t', 9), ('\t', 9), ('n', 10), ('v', 11), ('f', 12), ('r', 13),
  ('e', 27), (' ', 32), ('"', 34), ('/', 47), ('\\', 92), ('N', 0x85), ('_', 0xA0), ('L', 0x2028),
  ('P', 0x2029)]

/-- How many hexadecimal digits follow a letter after a backslash. -/
def codeLengths : List (Char × Nat) := [('x', 2), ('u', 4), ('U', 8)]

/-- The value of a hexadecimal digit. -/
def hexDigit? (c : Char) : Option Nat :=
  if c.isDigit then some (c.toNat - 48)
  else if 'a' ≤ c && c ≤ 'f' then some (c.toNat - 87)
  else if 'A' ≤ c && c ≤ 'F' then some (c.toNat - 55)
  else none

/-- The number that hexadecimal digits stand for; all must be digits. -/
def hexNumber? (cs : List Char) : Option Nat :=
  cs.foldl (fun n c => do return (← n) * 16 + (← hexDigit? c)) (some 0)

/-- A half of a character pair that stands for one character. -/
def isLowHalf (n : Nat) : Bool := 0xDC00 ≤ n && n < 0xE000

/-- The other half. -/
def isHighHalf (n : Nat) : Bool := 0xD800 ≤ n && n < 0xDC00

/-- The second half of a pair, if it comes next. -/
def lowHalf? (c : Cursor) : Option Nat :=
  if c.startsWith ['\\', 'u'] then
    match hexNumber? ((c.rest.drop 2).take 4) with
    | some n => if isLowHalf n then some n else none
    | none => none
  else none

/-- A character given by its number in some hexadecimal digits. -/
def codeEscape (length : Nat) (c : Cursor) : Except Fault (Char × Cursor) :=
  let digits := c.rest.take length
  if digits.length < length then c.fault
  else
    match hexNumber? digits with
    | none => c.fault
    | some n =>
      let c := c.skip length
      match (if isHighHalf n then lowHalf? c else none) with
      | some low => .ok (Char.ofNat (0x10000 + (n - 0xD800) * 0x400 + (low - 0xDC00)), c.skip 6)
      | none =>
        if 0x10FFFF < n then .error .characterTooLarge
        else if isHighHalf n || isLowHalf n then .ok (Char.ofNat 0xFFFD, c)
        else .ok (Char.ofNat n, c)

/-- The breaks between the lines of a quoted scalar, blanks around them dropped. -/
def quotedBreaks : Nat → Cursor → Except Fault (List Char × Cursor)
  | 0, c => .ok ([], c)
  | n + 1, c => do
    if c.isSeparator then c.fault
    else
      let c := c.dropWhile fun ch => ch == ' ' || ch == '\t'
      if isBreak c.peek then
        let (first, c) := c.takeBreak
        let (others, c) ← quotedBreaks n c
        return (first ++ others, c)
      else return ([], c)

/-- The single quote. -/
def singleQuote : Char := Char.ofNat 39

/-- What follows a backslash in double quotes. -/
def escaped (c : Cursor) : Except Fault (List Char × Cursor) :=
  let ch := c.peek
  match escapes.lookup ch, codeLengths.lookup ch with
  | some n, _ => .ok ([Char.ofNat n], c.next)
  | none, some length => (codeEscape length c.next).map fun (x, c) => ([x], c)
  | none, none =>
    if isBreak ch then
      let (_, c) := c.takeBreak
      quotedBreaks c.fuel c
    else c.fault

/-- The blanks and breaks that come next in a quoted scalar. -/
def quotedGap (c : Cursor) : Except Fault (List Char × Cursor) := do
  let (blanks, c) := c.takeWhile fun ch => ch == ' ' || ch == '\t'
  if c.rest.isEmpty then c.fault
  else if isBreak c.peek then
    let (first, c) := c.takeBreak
    let (others, c) ← quotedBreaks c.fuel c
    return (joined first others, c)
  else return (blanks, c)

/-- A quoted scalar after its first quote. -/
def quotedRest (double : Bool) : Nat → Cursor → Except Fault (List Char × Cursor)
  | 0, c => c.fault
  | n + 1, c => do
    let ch := c.peek
    let quote := if double then '"' else singleQuote
    let add := fun (read : List Char × Cursor) => do
      let (more, c) ← quotedRest double n read.2
      return (read.1 ++ more, c)
    if !double && ch == singleQuote && c.peekAt 1 == singleQuote then add ([ch], c.skip 2)
    else if ch == quote then return ([], c.next)
    else if double && ch == '\\' then add (← escaped c.next)
    else if isGap ch || isBreak ch then add (← quotedGap c)
    else add ([ch], c.next)

/-- A quoted scalar. -/
def quotedScalar (double : Bool) (c : Cursor) : Except Fault (String × Cursor) := do
  let (text, c) ← quotedRest double (c.fuel + 1) c.next
  return (String.ofList text, c)

/-! ### Block scalars -/

/-- What becomes of the line breaks at the end of a block: all but one are dropped, all are, or
none. -/
inductive Chomping where
  | clip | strip | keep
  deriving DecidableEq, Repr, Inhabited

/-- The chomping that a sign asks for. -/
def chomping? (c : Char) : Option Chomping :=
  if c == '+' then some .keep else if c == '-' then some .strip else none

/-- An indentation that is given by a digit, and the place after it. -/
def blockIncrement (c : Cursor) : Except Fault (Option Nat × Cursor) :=
  if c.peek == '0' then c.fault
  else if c.peek.isDigit then .ok (some (c.peek.toNat - 48), c.next)
  else .ok (none, c)

/-- The signs after the first character of a block scalar, in either order. -/
def blockSigns (c : Cursor) : Except Fault (Chomping × Option Nat × Cursor) := do
  match chomping? c.peek with
  | some chomping =>
    let (increment, c) ← blockIncrement c.next
    return (chomping, increment, c)
  | none =>
    let (increment, c) ← blockIncrement c
    match increment, chomping? c.peek with
    | some _, some chomping => return (chomping, increment, c.next)
    | _, _ => return (.clip, increment, c)

/-- The rest of the first line of a block scalar, which holds a comment at most. -/
def blockHead (c : Cursor) : Except Fault Cursor :=
  if !isGap c.peek || c.peek == '\t' then c.fault
  else
    let c := c.dropWhile (· == ' ')
    let c := if c.peek == '#' then c.dropWhile fun ch => !isLineEnd ch else c
    if isLineEnd c.peek then .ok c.takeBreak.2 else c.fault

/-- The empty lines before the first line of a block: their breaks, the column of the first of
them, and the deepest indentation. -/
def leadingBreaks : Nat → Option Nat → Nat → Cursor → List Char × Option Nat × Nat × Cursor
  | 0, first, deepest, c => ([], first, deepest, c)
  | n + 1, first, deepest, c =>
    if c.peek == ' ' then
      let c := c.next
      leadingBreaks n first (max deepest c.column) c
    else if isBreak c.peek then
      let (chars, after) := c.takeBreak
      let (more, rest) := leadingBreaks n (some (first.getD c.column)) deepest after
      (chars ++ more, rest)
    else ([], first, deepest, c)

/-- The place after the blanks before a column. -/
def intoColumn (indent : Nat) : Nat → Cursor → Cursor
  | 0, c => c
  | n + 1, c => if c.column < indent && c.peek == ' ' then intoColumn indent n c.next else c

/-- The empty lines within a block. -/
def blockBreaks (indent : Nat) : Nat → Cursor → List Char × Cursor
  | 0, c => ([], c)
  | n + 1, c =>
    let c := intoColumn indent c.fuel c
    if isBreak c.peek then
      let (first, c) := c.takeBreak
      let (others, c) := blockBreaks indent n c
      (first ++ others, c)
    else ([], c)

/-- A blank within a line. -/
def isBlankChar (c : Char) : Bool := c == ' ' || c == '\t'

/-- How a block is read: folded or line by line, its chomping and its indentation, and whether a
separator of documents ends it. -/
structure Block where
  folded : Bool
  chomping : Chomping
  indent : Nat
  atTop : Bool
  deriving DecidableEq, Repr, Inhabited

/-- What stands at the end of a block, after its last break and the empty lines. -/
def Block.tail (b : Block) (last others : List Char) : List Char :=
  match b.chomping with
  | .clip => last
  | .strip => []
  | .keep => last ++ others

/-- The lines of a block, after the breaks that stand before the first of them. -/
def blockLines (b : Block) : Nat → List Char → Cursor → List Char × Cursor
  | 0, _, c => ([], c)
  | n + 1, before, c =>
    let wordFirst := !isBlankChar c.peek
    let (line, c) := c.takeWhile fun ch => !isLineEnd ch
    let (last, c) := c.takeBreak
    let (others, c) := blockBreaks b.indent c.fuel c
    let goesOn := c.column == b.indent && !c.rest.isEmpty
      && !(b.atTop && c.column == 0 && c.isSeparator)
    if goesOn then
      let between :=
        if b.folded && last == ['\n'] && wordFirst && !isBlankChar c.peek then
          if others.isEmpty then [' '] else []
        else last
      let (more, c) := blockLines b n others c
      (before ++ line ++ between ++ more, c)
    else (before ++ line ++ b.tail last others, c)

/-- A block scalar within an indentation. -/
def blockScalar (folded : Bool) (indent : Int) (c : Cursor) : Except Fault (String × Cursor) := do
  let (chomping, increment, c) ← blockSigns c.next
  let c ← blockHead c
  let least := (indent + 1).toNat
  let (column, breaks, c) ← match increment with
    | some n =>
      let column := max least 1 + n - 1
      let (breaks, c) := blockBreaks column c.fuel c
      pure (column, breaks, c)
    | none =>
      let (breaks, first, deepest, c) := leadingBreaks c.fuel none 0 c
      if first.any fun f => 0 < f && f < deepest then throw (.malformed none)
      pure (max least deepest, breaks, c)
  let atTop := least == 0 && increment.isNone
  let block : Block := { folded, chomping, indent := column, atTop }
  if c.column == column && !c.rest.isEmpty then
    let (text, c) := blockLines block c.fuel breaks c
    return (String.ofList text, c)
  else return (String.ofList (block.tail [] breaks), c)

end PageTape.Yaml
