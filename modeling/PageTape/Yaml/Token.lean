import PageTape.Yaml.Scalar

/-!
The tokens of a YAML text.  Indentation gives tokens too: the beginning of a block collection
stands before its first entry, the end before the first token that is indented less.  That a scalar
is a key is known only when a colon follows it, and the token for the key then goes in before it;
so every token has a number, and a possible key is remembered by the number of its first token.
-/

namespace PageTape.Yaml

/-- What a token is.  A tag has a handle and the rest of its name; a directive its name, and for
`YAML` the major version. -/
inductive TokenKind where
  | directive (name : String) (major : Option Nat)
  | documentStart | documentEnd | streamEnd
  | blockSeqStart | blockMapStart | blockEnd
  | flowSeqStart | flowSeqEnd | flowMapStart | flowMapEnd
  | blockEntry | flowEntry | key | value
  | alias (name : String)
  | anchor (name : String)
  | tag (handle : Option String) (suffix : String)
  | scalar (text : String) (isPlain : Bool)
  deriving DecidableEq, Repr, Inhabited

/-- A token and where it begins and ends. -/
structure Token where
  kind : TokenKind
  start : Mark
  stop : Mark
  deriving DecidableEq, Repr, Inhabited

/-- A token that may turn out to be a key: its number, where it is, and whether it must be one. -/
structure PossibleKey where
  number : Nat
  mark : Mark
  index : Nat
  isRequired : Bool
  deriving DecidableEq, Repr, Inhabited

/-- The state of reading tokens.  They are kept newest first; the indentations that are open and
the flow collections that are open from the inside out, a list being `true` among these. -/
structure Lexer where
  cursor : Cursor
  tokens : List Token := []
  indent : Int := -1
  indents : List Int := []
  flow : List Bool := []
  allowsKey : Bool := true
  keys : List (Nat × PossibleKey) := []
  deriving Repr, Inhabited

namespace Lexer

/-- How many flow collections are open. -/
def level (l : Lexer) : Nat := l.flow.length

/-- Within a flow collection. -/
def inFlow (l : Lexer) : Bool := !l.flow.isEmpty

/-- With one more token. -/
def push (l : Lexer) (kind : TokenKind) (start stop : Mark) : Lexer :=
  { l with tokens := ⟨kind, start, stop⟩ :: l.tokens }

/-- With a token of no width where the cursor is. -/
def pushHere (l : Lexer) (kind : TokenKind) : Lexer := l.push kind l.cursor.mark l.cursor.mark

/-- With a token put in so that it has a number. -/
def insert (l : Lexer) (number : Nat) (token : Token) : Lexer :=
  { l with tokens := l.tokens.insertIdx (l.tokens.length - number) token }

/-- With a token of some characters, and the cursor after it. -/
def take (l : Lexer) (kind : TokenKind) (width : Nat) : Lexer :=
  let after := l.cursor.skip width
  { l.push kind l.cursor.mark after.mark with cursor := after }

/-- With a token that ends at a cursor. -/
def takeTo (l : Lexer) (kind : TokenKind) (after : Cursor) : Lexer :=
  { l.push kind l.cursor.mark after.mark with cursor := after }

/-! ### Possible keys -/

/-- A possible key cannot be one any more. -/
def giveUp (l : Lexer) (key : PossibleKey) : Except Fault Unit :=
  if key.isRequired then l.cursor.fault else .ok ()

/-- Without the possible key of the open collection. -/
def removeKey (l : Lexer) : Except Fault Lexer := do
  match l.keys.lookup l.level with
  | none => return l
  | some key =>
    l.giveUp key
    return { l with keys := l.keys.filter (·.1 != l.level) }

/-- A key must end on its line and within this many characters. -/
def longestKey : Nat := 1024

/-- A possible key lies too far back. -/
def isStale (l : Lexer) (key : PossibleKey) : Bool :=
  key.mark.line != l.cursor.line || longestKey < l.cursor.index - key.index

/-- Without the possible keys that lie too far back. -/
def dropStale (l : Lexer) : Except Fault Lexer := do
  (l.keys.filter fun k => l.isStale k.2).forM fun k => l.giveUp k.2
  return { l with keys := l.keys.filter fun k => !l.isStale k.2 }

/-- With what comes next as a possible key, if a key may stand there. -/
def saveKey (l : Lexer) : Except Fault Lexer := do
  if l.allowsKey then
    let isRequired := !l.inFlow && l.indent == l.cursor.column
    let l ← l.removeKey
    let key : PossibleKey := ⟨l.tokens.length, l.cursor.mark, l.cursor.index, isRequired⟩
    return { l with keys := l.keys ++ [(l.level, key)] }
  else return l

/-! ### Indentation -/

/-- With the ends of the blocks that are indented more than a column, at most a number of them. -/
def unwindUpTo (l : Lexer) (column : Int) : Nat → Lexer
  | 0 => l
  | n + 1 =>
    if column < l.indent then
      let l := l.pushHere .blockEnd
      unwindUpTo { l with indent := l.indents.headD (-1), indents := l.indents.tail } column n
    else l

/-- With the ends of the blocks that are indented more than a column; flow collections do not heed
indentation. -/
def unwind (l : Lexer) (column : Int) : Lexer :=
  if l.inFlow then l else l.unwindUpTo column (l.indents.length + 1)

/-- The column is deeper than the block, and becomes the indentation of a new one. -/
def deepen (l : Lexer) (column : Int) : Option Lexer :=
  if l.indent < column then some { l with indents := l.indent :: l.indents, indent := column }
  else none

/-- A block collection begins where the cursor is, unless it has begun. -/
def openBlock (l : Lexer) (kind : TokenKind) : Lexer :=
  match l.deepen l.cursor.column with
  | some l => l.pushHere kind
  | none => l

/-! ### The tokens -/

/-- The end of the text. -/
def fetchEnd (l : Lexer) : Except Fault Lexer := do
  let l ← (l.unwind (-1)).removeKey
  return { l.pushHere .streamEnd with allowsKey := false, keys := [] }

/-- A line that separates documents. -/
def fetchSeparator (l : Lexer) (kind : TokenKind) : Except Fault Lexer := do
  let l ← (l.unwind (-1)).removeKey
  return { l.take kind 3 with allowsKey := false }

/-- The beginning of a flow collection. -/
def fetchOpening (l : Lexer) (kind : TokenKind) (isList : Bool) : Except Fault Lexer := do
  let l ← l.saveKey
  return { l.take kind 1 with flow := isList :: l.flow, allowsKey := true }

/-- The end of a flow collection. -/
def fetchClosing (l : Lexer) (kind : TokenKind) : Except Fault Lexer := do
  let l ← l.removeKey
  return { l.take kind 1 with flow := l.flow.tail, allowsKey := false }

/-- A comma of a flow collection. -/
def fetchFlowEntry (l : Lexer) : Except Fault Lexer := do
  let l ← { l with allowsKey := true }.removeKey
  return l.take .flowEntry 1

/-- The dash before an entry of a block list. -/
def fetchBlockEntry (l : Lexer) : Except Fault Lexer := do
  if !l.inFlow && !l.allowsKey then l.cursor.fault
  else
    let l := if l.inFlow then l else l.openBlock .blockSeqStart
    let l ← { l with allowsKey := true }.removeKey
    return l.take .blockEntry 1

/-- The question mark before a key. -/
def fetchKey (l : Lexer) : Except Fault Lexer := do
  if !l.inFlow && !l.allowsKey then l.cursor.fault
  else
    let l := if l.inFlow then l else l.openBlock .blockMapStart
    let l ← { l with allowsKey := !l.inFlow }.removeKey
    return l.take .key 1

/-- The key before a colon turns out to be one. -/
def becomeKey (l : Lexer) (key : PossibleKey) : Lexer :=
  let l := l.insert key.number ⟨.key, key.mark, key.mark⟩
  let l := if l.inFlow then l else
    match l.deepen key.mark.column with
    | some l => l.insert key.number ⟨.blockMapStart, key.mark, key.mark⟩
    | none => l
  { l with keys := l.keys.filter (·.1 != l.level), allowsKey := false }

/-- The colon before a value. -/
def fetchValue (l : Lexer) : Except Fault Lexer := do
  match l.keys.lookup l.level with
  | some key => return (l.becomeKey key).take .value 1
  | none =>
    if !l.inFlow && !l.allowsKey then l.cursor.fault
    else
      let l := if l.inFlow then l else l.openBlock .blockMapStart
      let l ← { l with allowsKey := !l.inFlow }.removeKey
      return l.take .value 1

/-- The characters of the name of an anchor. -/
def isAnchorChar (c : Char) : Bool :=
  let n := c.toNat
  !",[]\x7b\x7d".toList.contains c
    && ((0x21 ≤ n && n ≤ 0x7E) || (0xA0 ≤ n && n ≤ 0xFFFD && n != 0xFEFF) || 0x10000 ≤ n)

/-- The characters that may follow the name of an anchor. -/
def endsAnchor (c : Char) : Bool :=
  isGap c || isBreak c || "?:,[]\x7b\x7d%@".toList.contains c || c.toNat == 0x60

/-- An anchor or an alias. -/
def fetchAnchor (l : Lexer) (kind : String → TokenKind) : Except Fault Lexer := do
  let l ← l.saveKey
  let (name, after) := l.cursor.next.takeWhile isAnchorChar
  if name.isEmpty || !endsAnchor after.peek then after.fault
  else return { l.takeTo (kind (String.ofList name)) after with allowsKey := false }

/-- The characters of a tag. -/
def isTagChar (c : Char) : Bool := c.isAlphanum || "-;/?:@&=+$,_.!~*'()[]%#".toList.contains c

/-- The characters of the handle of a tag. -/
def isHandleChar (c : Char) : Bool := c.isAlphanum || c == '-' || c == '_'

/-- The handle and the rest of the name of a tag, and the place after it. -/
def readTag (c : Cursor) : Except Fault (Option String × String × Cursor) := do
  let suffix := fun (c : Cursor) => c.takeWhile isTagChar
  if c.peekAt 1 == '<' then
    let (name, after) := suffix (c.skip 2)
    if name.isEmpty || after.peek != '>' then after.fault
    else return (none, String.ofList name, after.next)
  else if isGap (c.peekAt 1) then return (none, "!", c.next)
  else
    let word := c.rest.tail.takeWhile fun ch => !isGap ch
    if word.contains '!' then
      let (handle, after) := c.next.takeWhile isHandleChar
      if after.peek != '!' then after.fault
      else
        let (name, rest) := suffix after.next
        if name.isEmpty then rest.fault
        else return (some (String.ofList ('!' :: handle ++ ['!'])), String.ofList name, rest)
    else
      let (name, after) := suffix c.next
      if name.isEmpty then after.fault
      else return (some "!", String.ofList name, after)

/-- A tag. -/
def fetchTag (l : Lexer) : Except Fault Lexer := do
  let l ← l.saveKey
  let (handle, name, after) ← readTag l.cursor
  if !isGap after.peek || after.peek == '\t' then after.fault
  else return { l.takeTo (.tag handle name) after with allowsKey := false }

/-- A block scalar. -/
def fetchBlock (l : Lexer) (folded : Bool) : Except Fault Lexer := do
  let l ← { l with allowsKey := true }.removeKey
  let (text, after) ← blockScalar folded l.indent l.cursor
  return l.takeTo (.scalar text false) after

/-- A scalar in quotes. -/
def fetchQuoted (l : Lexer) (double : Bool) : Except Fault Lexer := do
  let l ← l.saveKey
  let (text, after) ← quotedScalar double l.cursor
  return { l.takeTo (.scalar text false) after with allowsKey := false }

/-- A plain scalar.  After the end of a line a key may stand. -/
def fetchPlain (l : Lexer) : Except Fault Lexer := do
  let l ← l.saveKey
  let (text, ended, after) := plainScalar l.inFlow (l.indent + 1) l.cursor
  return { l.takeTo (.scalar text true) after with allowsKey := ended }

/-- The major version that a `YAML` directive names, and the place after it. -/
def readVersion (c : Cursor) : Except Fault (Nat × Cursor) := do
  let (major, c) := (c.dropWhile (· == ' ')).takeWhile Char.isDigit
  if major.isEmpty || c.peek != '.' then c.fault
  else
    let (minor, c) := c.next.takeWhile Char.isDigit
    if minor.isEmpty || !isGap c.peek then c.fault
    else return (major.foldl (fun n d => n * 10 + (d.toNat - 48)) 0, c)

/-- A directive, up to the end of its line. -/
def fetchDirective (l : Lexer) : Except Fault Lexer := do
  let l ← (l.unwind (-1)).removeKey
  let (name, c) := l.cursor.next.takeWhile fun ch => isHandleChar ch || ch == ':' || ch == '.'
  if name.isEmpty || !isGap c.peek then c.fault
  else
    let name := String.ofList name
    let (major, c) ← if name == "YAML" then (readVersion c).map fun (n, c) => (some n, c)
      else pure (none, c.dropWhile fun ch => !isLineEnd ch)
    let c := c.dropWhile (· == ' ')
    let c := if c.peek == '#' then c.dropWhile fun ch => !isLineEnd ch else c
    if !isLineEnd c.peek then c.fault
    else return { l.takeTo (.directive name major) c.takeBreak.2 with allowsKey := false }

/-! ### What comes next -/

/-- The cursor after the blanks, the comments and the line breaks that come next, up to the first
comment or empty line; whether a line has ended; and whether it stopped at one of those. -/
def gapFrom (inFlow : Bool) : Nat → Bool → Cursor → Cursor × Bool × Bool
  | 0, ended, c => (c, ended, false)
  | n + 1, ended, c =>
    let c := c.dropWhile fun ch => ch == ' ' || (inFlow && ch == '\t')
    if c.peek == '#' then
      let c := (c.dropWhile fun ch => !isLineEnd ch).takeBreak.2
      (c.dropWhile isBreak, true, true)
    else if isBreak c.peek then
      let c := c.takeBreak.2
      if c.peek == '\n' then
        (c.dropWhile fun ch => isBreak ch || ch == ' ' || ch == '\t', true, true)
      else gapFrom inFlow n true c
    else (c, ended, false)

/-- The colon that comes next stands before a value. -/
def isValueMark (l : Lexer) : Bool :=
  match l.flow with
  | [] => isGap (l.cursor.peekAt 1)
  | true :: _ => isGap (l.cursor.peekAt 1)
  | false :: _ =>
    isGap (l.cursor.peekAt 1) || !(l.tokens.head?.any (·.kind == .value))

/-- A plain scalar may begin with what comes next. -/
def beginsPlain (l : Lexer) : Bool :=
  let c := l.cursor.peek
  let after := l.cursor.peekAt 1
  if !(isGap c || isBreak c || c.toNat == 0x60
    || "-?:,[]\x7b\x7d#&*!|>\"%@".toList.contains c || c == singleQuote) then true
  else if c == '-' then !isGap after
  else if c == ':' && l.inFlow then after != ' ' && after != '\t'
  else !l.inFlow && (c == '?' || c == ':') && !isGap after

/-- The next token.  The text of a line that begins with a percent sign, three dashes or three
points is not part of a document. -/
def fetch (l : Lexer) : Except Fault Lexer :=
  let c := l.cursor
  let gapAfter := isGap (c.peekAt 1)
  if c.rest.isEmpty then l.fetchEnd
  else if c.column == 0 && c.peek == '%' then l.fetchDirective
  else if c.column == 0 && c.isSeparator then
    l.fetchSeparator (if c.peek == '-' then .documentStart else .documentEnd)
  else if c.peek == '[' then l.fetchOpening .flowSeqStart true
  else if c.peek == '\x7b' then l.fetchOpening .flowMapStart false
  else if c.peek == ']' then l.fetchClosing .flowSeqEnd
  else if c.peek == '\x7d' then l.fetchClosing .flowMapEnd
  else if c.peek == ',' then l.fetchFlowEntry
  else if c.peek == '-' && gapAfter then l.fetchBlockEntry
  else if c.peek == '?' && (l.inFlow || gapAfter) then l.fetchKey
  else if c.peek == ':' && l.isValueMark then l.fetchValue
  else if c.peek == '*' then l.fetchAnchor .alias
  else if c.peek == '&' then l.fetchAnchor .anchor
  else if c.peek == '!' then l.fetchTag
  else if !l.inFlow && (c.peek == '|' || c.peek == '>') then l.fetchBlock (c.peek == '>')
  else if c.peek == singleQuote || c.peek == '"' then l.fetchQuoted (c.peek == '"')
  else if l.beginsPlain then l.fetchPlain
  else c.fault

/-- One step of reading: over a comment or empty lines, or a token. -/
def advance (l : Lexer) : Except Fault Lexer := do
  let (cursor, ended, stopped) := gapFrom l.inFlow l.cursor.fuel false l.cursor
  let l := { l with cursor, allowsKey := l.allowsKey || (ended && !l.inFlow) }
  if stopped then l.dropStale
  else
    let l ← l.dropStale
    (← (l.unwind l.cursor.column).fetch).dropStale

/-- The end has been read. -/
def isDone (l : Lexer) : Bool := l.tokens.head?.any (·.kind == .streamEnd)

/-- Reads tokens to the end or up to a fault, in at most a number of steps. -/
def run : Nat → Lexer → Lexer × Option Fault
  | 0, l => (l, none)
  | n + 1, l =>
    if l.isDone then (l, none)
    else match l.advance with
      | .ok l => run n l
      | .error fault => (l, some fault)

end Lexer

/-- The tokens of a text, and the fault after which there are no more. -/
def tokensOf (text : List Char) : List Token × Option Fault :=
  let text := match text with
    | c :: rest => if c.toNat == 0xFEFF then rest else text
    | [] => []
  let (l, fault) := Lexer.run (2 * text.length + 2) { cursor := { rest := text } }
  (l.tokens.reverse, fault)

end PageTape.Yaml
