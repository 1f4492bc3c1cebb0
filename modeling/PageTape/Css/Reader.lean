import PageTape.Css.Selector
import PageTape.Html.Reference

/-!
Reading selectors.  A selector list is read from left to right; what has been read of it is kept as
the finished selectors, the part to the left of the last combinator, and the questions to the
element after it.
-/

namespace PageTape.Css

open Html (hexValue? hexNat char? replacement)

/-- Why a text is no selector: its form, or a feature that selectors here do not have. -/
inductive SelectorFault where
  | malformed
  | unsupported
  deriving DecidableEq, Repr, Inhabited

/-! ### Blanks, escapes and names -/

/-- A blank in a selector. -/
def isSpace (c : Char) : Bool :=
  c == ' ' || c == '\t' || c == '\n' || c == '\r' || c == Char.ofNat 12

/-- What follows a comment whose opening mark is already passed, if it is closed. -/
def afterComment? : List Char → Option (List Char)
  | '*' :: '/' :: rest => some rest
  | _ :: rest => afterComment? rest
  | [] => none

/-- The text without blanks and comments at its head; `fuel` is at least its length. -/
def skipBlanks : Nat → List Char → List Char
  | 0, cs => cs
  | fuel + 1, cs => match cs with
    | '/' :: '*' :: rest => match afterComment? rest with
      | some after => skipBlanks fuel after
      | none => cs
    | c :: rest => if isSpace c then skipBlanks fuel rest else cs
    | [] => []

/-- The text without blanks and comments at its head. -/
def trimStart (cs : List Char) : List Char := skipBlanks cs.length cs

/-- One blank passed, a carriage return with its line feed counting as one. -/
def skipOne : List Char → List Char
  | '\r' :: '\n' :: rest => rest
  | c :: rest => if isSpace c then rest else c :: rest
  | [] => []

/-- The character of an escape whose backslash is already passed, and what follows. -/
def escaped? (cs : List Char) : Option (Char × List Char) :=
  let digits := (cs.takeWhile fun c => (hexValue? c).isSome).take 6
  if digits.isEmpty then match cs with
    | [] => some (replacement, [])
    | c :: rest =>
      if c == '\n' || c == '\r' || c == Char.ofNat 12 then none else some (c, rest)
  else
    let code := hexNat digits
    some (if code == 0 then replacement else (char? code).getD replacement,
      skipOne (cs.drop digits.length))

/-- A character that may begin a name. -/
def isNameStart (c : Char) : Bool := c.isAlpha || c == '_' || c.toNat ≥ 0xA0

/-- A character that may stand in a name. -/
def isNameChar (c : Char) : Bool := isNameStart c || c.isDigit || c == '-'

/-- The characters of a name at the head of a text, and what follows. -/
def nameRest : Nat → List Char → List Char × List Char
  | 0, cs => ([], cs)
  | fuel + 1, cs => match cs with
    | '\\' :: rest => match escaped? rest with
      | some (c, after) => let (more, after) := nameRest fuel after; (c :: more, after)
      | none => ([], cs)
    | c :: rest =>
      if isNameChar c then let (more, after) := nameRest fuel rest; (c :: more, after)
      else ([], cs)
    | [] => ([], [])

/-- A name begins here: with a letter, an escape or two hyphens, after at most one hyphen. -/
def startsName (cs : List Char) : Bool :=
  let first := fun (cs : List Char) => match cs with
    | '\\' :: rest => (escaped? rest).isSome
    | c :: _ => isNameStart c
    | [] => false
  match cs with
  | '-' :: '-' :: _ => true
  | '-' :: rest => first rest
  | _ => first cs

/-- A name at the head of a text, and what follows. -/
def name? (cs : List Char) : Option (String × List Char) :=
  if startsName cs then
    let (chars, rest) := nameRest cs.length cs
    some (String.ofList chars, rest)
  else none

/-- A name or a star, with a name space before it if there is a bar. -/
def spacedName? (star : Bool) (cs : List Char) : Option (Option String × String × List Char) :=
  let part := fun (star : Bool) (cs : List Char) => match cs with
    | '*' :: rest => if star then some ("*", rest) else none
    | _ => name? cs
  let spaced := match cs with
    | '|' :: rest => some ("", rest)
    | _ => match part true cs with
      | some (space, '|' :: rest) => some (space, rest)
      | _ => none
  match spaced.bind fun (space, rest) => (part star rest).map fun (n, rest) => (space, n, rest) with
  | some (space, n, rest) => some (some space, n, rest)
  | none => (part star cs).map fun (n, rest) => (none, n, rest)

/-- The content of a quoted text whose opening mark is already passed, and what follows. -/
def quotedFrom (quote : Char) : Nat → List Char → Option (List Char × List Char)
  | 0, _ => none
  | fuel + 1, cs => match cs with
    | '\\' :: '\r' :: '\n' :: rest => quotedFrom quote fuel rest
    | '\\' :: c :: rest =>
      if isSpace c && c != ' ' && c != '\t' then quotedFrom quote fuel rest
      else match escaped? (c :: rest) with
        | some (d, after) => (quotedFrom quote fuel after).map fun (more, r) => (d :: more, r)
        | none => none
    | c :: rest =>
      if c == quote then some ([], rest)
      else if c == '\n' || c == '\r' || c == Char.ofNat 12 then none
      else (quotedFrom quote fuel rest).map fun (more, r) => (c :: more, r)
    | [] => none

/-- A value: a quoted text or a name. -/
def value? (cs : List Char) : Option (String × List Char) :=
  match cs with
  | c :: rest =>
    if c == '"' || c == Char.ofNat 39 then
      (quotedFrom c (rest.length + 1) rest).map fun (chars, r) => (String.ofList chars, r)
    else name? cs
  | [] => none

/-! ### Attributes -/

/-- The comparison at the head of a text, whether it is negated, and what follows. -/
def compare? : List Char → Option (AttrOp × Bool × List Char)
  | '=' :: rest => some (.equals, false, rest)
  | '!' :: '=' :: rest => some (.equals, true, rest)
  | '~' :: '=' :: rest => some (.word, false, rest)
  | '^' :: '=' :: rest => some (.begins, false, rest)
  | '|' :: '=' :: rest => some (.dash, false, rest)
  | '*' :: '=' :: rest => some (.contains, false, rest)
  | '$' :: '=' :: rest => some (.ends, false, rest)
  | _ => none

/-- The end of an attribute question, with a letter before it that says how case counts. -/
def attributeEnd? (cs : List Char) : Option (Option Char × List Char) :=
  match trimStart cs with
  | ']' :: rest => some (none, rest)
  | c :: rest =>
    if c.toLower == 'i' || c.toLower == 's' then match trimStart rest with
      | ']' :: rest => some (some c.toLower, rest)
      | _ => none
    else none
  | [] => none

/-- The question in square brackets, the opening one already passed.  The values of a `type`
attribute are compared without regard to case unless the selector says otherwise. -/
def attribute? (cs : List Char) : Option (Test × List Char) := do
  let (_, name, rest) ← spacedName? false (trimStart cs)
  match compare? (trimStart rest) with
  | none => match trimStart rest with
    | ']' :: after => return (.attribute ⟨name, none, false⟩, after)
    | _ => none
  | some (op, negated, rest) =>
    let (value, rest) ← value? (trimStart rest)
    let (mode, after) ← attributeEnd? rest
    let ignoreCase := match mode with
      | some c => c == 'i'
      | none => name.map Char.toLower == "type"
    let test := Test.attribute ⟨name, some (op, value), ignoreCase⟩
    return (if negated then .noneOf [.compound [test]] else test, after)

/-! ### Positions -/

/-- The text after a word, in any case. -/
def after? (word : String) (cs : List Char) : Option (List Char) :=
  let n := word.length
  if String.ofList ((cs.take n).map Char.toLower) == word then some (cs.drop n) else none

/-- The value of decimal digits. -/
def natOf (cs : List Char) : Nat := Html.decimalNat cs

/-- The part of a position after `n`: a sign and a number. -/
def offset? (cs : List Char) : Option (Int × List Char) :=
  match trimStart cs with
  | c :: rest =>
    if c == '+' || c == '-' then
      let rest := trimStart rest
      let digits := rest.takeWhile Char.isDigit
      if digits.isEmpty then none
      else some (if c == '-' then -(natOf digits : Int) else natOf digits, rest.drop digits.length)
    else none
  | [] => none

/-- A position: a step and an offset, and what follows. -/
def position? (cs : List Char) : Option (Int × Int × List Char) :=
  match after? "even" cs, after? "odd" cs with
  | some rest, _ => some (2, 0, rest)
  | _, some rest => some (2, 1, rest)
  | none, none =>
    let (negative, cs) := match cs with
      | '-' :: rest => (true, rest)
      | '+' :: rest => (false, rest)
      | _ => (false, cs)
    let digits := cs.takeWhile Char.isDigit
    let signed := fun (n : Nat) => if negative then -(n : Int) else (n : Int)
    match cs.drop digits.length with
    | c :: rest =>
      if c.toLower == 'n' then
        let step := signed (if digits.isEmpty then 1 else natOf digits)
        match offset? rest with
        | some (offset, rest) => some (step, offset, rest)
        | none => some (step, 0, rest)
      else if digits.isEmpty then none else some (0, signed (natOf digits), c :: rest)
    | [] => none

/-- The pseudo-classes that take a position: counted from the end, and among siblings of one
name. -/
def positionNames : List (String × Bool × Bool) := [
  ("nth-child", false, false), ("nth-last-child", true, false), ("nth-of-type", false, true),
  ("nth-last-of-type", true, true)]

/-- The pseudo-classes without arguments. -/
def simpleNames : List (String × List Test) :=
  let place := fun (fromEnd sameName : Bool) => Test.nth ⟨0, 1, fromEnd, sameName⟩
  [("first-child", [place false false]), ("last-child", [place true false]),
    ("first-of-type", [place false true]), ("last-of-type", [place true true]),
    ("only-child", [place false false, place true false]),
    ("only-of-type", [place false true, place true true]),
    ("empty", [.empty]), ("root", [.root])]

/-! ### Selector lists -/

/-- What has been read of a selector list.  The tests are kept last first; `given` says that there
is something to the right of the last combinator. -/
structure Pending where
  done : List Selector := []
  left : Option (Selector × Combinator) := none
  tests : List Test := []
  given : Bool := false
  deriving Inhabited

namespace Pending

/-- The selector that stands pending. -/
def current (p : Pending) : Selector :=
  match p.left with
  | some (left, combinator) => .related left combinator p.tests.reverse
  | none => .compound p.tests.reverse

/-- With questions to the pending element added. -/
def ask (p : Pending) (tests : List Test) : Pending :=
  { p with tests := tests.reverse ++ p.tests, given := true }

/-- With a combinator after the pending element. -/
def combine (p : Pending) (c : Combinator) : Pending :=
  { done := p.done, left := some (p.current, c) }

/-- With a comma after the pending element. -/
def comma (p : Pending) : Pending := { done := p.current :: p.done }

/-- With a comma where no element stands, which matches nothing. -/
def emptySlot (p : Pending) : Pending := { done := .compound [.never] :: p.done }

end Pending

/-- Where a list stands: alone, or within a pseudo-class, which may admit empty places or not. -/
inductive ListKind where
  | outer | strict | forgiving
  deriving DecidableEq, Repr, Inhabited

/-- The pseudo-classes that take a list. -/
def listNames : List (String × ListKind) := [
  ("not", .strict), ("is", .forgiving), ("where", .forgiving), ("matches", .strict)]

/-- The combinator of a character, the comma being none. -/
def combinatorOf? : Char → Option (Option Combinator)
  | ',' => some none
  | '>' => some (some .child)
  | '+' => some (some .adjacent)
  | '~' => some (some .sibling)
  | _ => none

/-- A combinator at the head of a text, and what follows; blanks alone mean a descendant. -/
def combinator? (cs : List Char) : Option (Option Combinator × List Char) :=
  let rest := trimStart cs
  match rest.head?.bind combinatorOf? with
  | some c => some (c, trimStart (rest.drop 1))
  | none => if rest.length < cs.length then some (some .descendant, rest) else none

/-- The finished list. -/
def finish (kind : ListKind) (p : Pending) : Except SelectorFault (List Selector) :=
  if p.given then .ok (p.comma.done.reverse)
  else if kind == .forgiving && (p.done.isEmpty || p.left.isNone) then
    .ok (p.emptySlot.done.reverse)
  else .error .malformed

/-- Reads a selector list to its end, which for a list within a pseudo-class is its closing
bracket; gives what follows. -/
def readFrom : Nat → ListKind → Pending → List Char →
    Except SelectorFault (List Selector × List Char)
  | 0, _, _, _ => .error .malformed
  | fuel + 1, kind, p, cs =>
    let next := fun (tests : List Test) (rest : List Char) =>
      readFrom fuel kind (p.ask tests) rest
    let trimmed := trimStart cs
    if trimmed.isEmpty then
      if kind == .outer then (finish kind p).map fun ss => (ss, []) else .error .malformed
    else if trimmed.head? == some ')' then
      if kind == .outer then .error .malformed
      else if !p.given && kind != .forgiving then .error .malformed
      else (finish kind p).map fun ss => (ss, trimmed.drop 1)
    else match cs with
    | ':' :: ':' :: rest =>
      if startsName rest then .error .unsupported else .error .malformed
    | ':' :: rest => match name? rest with
      | none => .error .malformed
      | some (name, rest) =>
        let name := name.map Char.toLower
        match rest with
        | '(' :: rest =>
          let rest := trimStart rest
          match positionNames.lookup name, listNames.lookup name with
          | some (fromEnd, sameName), _ =>
            match position? rest with
            | some (step, offset, rest) => match trimStart rest with
              | ')' :: rest => next [.nth ⟨step, offset, fromEnd, sameName⟩] rest
              | _ => .error .malformed
            | none => .error .malformed
          | none, some inner => do
            let (selectors, rest) ← readFrom fuel inner {} rest
            next [if name == "not" then .noneOf selectors else .anyOf selectors] rest
          | none, none => .error .malformed
        | _ => match simpleNames.lookup name with
          | some tests => next tests rest
          | none => .error .malformed
    | '@' :: c :: rest =>
      if c.toLower == 'p' && startsName rest then .error .unsupported else .error .malformed
    | '#' :: rest => match name? rest with
      | some (name, rest) => next [.ident name] rest
      | none => .error .malformed
    | '.' :: rest => match name? rest with
      | some (name, rest) => next [.className name] rest
      | none => .error .malformed
    | '[' :: rest => match attribute? rest with
      | some (test, rest) => next [test] rest
      | none => .error .malformed
    | _ => match spacedName? true cs with
      | some (space, name, rest) =>
        if p.given then .error .malformed else next [.name space name] rest
      | none => match combinator? cs with
        | none => .error .malformed
        | some (none, rest) =>
          if p.given then readFrom fuel kind p.comma rest
          else if kind == .forgiving then readFrom fuel kind p.emptySlot rest
          else .error .malformed
        | some (some c, rest) =>
          if p.given then readFrom fuel kind (p.combine c) rest else .error .malformed

/-- Reads a selector list. -/
def read (s : String) : Except SelectorFault (List Selector) :=
  let chars := s.toList.map fun c => if c == Char.ofNat 0 then replacement else c
  (readFrom (chars.length + 1) .outer {} (trimStart chars)).map (·.1)

end PageTape.Css
