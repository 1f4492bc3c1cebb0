import PageTape.Html.Reference
import PageTape.Text.Case

/-!
The tokens of an HTML text.  Reading never fails: markup that is not complete is text.  A text is
read in two passes.  The first stops where more input could still complete what stands there; the
second begins at that place, knowing that no more will come, and where it stops in turn the rest
is plain text.
-/

namespace PageTape.Html

/-- A token.  A start tag has its attributes as written, and whether it closes itself. -/
inductive Token where
  | text (value : List Char)
  | start (name : String) (attrs : List (String × String)) (closed : Bool)
  | finish (name : String)
  | comment (value : List Char)
  | doctype (value : List Char)
  | cdata (value : List Char)
  | declaration (value : List Char)
  | instruction (value : List Char)
  deriving DecidableEq, Repr, Inhabited

/-- Markup at the head of a text: tokens with the number of characters they take, or nothing
complete. -/
inductive Markup where
  | complete (tokens : List Token) (length : Nat)
  | incomplete
  deriving Repr, Inhabited

open Text (isBlank)

/-! ### Characters and searches -/

/-- A quotation mark. -/
def isQuote (c : Char) : Bool := c == '"' || c == Char.ofNat 39

/-- A character that ends the name of a tag. -/
def endsTagName (c : Char) : Bool :=
  c == '\t' || c == '\n' || c == '\r' || c == Char.ofNat 12 || c == ' ' || c == '/' || c == '>'
    || c == Char.ofNat 0

/-- The characters before the first place where `here` gives a length, and that length. -/
def findFrom? (here : List Char → Option Nat) : List Char → Option (List Char × Nat)
  | [] => (here []).map fun n => ([], n)
  | c :: rest => match here (c :: rest) with
    | some n => some ([], n)
    | none => (findFrom? here rest).map fun (before, n) => (c :: before, n)

/-- The length of a character with blanks before it. -/
def blanksThen? (c : Char) (cs : List Char) : Option Nat :=
  let blanks := cs.takeWhile isBlank
  if (cs.drop blanks.length).head? == some c then some (blanks.length + 1) else none

/-- The length of the end of a comment: two hyphens, blanks and a closing angle. -/
def commentEnd? : List Char → Option Nat
  | '-' :: '-' :: rest => (blanksThen? '>' rest).map (· + 2)
  | _ => none

/-- The length of a bracket, blanks and a closing angle. -/
def bracketEnd? : List Char → Option Nat
  | ']' :: rest => (blanksThen? '>' rest).map (· + 1)
  | _ => none

/-- The length of two brackets and a closing angle with blanks between them. -/
def doubleBracketEnd? : List Char → Option Nat
  | ']' :: rest => do
    let n ← blanksThen? ']' rest
    let m ← blanksThen? '>' (rest.drop n)
    return n + m + 1
  | _ => none

/-- The length of a closing angle. -/
def angleEnd? : List Char → Option Nat
  | '>' :: _ => some 1
  | _ => none

/-- Markup that begins with `lead` characters and ends at the first place that `here` finds; the
text between gives the tokens. -/
def upTo (cs : List Char) (lead : Nat) (here : List Char → Option Nat)
    (tokens : List Char → List Token) : Markup :=
  match findFrom? here (cs.drop lead) with
  | some (body, n) => .complete (tokens body) (lead + body.length + n)
  | none => .incomplete

/-! ### Start tags -/

/-- Blanks and slashes, except a slash before a closing angle. -/
def skipGap : List Char → List Char
  | '/' :: '>' :: rest => '/' :: '>' :: rest
  | c :: rest => if isBlank c || c == '/' then skipGap rest else c :: rest
  | [] => []

/-- A quoted text, without its marks, and what follows it. -/
def quotedValue? : List Char → Option (List Char × List Char)
  | c :: rest =>
    if isQuote c then match rest.span (· != c) with
      | (value, _ :: after) => some (value, after)
      | (_, []) => none
    else none
  | [] => none

/-- A bare value and what follows it. -/
def bareValue (cs : List Char) : List Char × List Char :=
  cs.span fun c => !(c == '>' || isBlank c)

/-- The value after the name of an attribute, if there is one, and what follows it.  A quote that
is never closed begins no value: after a blank the value is empty, and after two equals signs the
second one belongs to the value. -/
def attributeValue? (cs : List Char) : Option (List Char × List Char) :=
  let (equals, rest) := (cs.dropWhile isBlank).span (· == '=')
  if equals.isEmpty then none
  else
    let blanks := rest.takeWhile isBlank
    let rest := rest.drop blanks.length
    match quotedValue? rest with
    | some found => some found
    | none =>
      if !(rest.head?.any isQuote) then some (bareValue rest)
      else if !blanks.isEmpty then some ([], rest)
      else if equals.length > 1 then some (bareValue ('=' :: rest))
      else none

/-- The last character of a beginning that leaves `rest`. -/
def lastBefore (default : Char) (whole rest : List Char) : Char :=
  ((whole.take (whole.length - rest.length)).getLast?).getD default

/-- An attribute at the head of a text that follows `previous`, and what follows it; the gap after
it is passed. -/
def attribute? (previous : Char) (cs : List Char) :
    Option ((String × String) × List Char) :=
  match cs with
  | c :: rest =>
    if (isQuote previous || isBlank previous || previous == '/')
        && !(isBlank c || c == '/' || c == '>') then
      let (more, rest) := rest.span fun c => !(isBlank c || c == '/' || c == '=' || c == '>')
      let name := Text.lower (String.ofList (c :: more))
      match attributeValue? rest with
      | some (value, rest) => some ((name, String.ofList (unescapeFrom 0 value)), skipGap rest)
      | none => some ((name, ""), skipGap rest)
    else none
  | [] => none

/-- The attributes at the head of a text that follows `previous`, and what follows them. -/
def attributesFrom : Nat → Char → List Char → List (String × String) × List Char
  | 0, _, cs => ([], cs)
  | fuel + 1, previous, cs => match attribute? previous cs with
    | some (attr, rest) =>
      let (attrs, after) := attributesFrom fuel (lastBefore previous cs rest) rest
      (attr :: attrs, after)
    | none => ([], cs)

/-- A start tag, at its opening angle.  A tag that breaks off at a character that fits nowhere is
text up to that character. -/
def startTag (cs : List Char) : Markup :=
  let body := cs.drop 1
  let nameChars := body.takeWhile fun c => !endsTagName c
  let name := Text.lower (String.ofList nameChars)
  let afterName := body.drop nameChars.length
  let gap := skipGap afterName
  let (attrs, rest) := attributesFrom gap.length (lastBefore (nameChars.getLast?.getD '<') afterName gap) gap
  let used := fun (after : List Char) => cs.length - after.length
  match rest with
  | [] => .incomplete
  | '>' :: after => .complete [.start name attrs false] (used after)
  | '/' :: '>' :: after => .complete [.start name attrs true] (used after)
  | c :: _ =>
    if c.isAlpha || c == '=' || c == '/' then .incomplete
    else .complete [.text (cs.take (used rest))] (used rest)

/-! ### End tags and declarations -/

/-- A character of the name in an end tag. -/
def isEndNameChar (c : Char) : Bool :=
  c.isAlphanum || c == '-' || c == '.' || c == ':' || c == '_'

/-- An end tag, at its opening angle.  Without a name it is a comment, and empty it is nothing. -/
def endTag (cs : List Char) : Markup :=
  let body := cs.drop 2
  match findFrom? angleEnd? body with
  | none => .incomplete
  | some (inner, _) =>
    let length := inner.length + 3
    let trimmed := inner.dropWhile isBlank
    let plain := trimmed.takeWhile isEndNameChar
    if trimmed.head?.any Char.isAlpha && (trimmed.drop plain.length).all isBlank then
      .complete [.finish (Text.lower (String.ofList plain))] length
    else if inner.head?.any Char.isAlpha then
      .complete [.finish (Text.lower (String.ofList (inner.takeWhile fun c => !endsTagName c)))]
        length
    else if inner.isEmpty then .complete [] length
    else .complete [.comment inner] length

/-- The words that open a section ended by two brackets. -/
def sectionWords : List String := ["temp", "cdata", "ignore", "include", "rcdata"]

/-- The words that open a section ended by one bracket. -/
def conditionWords : List String := ["if", "else", "endif"]

/-- A comment that no comment mark opens, at its opening angle. -/
def bogusComment (cs : List Char) : Markup := upTo cs 2 angleEnd? fun body => [.comment body]

/-- The token of a marked section. -/
def sectionToken (body : List Char) : Token :=
  if String.ofList ((body.take 6).map Char.toUpper) == "CDATA[" then .cdata (body.drop 6)
  else .declaration body

/-- A marked section, at its opening angle. -/
def markedSection (cs : List Char) : Markup :=
  let body := cs.drop 3
  let name := body.takeWhile fun c => c.isAlphanum || c == '-' || c == '_' || c == '.'
  let rest := (body.drop name.length).dropWhile isBlank
  let word := (String.ofList name).toLower
  if rest.isEmpty then .incomplete
  else if sectionWords.contains word then
    upTo cs 3 doubleBracketEnd? fun body => [sectionToken body]
  else if conditionWords.contains word then
    upTo cs 3 bracketEnd? fun body => [sectionToken body]
  else bogusComment cs

/-- A declaration, at its opening angle. -/
def declaration (cs : List Char) : Markup :=
  if cs.take 3 == ['<', '!', '['] then markedSection cs
  else if (String.ofList (cs.take 9)).toLower == "<!doctype" then
    upTo cs 9 angleEnd? fun body => [.doctype ((cs.drop 2).take (7 + body.length) |>.drop 8)]
  else bogusComment cs

/-- The markup at an opening angle; a lone angle is text once something follows it. -/
def markup (cs : List Char) : Option Markup :=
  match cs with
  | '<' :: c :: _ =>
    if c.isAlpha then some (startTag cs)
    else if c == '/' then some (endTag cs)
    else if cs.take 4 == ['<', '!', '-', '-'] then
      some (upTo cs 4 commentEnd? fun body => [.comment body])
    else if c == '?' then some (upTo cs 2 angleEnd? fun body => [.instruction body])
    else if c == '!' then some (declaration cs)
    else some (.complete [.text ['<']] 1)
  | _ => none

/-! ### References in text -/

/-- A character of a name after an ampersand in text. -/
def isReferenceChar (c : Char) : Bool := c.isAlphanum || c == '-' || c == '.'

/-- The characters of a name that a reference in text takes: up to the last place at which what
follows is neither a letter nor a digit. -/
def referenceName? (cs : List Char) : Option (List Char) :=
  let run := cs.takeWhile isReferenceChar
  let next := (cs.drop run.length).head?
  if !(run.head?.any Char.isAlpha) then none
  else if next.isSome then some run
  else match run.reverse.dropWhile Char.isAlphanum with
    | _ :: before => if before.isEmpty then none else some before.reverse
    | [] => none

/-- The digits of a numeric reference after its number sign, their value, and what follows; a
character that is no hexadecimal digit must follow. -/
def referenceCode? (cs : List Char) : Option (Nat × List Char) :=
  let read := fun (digits rest : List Char) (value : Nat) =>
    if digits.isEmpty || !(rest.head?.any fun c => (hexValue? c).isNone) then none
    else some (value, rest)
  match cs with
  | x :: rest =>
    if x == 'x' || x == 'X' then
      let (digits, rest) := rest.span fun c => (hexValue? c).isSome
      read digits rest (hexNat digits)
    else
      let (digits, rest) := cs.span Char.isDigit
      read digits rest (decimalNat digits)
  | [] => none

/-! ### Passes -/

/-- One move of a pass: some characters taken and their tokens, or the end of the pass. -/
inductive Move where
  | take (length : Nat) (tokens : List Token)
  | halt (length : Nat) (tokens : List Token)
  deriving Repr, Inhabited

/-- What is taken of incomplete markup when no more input comes: up to the next closing angle, else
to the next opening one, else one character. -/
def brokenLength (cs : List Char) : Nat :=
  match findFrom? angleEnd? (cs.drop 1) with
  | some (before, _) => before.length + 2
  | none => match findFrom? (fun r => if r.head? == some '<' then some 1 else none) (cs.drop 1) with
    | some (before, _) => before.length + 1
    | none => 1

/-- The move at an ampersand. -/
def referenceMove (final : Bool) (cs : List Char) : Move :=
  match cs.drop 1 with
  | [] => .halt 0 []
  | '#' :: rest => match referenceCode? rest with
    | some (code, after) =>
      .take (cs.length - after.length + semicolonLength after) [.text [textChar code]]
    | none => if cs.contains ';' then .halt 2 [.text ['&', '#']] else .halt 0 []
  | c :: rest => match referenceName? (c :: rest) with
    | some name =>
      .take (1 + name.length + semicolonLength ((c :: rest).drop name.length))
        [.text (textOfName name)]
    | none =>
      if c.isAlpha then if final && rest.isEmpty then .halt 1 [] else .halt 0 []
      else .take 1 [.text ['&']]

/-- The length of the end tag of an element. -/
def closing? (name : String) (cs : List Char) : Option Nat :=
  match cs with
  | '<' :: '/' :: rest =>
    let blanks := rest.takeWhile isBlank
    let word := (rest.drop blanks.length).take name.length
    if String.ofList (word.map Char.toLower) == name then
      (blanksThen? '>' (rest.drop (blanks.length + name.length))).map
        (· + 2 + blanks.length + name.length)
    else none
  | _ => none

/-- The move at the head of a text that is not empty; inside a raw element all is text up to its
end tag. -/
def move (final : Bool) (raw : Option String) (cs : List Char) : Move :=
  match raw with
  | some name => match findFrom? (closing? name) cs with
    | some (body, n) =>
      .take (body.length + n) ((if body.isEmpty then [] else [.text body]) ++ [.finish name])
    | none => .halt 0 []
  | none => match cs with
    | '<' :: _ => match markup cs with
      | some (.complete tokens length) => .take length tokens
      | some .incomplete =>
        if final then
          let n := brokenLength cs
          .take n [.text (cs.take n)]
        else .halt 0 []
      | none => .halt 0 []
    | '&' :: _ => referenceMove final cs
    | _ =>
      let run := cs.takeWhile fun c => !(c == '<' || c == '&')
      .take run.length [.text run]

/-- The elements whose content is text up to their end tag. -/
def rawNames : List String := ["script", "style"]

/-- The raw element that is open after tokens. -/
def rawAfter (raw : Option String) (tokens : List Token) : Option String :=
  tokens.foldl (fun acc t => match t with
    | .start name _ closed => if !closed && rawNames.contains name then some name else none
    | .finish _ => none
    | _ => acc) raw

/-- What a pass gives: its tokens, what it left, and the raw element that is open there. -/
structure Passed where
  tokens : List Token
  rest : List Char
  raw : Option String
  deriving Repr, Inhabited

/-- A pass over a text of which the first `skip` characters are taken already. -/
def pass (final : Bool) (raw : Option String) (skip : Nat) : List Char → Passed
  | [] => ⟨[], [], raw⟩
  | c :: rest => match skip with
    | n + 1 => pass final raw n rest
    | 0 => match move final raw (c :: rest) with
      | .take length tokens =>
        let after := pass final (rawAfter raw tokens) (length - 1) rest
        { after with tokens := tokens ++ after.tokens }
      | .halt length tokens => ⟨tokens, (c :: rest).drop length, rawAfter raw tokens⟩

/-- The tokens of a text.  What an open raw element leaves unread is dropped. -/
def tokens (s : String) : List Token :=
  let first := pass false none 0 s.toList
  let second := pass true first.raw 0 first.rest
  let tail := if second.raw.isSome || second.rest.isEmpty then [] else [Token.text second.rest]
  first.tokens ++ second.tokens ++ tail

end PageTape.Html
