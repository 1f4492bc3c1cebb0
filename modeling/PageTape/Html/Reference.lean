import PageTape.Html.Entity

/-!
Character references.  In text a reference by name may lack its semicolon and an unknown name is
kept; in an attribute value the longest name that may stand alone is taken.
-/

namespace PageTape.Html

/-- The character that stands where a code has none. -/
def replacement : Char := Char.ofNat 0xFFFD

/-- The character of a code, if it has one. -/
def char? (code : Nat) : Option Char :=
  if h : code.isValidChar then some (Char.ofNatAux code h) else none

/-- The characters of the codes from 0x80 on in the Western code page that writers of numeric
references often mean; a code that the page leaves free stands for itself. -/
def westernCodes : List Nat := [
  0x20AC, 0x81, 0x201A, 0x192, 0x201E, 0x2026, 0x2020, 0x2021, 0x2C6, 0x2030, 0x160, 0x2039, 0x152,
  0x8D, 0x17D, 0x8F, 0x90, 0x2018, 0x2019, 0x201C, 0x201D, 0x2022, 0x2013, 0x2014, 0x2DC, 0x2122,
  0x161, 0x203A, 0x153, 0x9D, 0x17E, 0x178]

/-- A code, the Western code page taken into account. -/
def westernCode (code : Nat) : Nat :=
  if 0x80 ≤ code && code < 0xA0 then (westernCodes[code - 0x80]?).getD code else code

/-- The character of a numeric reference in text. -/
def textChar (code : Nat) : Char := (char? (westernCode code)).getD replacement

/-- The text of a reference by name; an unknown name keeps its ampersand. -/
def textOfName (name : List Char) : List Char :=
  (allNames.lookup (String.ofList name)).getD ('&' :: name)

/-- A code that stands for no character in an attribute value. -/
def isUnassigned (code : Nat) : Bool :=
  (0x1 ≤ code && code ≤ 0x8) || (0xB == code) || (0xE ≤ code && code ≤ 0x1F) || code == 0x7F
    || (0xFDD0 ≤ code && code ≤ 0xFDEF) || code % 0x10000 == 0xFFFE || code % 0x10000 == 0xFFFF

/-- The characters of a numeric reference in an attribute value. -/
def attributeChars (code : Nat) : List Char :=
  if code == 0 then [replacement]
  else if 0x80 ≤ code && code < 0xA0 then [textChar code]
  else match char? code with
    | none => [replacement]
    | some c => if isUnassigned code then [] else [c]

/-- A character that may belong to a name after an ampersand in an attribute value. -/
def isNameChar (c : Char) : Bool :=
  !(c == '\t' || c == '\n' || c == Char.ofNat 12 || c == ' ' || c == '<' || c == '&' || c == '#'
    || c == ';')

/-- The longest proper beginning of a name, of two letters at least, that is a name by itself,
with what follows it. -/
def longestBare (name : List Char) : Option (List Char) :=
  (List.range (name.length - 2)).findSome? fun n =>
    let length := name.length - 1 - n
    (bareNames.lookup (String.ofList (name.take length))).map (· ++ name.drop length)

/-- The characters of a reference by name in an attribute value, with or without its semicolon. -/
def attributeName (name : List Char) (closed : Bool) : List Char :=
  let written := if closed then name ++ [';'] else name
  let whole := (if closed then allNames else bareNames).lookup (String.ofList name)
  (whole.orElse fun _ => longestBare written).getD ('&' :: written)

/-- The value of decimal digits. -/
def decimalNat (cs : List Char) : Nat := cs.foldl (fun n c => n * 10 + (c.toNat - '0'.toNat)) 0

/-- One more for a semicolon that follows. -/
def semicolonLength (cs : List Char) : Nat := if cs.head? == some ';' then 1 else 0

/-- The reference after an ampersand in an attribute value: its characters, and how many characters
it takes. -/
def attributeReference? : List Char → Option (List Char × Nat)
  | '#' :: rest =>
    let decimal := rest.takeWhile Char.isDigit
    match decimal, rest with
    | [], x :: rest =>
      let digits := rest.takeWhile fun c => (hexValue? c).isSome
      if (x == 'x' || x == 'X') && !digits.isEmpty then
        some (attributeChars (hexNat digits),
          2 + digits.length + semicolonLength (rest.drop digits.length))
      else none
    | [], [] => none
    | digits, _ =>
      some (attributeChars (decimalNat digits),
        1 + digits.length + semicolonLength (rest.drop digits.length))
  | cs =>
    let name := (cs.takeWhile isNameChar).take 32
    if name.isEmpty then none
    else
      let semicolon := semicolonLength (cs.drop name.length)
      some (attributeName name (semicolon == 1), name.length + semicolon)

/-- A text with its references resolved as in an attribute value, of which the first `skip`
characters belong to a reference already resolved. -/
def unescapeFrom (skip : Nat) : List Char → List Char
  | [] => []
  | c :: rest => match skip with
    | n + 1 => unescapeFrom n rest
    | 0 =>
      if c == '&' then match attributeReference? rest with
        | some (chars, length) => chars ++ unescapeFrom length rest
        | none => c :: unescapeFrom 0 rest
      else c :: unescapeFrom 0 rest

/-- A text with its references resolved as in an attribute value. -/
def unescape (s : String) : String := String.ofList (unescapeFrom 0 s.toList)

end PageTape.Html
