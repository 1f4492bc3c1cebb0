import PageTape.Text.Quoted

/-!
Identifiers of any content as a selector writes them.
-/

namespace PageTape.Css

/-- A character written by its code. -/
def codeEscape (c : Char) : List Char := '\\' :: Text.hex 1 c.toNat ++ [' ']

/-- A character of an identifier that begins with `first`, at a position in it. -/
def escapeAt (first : Char) (position : Nat) (c : Char) : List Char :=
  let n := c.toNat
  if n == 0 then [Char.ofNat 0xFFFD]
  else if n < 0x20 || n == 0x7F then codeEscape c
  else if c.isDigit && (position == 0 || (position == 1 && first == '-')) then codeEscape c
  else if c.isAlphanum || c == '-' || c == '_' || n ≥ 0x80 then [c]
  else ['\\', c]

/-- The characters of an identifier from a position on. -/
def escapeFrom (first : Char) (position : Nat) : List Char → List Char
  | [] => []
  | c :: rest => escapeAt first position c ++ escapeFrom first (position + 1) rest

/-- A text written as an identifier. -/
def escape (s : String) : String :=
  match s.toList with
  | [] => ""
  | ['-'] => "\\-"
  | first :: rest => String.ofList (escapeFrom first 0 (first :: rest))

end PageTape.Css
