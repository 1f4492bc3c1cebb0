import PageTape.Text.Quoted

/-!
String literals in single quotes.  Two spellings of what stands between the quotes: one escapes
everything that could end the line, so that a literal stays on one line; the other escapes the
quote and the backslash alone.
-/

namespace PageTape.Script

/-- The single quote. -/
def quote : Char := Char.ofNat 39

/-- A character of a literal that stays on its line: controls and line separators are spelled by
their codes. -/
def lineEscape (c : Char) : List Char :=
  if c == '\\' || c == quote then ['\\', c]
  else if c == '\n' then ['\\', 'n']
  else if c == '\r' then ['\\', 'r']
  else if c == '\t' then ['\\', 't']
  else if c.toNat < 0x20 || (0x7F ≤ c.toNat && c.toNat < 0xA0) then
    '\\' :: 'x' :: Text.hex 2 c.toNat
  else if c.toNat == 0x2028 || c.toNat == 0x2029 then '\\' :: 'u' :: Text.hex 4 c.toNat
  else [c]

/-- A character of a literal in which only the backslash and the quote have an escape. -/
def rawEscape (c : Char) : List Char :=
  if c == '\\' || c == quote then ['\\', c] else [c]

/-- The text between the quotes of a literal. -/
def escaped (escape : Char → List Char) (s : String) : String :=
  String.ofList (s.toList.flatMap escape)

/-- A text for a literal that stays on its line. -/
def escapeLine (s : String) : String := escaped lineEscape s

/-- A text for a literal that keeps its line breaks. -/
def escapeRaw (s : String) : String := escaped rawEscape s

end PageTape.Script
