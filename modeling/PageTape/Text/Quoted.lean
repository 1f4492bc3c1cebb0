import PageTape.Datum
import PageTape.Text.Printable

/-!
Data as an error message quotes it.  Text stands in single quotes, or in double quotes if it holds
a single quote and no double one; what does not print is escaped.
-/

namespace PageTape

namespace Text

/-- The lower-case hexadecimal digits of a number, padded with zeros to a width. -/
def hex (width n : Nat) : List Char :=
  let digits := Nat.toDigits 16 n
  List.replicate (width - digits.length) '0' ++ digits

/-- A character inside quotes. -/
def quoteChar (quote c : Char) : List Char :=
  if c == quote || c == '\\' then ['\\', c]
  else if c == '\n' then ['\\', 'n']
  else if c == '\r' then ['\\', 'r']
  else if c == '\t' then ['\\', 't']
  else if isPrintable c then [c]
  else if c.toNat < 0x100 then '\\' :: 'x' :: hex 2 c.toNat
  else if c.toNat < 0x10000 then '\\' :: 'u' :: hex 4 c.toNat
  else '\\' :: 'U' :: hex 8 c.toNat

/-- A text in quotes. -/
def quoted (s : String) : String :=
  let cs := s.toList
  let quote := if cs.contains (Char.ofNat 39) && !cs.contains '"' then '"' else Char.ofNat 39
  String.ofList (quote :: cs.flatMap (quoteChar quote) ++ [quote])

end Text

namespace Datum

mutual
/-- A value as an error message quotes it. -/
def quoted : Datum → String
  | .null => "None"
  | .bool b => if b then "True" else "False"
  | .int n => toString n
  | .float x => x.text
  | .text s => Text.quoted s
  | .date s => s
  | .list items => "[" ++ quotedItems items ++ "]"
  | .map entries => "\x7b" ++ quotedEntries entries ++ "\x7d"

/-- The items of a list, separated by commas. -/
def quotedItems : List Datum → String
  | [] => ""
  | [d] => quoted d
  | d :: rest => quoted d ++ ", " ++ quotedItems rest

/-- The entries of a map, separated by commas. -/
def quotedEntries : List (String × Datum) → String
  | [] => ""
  | [(k, d)] => Text.quoted k ++ ": " ++ quoted d
  | (k, d) :: rest => Text.quoted k ++ ": " ++ quoted d ++ ", " ++ quotedEntries rest
end

end Datum

end PageTape
