import PageTape.Text.Blank
import PageTape.Text.Word

/-!
Whole numbers written as text: a sign, then digits that may be grouped by single low lines.  A
setting takes the digits of any script; a field of a recording takes ASCII digits and may end in a
point and zeros.
-/

namespace PageTape.IntText

/-- The value of the digits still to come, after a value that ends in a digit or in a low line. -/
def groupedFrom? (value : Char → Option Nat) (afterDigit : Bool) (acc : Nat) :
    List Char → Option Nat
  | [] => if afterDigit then some acc else none
  | c :: rest => match value c with
    | some d => groupedFrom? value true (acc * 10 + d) rest
    | none => if afterDigit && c == '_' then groupedFrom? value false acc rest else none

/-- The value of digits grouped by single low lines, which stand between two digits. -/
def grouped? (value : Char → Option Nat) : List Char → Option Nat := groupedFrom? value false 0

/-- The value of a signed text, the digits read by `digits`. -/
def signed? (digits : List Char → Option Nat) : List Char → Option Int
  | '-' :: rest => (digits rest).map fun n => -(n : Int)
  | '+' :: rest => (digits rest).map Int.ofNat
  | cs => (digits cs).map Int.ofNat

/-- A setting may have this many digits. -/
def longestSetting : Nat := 4300

/-- A setting: blanks around it are dropped, and the digits of any script count. -/
def setting? (s : String) : Option Int :=
  if (s.toList.filter fun c => (Text.digitValue? c).isSome).length > longestSetting then none
  else signed? (grouped? Text.digitValue?) (Text.trimList Text.isBlank s.toList)

/-- The value of an ASCII digit. -/
def asciiDigit? (c : Char) : Option Nat :=
  if c.isDigit then some (c.toNat - '0'.toNat) else none

/-- The white space of Unicode without the information separators. -/
def isSpace (c : Char) : Bool := Text.isBlank c && !(28 ≤ c.toNat && c.toNat ≤ 31)

/-- The digits before a point that only zeros follow. -/
def withoutZeroFraction (cs : List Char) : List Char :=
  match cs.span (· != '.') with
  | (whole, _ :: zeros) => if zeros.all (· == '0') then whole else cs
  | (_, []) => cs

/-- A field: blanks around it are dropped, and a point with zeros may follow the digits. -/
def field? (s : String) : Option Int :=
  signed? (fun cs => grouped? asciiDigit? (withoutZeroFraction cs))
    (Text.trimList isSpace s.toList)

end PageTape.IntText
