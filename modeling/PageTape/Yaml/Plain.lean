import PageTape.Datum
import PageTape.Text.Case
import PageTape.Yaml.Scalar

/-!
What a scalar without quotes stands for.  Nothing at all and a few words stand for null and the
truth values, some texts are numbers or dates, two have a meaning of their own as keys of a map,
and every other text stands for itself.
-/

namespace PageTape.Yaml

/-- The kinds of plain scalar. -/
inductive PlainKind where
  | null | truth | real | whole | date | merge | default | text
  deriving DecidableEq, Repr, Inhabited

namespace Plain

/-- Not empty, and all characters of a class. -/
def isRun (p : Char → Bool) (cs : List Char) : Bool := !cs.isEmpty && cs.all p

/-- A digit or a low line, which may group digits. -/
def isGrouped (c : Char) : Bool := c.isDigit || c == '_'

/-- A text without its sign. -/
def unsigned : List Char → List Char
  | '-' :: rest | '+' :: rest => rest
  | cs => cs

/-- The bases that a whole number may be written in, by the letter after its first zero. -/
def bases : List (Char × Nat) := [('b', 2), ('o', 8), ('x', 16)]

/-- The base of a number without sign, and its digits. -/
def basedDigits : List Char → Nat × List Char
  | '0' :: letter :: digits => match bases.lookup letter with
    | some base => (base, digits)
    | none => (10, '0' :: letter :: digits)
  | digits => (10, digits)

/-- A digit in a base. -/
def isDigitIn (base : Nat) (c : Char) : Bool := (hexDigit? c).any (· < base)

/-- A whole number, in base ten or with the letter of its base. -/
def isWhole (cs : List Char) : Bool :=
  let begins := cs.head?.any fun c => c == '-' || c == '+' || c.isDigit
  let (base, digits) := basedDigits (unsigned cs)
  begins && isRun (fun c => isDigitIn base c || c == '_') digits

/-- An exponent; its sign may be left out or not. -/
def isExponent (needsSign : Bool) : List Char → Bool
  | e :: rest =>
    let digits := if needsSign then rest.tail else unsigned rest
    let isSigned := rest.head?.any fun c => c == '-' || c == '+'
    (e == 'e' || e == 'E') && (isSigned || !needsSign) && isRun Char.isDigit digits
  | [] => false

/-- Infinity. -/
def isInfinite (cs : List Char) : Bool :=
  [".inf", ".Inf", ".INF"].contains (String.ofList (unsigned cs))

/-- The number that is none. -/
def isNaN (cs : List Char) : Bool := [".nan", ".NaN", ".NAN"].contains (String.ofList cs)

/-- A number with a point or an exponent. -/
def isReal (cs : List Char) : Bool :=
  let finite := match (unsigned cs).span isGrouped with
    | ([], '.' :: rest) =>
      let (digits, exponent) := rest.span isGrouped
      !digits.isEmpty && (exponent.isEmpty || isExponent true exponent)
    | (d :: _, '.' :: rest) =>
      let exponent := rest.dropWhile isGrouped
      d.isDigit && (exponent.isEmpty || isExponent false exponent)
    | (d :: _, exponent) => d.isDigit && isExponent false exponent
    | ([], _) => false
  finite || isInfinite cs || isNaN cs

/-! ### Dates -/

/-- A number of digits within limits, and what follows them. -/
def digits? (least most : Nat) (cs : List Char) : Option (Nat × List Char) :=
  let run := (cs.take most).takeWhile Char.isDigit
  if run.length < least then none
  else some (run.foldl (fun n d => n * 10 + (d.toNat - 48)) 0, cs.drop run.length)

/-- What follows a character that must come next. -/
def after? (c : Char) : List Char → Option (List Char)
  | d :: rest => if c == d then some rest else none
  | [] => none

/-- A time zone, up to the end. -/
def isZone (cs : List Char) : Bool :=
  match cs.dropWhile isBlankChar with
  | ['Z'] => true
  | sign :: rest =>
    (sign == '-' || sign == '+') && (match digits? 1 2 rest with
      | none => false
      | some (_, []) => true
      | some (_, rest) => (after? ':' rest >>= digits? 2 2).any (·.2.isEmpty))
  | [] => cs.isEmpty

/-- A date, and the time of the day if it has one. -/
structure Stamp where
  year : Nat
  month : Nat
  day : Nat
  time : Option (Nat × Nat × Nat)
  deriving DecidableEq, Repr, Inhabited

/-- The hour, the minute and the second after a date, up to the end. -/
def time? (cs : List Char) : Option (Nat × Nat × Nat) := do
  let rest ← match cs with
    | c :: rest =>
      if c == 'T' || c == 't' then some rest
      else if isBlankChar c then some (rest.dropWhile isBlankChar) else none
    | [] => none
  let (hour, rest) ← digits? 1 2 rest
  let (minute, rest) ← after? ':' rest >>= digits? 2 2
  let (second, rest) ← after? ':' rest >>= digits? 2 2
  let rest := match rest with
    | '.' :: fraction => fraction.dropWhile Char.isDigit
    | _ => rest
  if isZone rest then some (hour, minute, second) else none

/-- A date: alone, the month and the day have two digits. -/
def stamp? (cs : List Char) : Option Stamp := do
  let (year, rest) ← digits? 4 4 cs
  let (month, rest) ← after? '-' rest >>= digits? 1 2
  let (day, rest) ← after? '-' rest >>= digits? 1 2
  if rest.isEmpty then if cs.length == 10 then some ⟨year, month, day, none⟩ else none
  else (time? rest).map fun time => ⟨year, month, day, some time⟩

/-- The number of days of a month. -/
def daysIn (year month : Nat) : Nat :=
  let isLeap := year % 4 == 0 && (year % 100 != 0 || year % 400 == 0)
  if month == 2 then (if isLeap then 29 else 28)
  else if [4, 6, 9, 11].contains month then 30 else 31

/-- Why a date does not exist, if it does not. -/
def Stamp.problem? (s : Stamp) : Option String :=
  let (hour, minute, second) := s.time.getD (0, 0, 0)
  if s.year == 0 then some "year 0 is out of range"
  else if s.month == 0 || 12 < s.month then some "month must be in 1..12"
  else if s.day == 0 || daysIn s.year s.month < s.day then some "day is out of range for month"
  else if 23 < hour then some "hour must be in 0..23"
  else if 59 < minute then some "minute must be in 0..59"
  else if 59 < second then some "second must be in 0..59"
  else none

/-! ### The kind and the value -/

/-- What a plain scalar stands for. -/
def kind (s : String) : PlainKind :=
  let cs := s.toList
  if ["", "~", "null", "Null", "NULL"].contains s then .null
  else if ["true", "True", "TRUE", "false", "False", "FALSE"].contains s then .truth
  else if isReal cs then .real
  else if isWhole cs then .whole
  else if s == "<<" then .merge
  else if s == "=" then .default
  else if (stamp? cs).isSome then .date
  else .text

/-- The value of digits in a base. -/
def valueIn (base : Nat) (digits : List Char) : Option Nat :=
  if digits.isEmpty then none
  else digits.foldl (fun n c => do
    let d ← hexDigit? c
    if d < base then return (← n) * base + d else none) (some 0)

/-- The whole number of a text, low lines apart. -/
def wholeValue (s : String) : Except Fault Int :=
  let cs := s.toList.filter (· != '_')
  let (base, digits) := basedDigits (unsigned cs)
  if cs.isEmpty || (unsigned cs).isEmpty then .error .noDigits
  else match valueIn base digits with
    | some n => .ok (if cs.head? == some '-' then -n else n)
    | none => .error (.notWhole (String.ofList digits) base)

/-- Numbers with more digits before the point are infinite, and with more zeros after it zero. -/
def widestScale : Int := 1000

/-- The double nearest to digits and a power of ten. -/
def scaled (isNegative : Bool) (mantissa : Nat) (exponent : Int) : Binary64 :=
  let width := (Nat.toDigits 10 mantissa).length
  if mantissa == 0 || width + exponent < -widestScale then .finite isNegative 0 0
  else if widestScale < width + exponent then .infinite isNegative
  else .ofDecimal isNegative mantissa exponent

/-- The value of an exponent with its letter. -/
def exponentValue (cs : List Char) : Option Int :=
  match cs with
  | [] => some 0
  | _ :: rest => (valueIn 10 (unsigned rest)).map fun n =>
    if rest.head? == some '-' then -n else n

/-- The number of a text that may have a point and an exponent, low lines apart. -/
def realValue (s : String) : Except Fault Binary64 :=
  let cs := s.toList.filter (· != '_')
  let isNegative := cs.head? == some '-'
  let number := unsigned cs
  if number.map Char.toLower == ".inf".toList then .ok (.infinite isNegative)
  else if number.map Char.toLower == ".nan".toList then .ok .nan
  else
    let (whole, rest) := number.span Char.isDigit
    let (fraction, rest) := match rest with
      | '.' :: rest => rest.span Char.isDigit
      | _ => ([], rest)
    let digits := whole ++ fraction
    match valueIn 10 digits, exponentValue rest with
    | some mantissa, some exponent =>
      .ok (scaled isNegative mantissa (exponent - fraction.length))
    | _, _ => .error (.notReal (String.ofList number))

/-- The truth value of a word. -/
def truthValue (s : String) : Except Fault Bool :=
  let word := s.map Char.toLower
  if ["true", "yes", "on"].contains word then .ok true
  else if ["false", "no", "off"].contains word then .ok false
  else .error (@Fault.notTruth (Text.lower s))

/-- A truth value, which counts as a number where it has an anchor. -/
def truthDatum (isAnchored : Bool) (s : String) : Except Fault Datum := do
  let b ← truthValue s
  return if isAnchored then .int (if b then 1 else 0) else .bool b

/-- A date, which must exist. -/
def dateDatum (s : String) : Except Fault Datum :=
  match (stamp? s.toList).bind (·.problem?) with
  | some why => .error (.noSuchDate why)
  | none => .ok (.date s)

/-- The value of a plain scalar. -/
def value (isAnchored : Bool) (s : String) : Except Fault Datum :=
  match kind s with
  | .null => .ok .null
  | .truth => truthDatum isAnchored s
  | .real => .float <$> realValue s
  | .whole => .int <$> wholeValue s
  | .date => dateDatum s
  | .merge | .default => .ok (.date s)
  | .text => .ok (.text s)

end Plain

end PageTape.Yaml
