/-!
Double-precision numbers in exact arithmetic: the double nearest to a quotient, and the shortest
decimal text that reads back as a double.
-/

namespace PageTape

/-- A double: a finite number is `mantissa * 2 ^ exponent` with a sign, which zero has too. -/
inductive Binary64 where
  | finite (negative : Bool) (mantissa : Nat) (exponent : Int)
  | infinite (negative : Bool)
  | nan
  deriving DecidableEq, Repr, Inhabited

namespace Binary64

/-- The power `base ^ e` for an exponent of either sign. -/
def power (base : Nat) : Int → Rat
  | .ofNat n => (base : Rat) ^ n
  | .negSucc n => 1 / (base : Rat) ^ (n + 1)

/-- The natural number nearest to `n / d`; a half goes to the even neighbour. -/
def roundDiv (n d : Nat) : Nat :=
  let q := n / d
  let r := n % d
  if 2 * r < d then q else if d < 2 * r then q + 1 else if q % 2 = 0 then q else q + 1

/-- The exponent of the last place of the double nearest to `n / d`. -/
def lastPlace (n d : Nat) : Int :=
  let guess : Int := (n.log2 : Int) - d.log2
  let exact := if power 2 guess ≤ (n : Rat) / d then guess else guess - 1
  max (exact - 52) (-1074)

/-- The double nearest to `n / d`, with the given sign. -/
def ofQuotient (negative : Bool) (n d : Nat) : Binary64 :=
  if n = 0 then .finite negative 0 0
  else
    let e := lastPlace n d
    let m := match e with
      | .ofNat k => roundDiv n (d * Nat.pow 2 k)
      | .negSucc k => roundDiv (n * Nat.pow 2 (k + 1)) d
    let (m, e) := if m = Nat.pow 2 53 then (Nat.pow 2 52, e + 1) else (m, e)
    if e > 971 then .infinite negative else .finite negative m e

/-- The double nearest to `mantissa * 10 ^ exponent`. -/
def ofDecimal (negative : Bool) (mantissa : Nat) : Int → Binary64
  | .ofNat k => ofQuotient negative (mantissa * Nat.pow 10 k) 1
  | .negSucc k => ofQuotient negative mantissa (Nat.pow 10 (k + 1))

/-- The value of a finite double. -/
def toRat? : Binary64 → Option Rat
  | .finite negative m e => some ((if negative then -1 else 1) * (m * power 2 e))
  | _ => none

/-- The integer that a double equals, if it is whole. -/
def toInt? (x : Binary64) : Option Int :=
  x.toRat?.bind fun v => if v.den = 1 then some v.num else none

/-- The double nearest to a rational number, as a rational number; the exponent has no upper
limit. -/
def nearest (x : Rat) : Rat :=
  match ofQuotient (x < 0) x.num.natAbs x.den with
  | .finite s m e => (if s then -1 else 1) * (m * power 2 e)
  | _ => x

/-- The decimal exponent of a positive number: `10 ^ k ≤ v < 10 ^ (k + 1)`. -/
def decimalExponent (v : Rat) : Int :=
  let guess : Int := (Nat.toDigits 10 v.num.natAbs).length - (Nat.toDigits 10 v.den).length
  if power 10 (guess + 1) ≤ v then guess + 1
  else if power 10 guess ≤ v then guess else guess - 1

/-- The nearer of the two neighbours of `v` on the grid `10 ^ place` among those that lie within
`below` and `above` of `v`; the bounds themselves count iff `closed`. -/
def neighbour? (v below above : Rat) (closed : Bool) (place : Int) : Option Nat :=
  let unit := power 10 place
  let low := (v / unit).floor.toNat
  let offLow := v - low * unit
  let offHigh := (low + 1 : Nat) * unit - v
  let okLow := offLow < below || (closed && offLow == below)
  let okHigh := offHigh < above || (closed && offHigh == above)
  match okLow, okHigh with
  | true, true =>
    some (if offLow < offHigh then low else if offHigh < offLow then low + 1
      else if low % 2 = 0 then low else low + 1)
  | true, false => some low
  | false, true => some (low + 1)
  | false, false => none

/-- The shortest digits, without trailing zeros, and the decimal exponent of the first digit of a
number that is `mantissa * 2 ^ exponent`, not zero. -/
def shortest (mantissa : Nat) (exponent : Int) : List Char × Int :=
  let unit := power 2 exponent
  let v := mantissa * unit
  let above := unit / 2
  let below := if mantissa = Nat.pow 2 52 ∧ exponent > -1074 then unit / 4 else unit / 2
  let k := decimalExponent v
  let found := (List.range 18).findSome? fun (n : Nat) =>
    (neighbour? v below above (mantissa % 2 == 0) (k - n)).map fun d => (d, k - n)
  let (d, place) := found.getD (0, 0)
  let digits := Nat.toDigits 10 d
  let kept := (digits.reverse.dropWhile (· == '0')).reverse
  (kept, place + digits.length - 1)

/-- How the shortest digits are laid out: positional from `10 ^ -4` to below `10 ^ 16`, where a
whole number keeps `.0`; otherwise one digit, the rest after a point, and an exponent of at least
two digits with its sign. -/
def layout (digits : List Char) (k : Int) : List Char :=
  if -4 ≤ k ∧ k < 16 then
    if k < 0 then
      ['0', '.'] ++ List.replicate (-k - 1).toNat '0' ++ digits
    else
      let whole := k.toNat + 1
      let left := digits.take whole ++ List.replicate (whole - digits.length) '0'
      let right := digits.drop whole
      left ++ '.' :: (if right.isEmpty then ['0'] else right)
  else
    let head := match digits with
      | [] => []
      | [d] => [d]
      | d :: rest => d :: '.' :: rest
    let e := Nat.toDigits 10 k.natAbs
    head ++ 'e' :: (if k < 0 then '-' else '+') :: (if e.length < 2 then '0' :: e else e)

/-- The text of a double. -/
def text : Binary64 → String
  | .finite negative m e =>
    let sign := if negative then "-" else ""
    if m = 0 then sign ++ "0.0"
    else
      let (digits, k) := shortest m e
      sign ++ String.ofList (layout digits k)
  | .infinite negative => if negative then "-inf" else "inf"
  | .nan => "nan"

end Binary64

/-- The double nearest to `a / b`. -/
def quotient (a b : Int) : Rat := Binary64.nearest (a / b)

/-- The whole number nearest to a double, a half upward: a half is added in double precision and
the fraction dropped. -/
def roundHalfUp (x : Rat) : Int := (Binary64.nearest (x + 1 / 2)).floor

end PageTape
