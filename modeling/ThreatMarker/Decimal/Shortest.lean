import ThreatMarker.Decimal.Binary64
/-
# Shortest decimal text

The text of a binary number is the shortest decimal number that reads back as it; of several of one
length it is the nearest.  Numbers that round to a given one form an interval, whose ends belong to
it if the mantissa is even.  `shortestDigits` tries one significant digit, then two, and so on up to
seventeen: on each grid only the two neighbours of the number can be the nearest one in the interval.

The text is always positional: it has no exponent, and no point after a whole number.
-/

namespace ThreatMarker.Decimal

set_option autoImplicit false

/-- Four times a magnitude and the ends of the interval that rounds to it, over one denominator. -/
structure RoundingInterval where
  low : Nat
  value : Nat
  high : Nat
  den : Nat
  closed : Bool
  deriving Repr, DecidableEq

namespace RoundingInterval

/-- The interval of `mantissa * 2 ^ exponent`.  Below a power of two the grid is twice as fine. -/
def ofBinary (mantissa : Nat) (exponent : Int) : RoundingInterval :=
  let below := if mantissa == Nat.pow 2 52 && exponent != Binary64.minExponent then 1 else 2
  let (scale, den) := scaleByTwo 1 4 exponent
  { low := (4 * mantissa - below) * scale
    value := 4 * mantissa * scale
    high := (4 * mantissa + 2) * scale
    den := den
    closed := mantissa % 2 == 0 }

/-- Whether `digits * 10 ^ place` lies in the interval. -/
def holds (r : RoundingInterval) (digits : Nat) (place : Int) : Bool :=
  let (num, den) := scaleByTen digits place
  let x := num * r.den
  if r.closed then r.low * den ≤ x && x ≤ r.high * den else r.low * den < x && x < r.high * den

end RoundingInterval

/-- How often `scaled` can be multiplied by ten and stay a tenth of `den` or less. -/
def zerosAfterPoint (den : Nat) : Nat → Nat → Nat
  | 0, _ => 0
  | fuel + 1, scaled => if den ≤ scaled * 10 then 0 else zerosAfterPoint den fuel (scaled * 10) + 1

/-- The number of decimal places before the point of `num / den`, or minus the number of zeros after
it. -/
def magnitude (num den : Nat) : Int :=
  if den ≤ num then digitCount (num / den) else -(zerosAfterPoint den 400 num : Int)

/-- The nearest neighbour of the number on the grid of `count` significant digits, if it reads
back. -/
def onGrid? (r : RoundingInterval) (top : Int) (count : Nat) : Option (Nat × Int) :=
  let place := top - count
  let (num, den) := scaleByTen 1 (-place)
  let n := r.value * num
  let d := r.den * den
  let below := n / d
  let above := below + 1
  let nearer := if 2 * (n % d) ≤ d then below else above
  let other := if nearer == below then above else below
  if r.holds nearer place then some (nearer, place)
  else if r.holds other place then some (other, place)
  else none

/-- Try `count` significant digits, then one more, and so on. -/
def searchGrids (r : RoundingInterval) (top : Int) : Nat → Nat → Nat × Int
  | 0, count => (onGrid? r top count).getD (0, 0)
  | fuel + 1, count =>
      match onGrid? r top count with
      | some found => found
      | none => searchGrids r top fuel (count + 1)

/-- The shortest digits that read back as a positive number and the place of the last of them. -/
def shortestDigits (mantissa : Nat) (exponent : Int) : Nat × Int :=
  let r := RoundingInterval.ofBinary mantissa exponent
  searchGrids r (magnitude r.value r.den) 17 1

/-- Positional text of `digits * 10 ^ place`. -/
def positional (digits : Nat) (place : Int) : List Char :=
  let ds := Nat.toDigits 10 digits
  if 0 ≤ place then ds ++ List.replicate place.toNat '0'
  else
    let after := (-place).toNat
    if after < ds.length then ds.take (ds.length - after) ++ '.' :: ds.drop (ds.length - after)
    else '0' :: '.' :: (List.replicate (after - ds.length) '0' ++ ds)

/-- The digits without zeros at their end. -/
def trimZeros : Nat → Nat → Int → Nat × Int
  | 0, digits, place => (digits, place)
  | fuel + 1, digits, place =>
      if digits != 0 && digits % 10 == 0 then trimZeros fuel (digits / 10) (place + 1)
      else (digits, place)

/-- The shortest digits of a positive number, the last of them not zero, and their place. -/
def significand (mantissa : Nat) (exponent : Int) : Nat × Int :=
  let (digits, place) := shortestDigits mantissa exponent
  trimZeros 20 digits place

/-- The shortest positional text that reads back. -/
def Binary64.text : Binary64 → String
  | .nan => "NaN"
  | .infinite negative => if negative then "-inf" else "inf"
  | .finite negative mantissa exponent =>
      let sign := if negative then ['-'] else []
      let body :=
        if mantissa = 0 then ['0']
        else
          let (digits, place) := significand mantissa exponent
          positional digits place
      String.ofList (sign ++ body)

/-- The text with at least one digit after the point. -/
def Binary64.pointedText (x : Binary64) : String :=
  let t := x.text
  if x.isFinite && !t.toList.contains '.' then t ++ ".0" else t

/-- Digits with a point after the first of them and an exponent. -/
def withExponent (digits : Nat) (place : Int) : List Char :=
  let ds := Nat.toDigits 10 digits
  let exponent := place + ds.length - 1
  let mantissa := match ds with
    | [d] => [d]
    | d :: rest => d :: '.' :: rest
    | [] => []
  mantissa ++ 'e' :: (toString exponent).toList

/-- The shortest text that reads back: positional with at least one digit after the point for numbers
from 0.00001 up to, but not including, 10 ^ 16, and with an exponent for the others. -/
def Binary64.scientificText (x : Binary64) : String :=
  match x with
  | .finite negative mantissa exponent =>
      let (digits, place) := significand mantissa exponent
      let places := (digitCount digits : Int) + place
      if mantissa = 0 || (-5 < places && places ≤ 16) then x.pointedText
      else
        let sign := if negative then ['-'] else []
        String.ofList (sign ++ withExponent digits place)
  | _ => x.text

end ThreatMarker.Decimal
