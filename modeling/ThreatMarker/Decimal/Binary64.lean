/-
# Binary numbers of 64 bits

A number of 64 bits is a sign and a magnitude `mantissa * 2 ^ exponent` with a mantissa below `2 ^ 53`
and an exponent from -1074 to 971, or an infinity, or not a number.  `Binary64.ofDecimal` rounds a
decimal number to the nearest of them, and half-way cases to the even mantissa, in exact arithmetic
on natural numbers.
-/

namespace ThreatMarker.Decimal

set_option autoImplicit false

inductive Binary64 where
  | finite (negative : Bool) (mantissa : Nat) (exponent : Int)
  | infinite (negative : Bool)
  | nan
  deriving Repr, DecidableEq

/-- The nearest natural number to `num / den`; the even one of two. -/
def roundDiv (num den : Nat) : Nat :=
  let q := num / den
  let r := num % den
  if 2 * r < den then q
  else if den < 2 * r then q + 1
  else if q % 2 == 0 then q
  else q + 1

/-- `num / den` times two to an integer power, as a fraction. -/
def scaleByTwo (num den : Nat) (e : Int) : Nat × Nat :=
  if 0 ≤ e then (num * Nat.pow 2 e.toNat, den) else (num, den * Nat.pow 2 (-e).toNat)

/-- The fraction `digits * 10 ^ e`. -/
def scaleByTen (digits : Nat) (e : Int) : Nat × Nat :=
  if 0 ≤ e then (digits * Nat.pow 10 e.toNat, 1) else (digits, Nat.pow 10 (-e).toNat)

/-- The number of decimal digits; zero has none. -/
def digitCount (n : Nat) : Nat := if n = 0 then 0 else (Nat.toDigits 10 n).length

namespace Binary64

def minExponent : Int := -1074
def maxExponent : Int := 971

/-- The binary number nearest to a positive fraction. -/
def ofFraction (negative : Bool) (num den : Nat) : Binary64 :=
  let guess : Int := (Nat.log2 num : Int) - (Nat.log2 den : Int) - 52
  let (n, d) := scaleByTwo num den (-guess)
  let e := max (if n / d < Nat.pow 2 52 then guess - 1 else guess) minExponent
  let (n, d) := scaleByTwo num den (-e)
  let m := roundDiv n d
  let (m, e) := if m == Nat.pow 2 53 then (Nat.pow 2 52, e + 1) else (m, e)
  if maxExponent < e then .infinite negative else .finite negative m e

/-- The binary number nearest to `digits * 10 ^ exponent`. -/
def ofDecimal (negative : Bool) (digits : Nat) (exponent : Int) : Binary64 :=
  let places := (digitCount digits : Int) + exponent
  if digits = 0 || places < -330 then .finite negative 0 minExponent
  else if 320 < places then .infinite negative
  else
    let (num, den) := scaleByTen digits exponent
    ofFraction negative num den

/-- Whether the number is neither infinite nor undefined. -/
def isFinite : Binary64 → Bool
  | .finite _ _ _ => true
  | _ => false

/-! ## Reading -/

def ofDigits (ds : List Char) : Nat := ds.foldl (fun n d => n * 10 + (d.toNat - '0'.toNat)) 0

/-- The exponent after its letter. -/
def readExponent? (cs : List Char) : Option Int :=
  let read := fun (ds : List Char) (sign : Int) =>
    if !ds.isEmpty && ds.all Char.isDigit then some (sign * (ofDigits ds : Int)) else none
  match cs with
  | '-' :: ds => read ds (-1)
  | '+' :: ds => read ds 1
  | ds => read ds 1

/-- Read digits with a point and an exponent, both optional.  There is a digit before or after the
point. -/
def readUnsigned? (negative : Bool) (cs : List Char) : Option Binary64 :=
  let whole := cs.takeWhile Char.isDigit
  let rest := cs.dropWhile Char.isDigit
  let (fraction, rest) := match rest with
    | '.' :: more => (more.takeWhile Char.isDigit, more.dropWhile Char.isDigit)
    | _ => ([], rest)
  if whole.isEmpty && fraction.isEmpty then none
  else
    let exponent := match rest with
      | [] => some 0
      | x :: more => if x == 'e' || x == 'E' then readExponent? more else none
    exponent.map fun e => ofDecimal negative (ofDigits (whole ++ fraction)) (e - fraction.length)

/-- Read a signed decimal number. -/
def ofText? (cs : List Char) : Option Binary64 :=
  match cs with
  | '-' :: rest => readUnsigned? true rest
  | '+' :: rest => readUnsigned? false rest
  | _ => readUnsigned? false cs

end Binary64

end ThreatMarker.Decimal
