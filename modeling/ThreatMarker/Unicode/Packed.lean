import ThreatMarker.Unicode.CharSet
/-
# Packed range tables

The larger tables of the character database are kept as lines of text.  A table lists, range after range, the
distance from the end of the range before it and the length of the range less one.  A number is
written with base-32 digits, most significant first: the 32 characters `A`-`Z`, `a`-`f` are digits
that end a number, the 32 characters `g`-`z`, `0`-`9`, `+`, `-` are digits that another one follows.
-/

namespace ThreatMarker.Unicode

set_option autoImplicit false

/-- The value of a digit and whether it ends its number. -/
def packedDigit (c : Char) : Nat × Bool :=
  if 'A' ≤ c ∧ c ≤ 'Z' then (c.toNat - 'A'.toNat, true)
  else if 'a' ≤ c ∧ c ≤ 'f' then (c.toNat - 'a'.toNat + 26, true)
  else if 'g' ≤ c ∧ c ≤ 'z' then (c.toNat - 'g'.toNat, false)
  else if '0' ≤ c ∧ c ≤ '9' then (c.toNat - '0'.toNat + 20, false)
  else if c = '+' then (30, false)
  else (31, false)

/-- The numbers read so far, the last one first, and the value of the digits after them. -/
abbrev PackedState := List Nat × Nat

/-- Read one digit. -/
def PackedState.read (acc : PackedState) (c : Char) : PackedState :=
  let d := packedDigit c
  let value := acc.2 * 32 + d.1
  if d.2 then (value :: acc.1, 0) else (acc.1, value)

/-- The numbers of packed lines. -/
def packedNumbers (lines : List String) : List Nat :=
  (lines.foldl (fun acc line => line.foldl PackedState.read acc) ([], 0)).1.reverse

/-- Ranges from distances and lengths, the first distance counted from `start`. -/
def unpackRanges (start : Nat) : List Nat → List (Nat × Nat)
  | distance :: length :: rest =>
      let lo := start + distance
      (lo, lo + length) :: unpackRanges (lo + length) rest
  | _ => []

/-- The set that packed lines describe. -/
def CharSet.unpack (lines : List String) : CharSet := ⟨unpackRanges 0 (packedNumbers lines)⟩

end ThreatMarker.Unicode
