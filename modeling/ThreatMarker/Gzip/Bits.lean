/-
# Bits of a byte string

Bits are taken from the low end of each byte.  A read that goes past the end gives nothing.
-/

namespace ThreatMarker.Gzip

set_option autoImplicit false

/-- The bit at a place. -/
def bitAt? (data : ByteArray) (place : Nat) : Option Nat :=
  (data[place / 8]?).map (fun b => (b.toNat >>> (place % 8)) % 2)

/-- The number in `count` bits from a place, the lowest bit first. -/
def bitsAt? (data : ByteArray) : Nat → Nat → Option Nat
  | 0, _ => some 0
  | count + 1, place =>
      match bitAt? data place, bitsAt? data count (place + 1) with
      | some b, some rest => some (b + 2 * rest)
      | _, _ => none

/-- The byte at a place that is counted in bytes. -/
def byteAt? (data : ByteArray) (place : Nat) : Option Nat := (data[place]?).map UInt8.toNat

/-- A number of `count` bytes, the lowest byte first. -/
def numberAt? (data : ByteArray) : Nat → Nat → Option Nat
  | 0, _ => some 0
  | count + 1, place =>
      match byteAt? data place, numberAt? data count (place + 1) with
      | some b, some rest => some (b + 256 * rest)
      | _, _ => none

end ThreatMarker.Gzip
