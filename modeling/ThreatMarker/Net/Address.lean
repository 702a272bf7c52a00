import ThreatMarker.Text.Cut
/-
# Internet addresses

The text of an address of either version.  An address of version 4 is four decimal numbers without
leading zeros; one of version 6 is eight groups of up to four hexadecimal digits, of which one run
may be left out, and whose last two may be written as an address of version 4.
-/

namespace ThreatMarker.Net

set_option autoImplicit false

open Text (cutAt)

/-- An address: its version decides the number of bits. -/
inductive Address where
  | v4 (bits : BitVec 32)
  | v6 (bits : BitVec 128)
  deriving Repr, DecidableEq

/-- The value of a digit of a base up to sixteen. -/
def digit? (base : Nat) (c : Char) : Option Nat :=
  let value :=
    if c.isDigit then some (c.toNat - '0'.toNat)
    else if 'a' ≤ c ∧ c ≤ 'f' then some (c.toNat - 'a'.toNat + 10)
    else if 'A' ≤ c ∧ c ≤ 'F' then some (c.toNat - 'A'.toNat + 10)
    else none
  value.filter (· < base)

/-- Whether a character is a digit of a base. -/
def isDigitOf (base : Nat) (c : Char) : Bool := (digit? base c).isSome

/-- The value of digits. -/
def digitsValue (base : Nat) (ds : List Char) : Nat :=
  ds.foldl (fun n d => n * base + (digit? base d).getD 0) 0

/-- A decimal number of at most three digits below 256, without a leading zero. -/
def octet? (ds : List Char) : Option Nat :=
  if ds.isEmpty || 3 < ds.length || !ds.all (isDigitOf 10) then none
  else if 1 < ds.length && ds.head? == some '0' then none
  else some (digitsValue 10 ds) |>.filter (· < 256)

/-- The number that four octets make. -/
def ofOctets (a b c d : Nat) : Nat := ((a * 256 + b) * 256 + c) * 256 + d

/-- The bits of an address of version 4. -/
def readV4? (text : List Char) : Option Nat :=
  match cutAt '.' text with
  | [a, b, c, d] =>
      match octet? a, octet? b, octet? c, octet? d with
      | some a, some b, some c, some d => some (ofOctets a b c d)
      | _, _, _, _ => none
  | _ => none

/-- A group of one to four hexadecimal digits. -/
def group? (ds : List Char) : Option Nat :=
  if ds.isEmpty || 4 < ds.length || !ds.all (isDigitOf 16) then none else some (digitsValue 16 ds)

/-- The groups of a part of an address of version 6.  An address of version 4 may stand for the last
two groups if the part ends the address. -/
def groups? (final : Bool) : List (List Char) → Option (List Nat)
  | [] => some []
  | [last] =>
      match group? last with
      | some g => some [g]
      | none =>
          if final then (readV4? last).map (fun n => [n / 65536, n % 65536]) else none
  | part :: parts =>
      match group? part, groups? final parts with
      | some g, some gs => some (g :: gs)
      | _, _ => none

/-- The groups of one side of the place where groups are left out. -/
def side? (final : Bool) (text : List Char) : Option (List Nat) :=
  if text.isEmpty then some [] else groups? final (cutAt ':' text)

/-- Cut a text before and after its first double colon. -/
def cutAtGap : List Char → Option (List Char × List Char)
  | ':' :: ':' :: rest => some ([], rest)
  | c :: rest => (cutAtGap rest).map (fun (before, after) => (c :: before, after))
  | [] => none

/-- The number that eight groups make. -/
def ofGroups (gs : List Nat) : Nat := gs.foldl (fun n g => n * 65536 + g) 0

/-- The bits of an address of version 6. -/
def readV6? (text : List Char) : Option Nat :=
  match cutAtGap text with
  | none =>
      match side? true text with
      | some gs => if gs.length == 8 then some (ofGroups gs) else none
      | none => none
  | some (before, after) =>
      match side? false before, side? true after with
      | some front, some back =>
          if front.length + back.length < 8 then
            some (ofGroups
              (front ++ List.replicate (8 - front.length - back.length) 0 ++ back))
          else none
      | _, _ => none

namespace Address

/-- Read an address of either version. -/
def ofText? (text : List Char) : Option Address :=
  match readV4? text with
  | some n => some (.v4 (BitVec.ofNat 32 n))
  | none => (readV6? text).map (fun n => .v6 (BitVec.ofNat 128 n))

/-! ## Printing -/

/-- The eight groups of the bits of an address of version 6. -/
def groupsOf (bits : BitVec 128) : List Nat :=
  [7, 6, 5, 4, 3, 2, 1, 0].map (fun i => (bits.toNat >>> (16 * i)) % 65536)

/-- Four octets between points. -/
def dotted (bits : BitVec 32) : String :=
  String.intercalate "." ([3, 2, 1, 0].map (fun i => toString ((bits.toNat >>> (8 * i)) % 256)))

/-- How many zeros a list begins with. -/
def leadingZeros (gs : List Nat) : Nat := (gs.takeWhile (· == 0)).length

/-- The first of the longest runs of zeros: where it begins and how long it is. -/
def longestGap : Nat → List Nat → Nat × Nat
  | _, [] => (0, 0)
  | i, g :: rest =>
      let here := leadingZeros (g :: rest)
      let later := longestGap (i + 1) rest
      if later.2 ≤ here then (i, here) else later

def groupText (g : Nat) : String := String.ofList (Nat.toDigits 16 g)

/-- The groups between colons. -/
def groupsText (gs : List Nat) : String := String.intercalate ":" (gs.map groupText)

/-- The shortest text of an address: the first of the longest runs of two or more zero groups is left
out, and an address of version 4 inside one of version 6 is written as such. -/
def text : Address → String
  | .v4 bits => dotted bits
  | .v6 bits =>
      let gs := groupsOf bits
      if gs.take 6 == [0, 0, 0, 0, 0, 0xFFFF] then "::ffff:" ++ dotted (bits.setWidth 32)
      else
        let (start, count) := longestGap 0 gs
        if 1 < count then groupsText (gs.take start) ++ "::" ++ groupsText (gs.drop (start + count))
        else groupsText gs

end Address

end ThreatMarker.Net
