import ThreatMarker.Gzip.Inflate
/-
# Compressed files

A compressed file is one member or several, one after the other.  A member is a header, a deflated
stream, and a trailer with the checksum and the length of the output.
-/

namespace ThreatMarker.Gzip

set_option autoImplicit false

/-- Why a file cannot be decompressed further. -/
inductive Fault where
  | endOfFile
  | header
  | longField
  | incomplete
  | corrupt
  | checksum
  deriving Repr, DecidableEq

def Fault.message : Fault → String
  | .endOfFile => "unexpected end of file"
  | .header => "invalid gzip header"
  | .longField => "gzip header field too long"
  | .incomplete => "incomplete deflate stream"
  | .corrupt => "corrupt deflate stream"
  | .checksum => "corrupt gzip stream does not have a matching checksum"

/-! ## Checksums -/

/-- One bit of the division that makes a checksum. -/
def checksumBit (c : UInt32) : UInt32 :=
  if c &&& 1 == 1 then (0xEDB88320 : UInt32) ^^^ (c >>> 1) else c >>> 1

/-- The checksum of one byte. -/
def checksumByte (b : UInt32) : UInt32 := Nat.repeat checksumBit 8 b

/-- The checksums of all bytes. -/
def checksumTable : Array UInt32 := (Array.range 256).map (fun n => checksumByte n.toUInt32)

/-- The checksum of bytes. -/
def checksum (data : ByteArray) : UInt32 :=
  let table := checksumTable
  (data.foldl
    (fun (c : UInt32) b => table.getD ((c ^^^ b.toUInt32) &&& 0xFF).toNat 0 ^^^ (c >>> 8))
    0xFFFFFFFF) ^^^ 0xFFFFFFFF

/-! ## Headers -/

/-- The limit on the length of a name or a comment. -/
def maxFieldLength : Nat := 65535

/-- The place after a text that a zero ends. -/
def skipText (data : ByteArray) : Nat → Nat → Nat → Except Fault Nat
  | 0, _, _ => .error .endOfFile
  | fuel + 1, length, place =>
      match byteAt? data place with
      | none => .error .endOfFile
      | some 0 => .ok (place + 1)
      | some _ =>
          if length = maxFieldLength then .error .longField
          else skipText data fuel (length + 1) (place + 1)

/-- The place after a header that begins at `start`. -/
def skipHeader (data : ByteArray) (start : Nat) : Except Fault Nat := do
  let flags ← match numberAt? data 10 start, byteAt? data (start + 3) with
    | some fixed, some flags =>
        if fixed % 65536 = 0x8B1F ∧ fixed / 65536 % 256 = 8 ∧ flags < 0x20 then .ok flags
        else .error Fault.header
    | _, _ => .error .endOfFile
  let place := start + 10
  let has := fun (bit : Nat) => flags / bit % 2 = 1
  let place ← if has 4 then
      match numberAt? data 2 place with
      | none => .error Fault.endOfFile
      | some n => if place + 2 + n ≤ data.size then .ok (place + 2 + n) else .error .endOfFile
    else .ok place
  let place ← if has 8 then skipText data (data.size + 1) 0 place else .ok place
  let place ← if has 16 then skipText data (data.size + 1) 0 place else .ok place
  if has 2 then
    match numberAt? data 2 place with
    | none => .error .endOfFile
    | some given =>
        if given = (checksum (data.extract start place)).toNat % 65536 then .ok (place + 2)
        else .error .checksum
  else .ok place

/-! ## Files -/

/-- What can be read of a file: bytes, and the fault after them, if there is one. -/
structure Stream where
  bytes : List UInt8
  fault : Option Fault := none
  deriving Repr, DecidableEq

/-- Whether the trailer of a member fits its output. -/
def checkTrailer (data : ByteArray) (place : Nat) (out : ByteArray) : Except Fault Unit :=
  match numberAt? data 4 place, numberAt? data 4 (place + 4) with
  | some sum, some size =>
      if sum = (checksum out).toNat ∧ size = out.size % Nat.pow 2 32 then .ok () else .error .checksum
  | _, _ => .error .endOfFile

/-- Read members from a place on, after the output of the members before. -/
def readMembers (data : ByteArray) : Nat → ByteArray → Nat → ByteArray × Option Fault
  | 0, done, _ => (done, some .endOfFile)
  | fuel + 1, done, start =>
      match skipHeader data start with
      | .error fault => (done, some fault)
      | .ok place =>
          let inflated := inflate data place
          let out := done ++ inflated.out
          match inflated.result with
          | .error .incomplete => (out, some .incomplete)
          | .error .corrupt => (out, some .corrupt)
          | .ok place =>
              match checkTrailer data place inflated.out with
              | .error fault => (out, some fault)
              | .ok () =>
                  if place + 8 < data.size then readMembers data fuel out (place + 8)
                  else (out, none)

/-- Decompress a file. -/
def decompress (data : ByteArray) : Stream :=
  let (out, fault) := readMembers data (data.size + 1) .empty 0
  ⟨out.data.toList, fault⟩

end ThreatMarker.Gzip
