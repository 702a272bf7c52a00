import ThreatMarker.Net.Address
import ThreatMarker.Decimal.Natural
/-
# Networks

A network is the set of addresses of one version that begin with the same bits.  Its text is an
address, alone or before a slash and the number of those bits; for version 4 the number may be given
by a mask.  The bits after them must be zero.
-/

namespace ThreatMarker.Net

set_option autoImplicit false

open Text (cutAt)

/-- The mask that keeps the first `length` bits of `w`. -/
def mask (w length : Nat) : BitVec w := BitVec.allOnes w <<< (w - length)

/-- The first bits of an address. -/
inductive Network where
  | v4 (base : BitVec 32) (length : Nat)
  | v6 (base : BitVec 128) (length : Nat)
  deriving Repr, DecidableEq

/-- Why a text is not a network. -/
inductive NetworkFault where
  | malformed (text : String)
  | hostBits (network : Address)
  deriving Repr, DecidableEq

def NetworkFault.message : NetworkFault → String
  | .malformed text => "invalid address: " ++ text
  | .hostBits network => "host bits set (network is " ++ network.text ++ ")"

namespace Network

/-- Whether an address belongs to a network.  An address of the other version does not. -/
def contains : Network → Address → Bool
  | .v4 base length, .v4 a => a &&& mask 32 length == base
  | .v6 base length, .v6 a => a &&& mask 128 length == base
  | _, _ => false

/-- The number of ones that a mask begins with, if only zeros follow them. -/
def maskLength? (bits : BitVec 32) : Option Nat :=
  (List.range 33).find? (fun n => mask 32 n == bits)

/-- The length after the slash. -/
def length? (v4 : Bool) (text : List Char) : Option Nat :=
  match v4, readV4? text with
  | true, some n => maskLength? (BitVec.ofNat 32 n)
  | _, _ => Decimal.readNatural? (if v4 then 32 else 128) text

/-- An address and the number of bits that count. -/
def parts? (text : List Char) : Option (Address × Nat) :=
  match cutAt '/' text with
  | [address] =>
      (Address.ofText? address).map fun
        | .v4 a => (.v4 a, 32)
        | .v6 a => (.v6 a, 128)
  | [address, length] =>
      match Address.ofText? address with
      | some (.v4 a) => (length? true length).map fun n => (.v4 a, n)
      | some (.v6 a) => (length? false length).map fun n => (.v6 a, n)
      | none => none
  | _ => none

/-- Read a network. -/
def ofText (text : String) : Except NetworkFault Network :=
  match parts? text.toList with
  | none => .error (.malformed text)
  | some (.v4 a, n) =>
      if a &&& mask 32 n == a then .ok (.v4 a n) else .error (.hostBits (.v4 (a &&& mask 32 n)))
  | some (.v6 a, n) =>
      if a &&& mask 128 n == a then .ok (.v6 a n)
      else .error (.hostBits (.v6 (a &&& mask 128 n)))

end Network

end ThreatMarker.Net
