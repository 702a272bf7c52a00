import ThreatMarker.Toml.Value
import ThreatMarker.Decode.Format
import ThreatMarker.Decimal.Shortest
import ThreatMarker.Text.Quoted
/-
# Decoding a TOML document

A structure is a table, or an array of its values, of which the last may be missing and any number may
be left over.  A date or a time looks like a structure with a field that nobody knows.
-/

namespace ThreatMarker.Toml

set_option autoImplicit false

open Decode (Cause Fault Content Fields Choice Format)

namespace Value

/-- Whether a whole number has at most 64 bits. -/
def isNarrow (n : Int) : Bool := -(Nat.pow 2 63 : Int) ≤ n && n < (Nat.pow 2 64 : Int)

def describe : Value → String
  | .string s => "string " ++ Text.quoted s
  | .integer n =>
      "integer " ++ Decode.tick (toString n)
        ++ (if isNarrow n then "" else if n < (Nat.pow 2 127 : Int) then " as i128" else " as u128")
  | .real x => "floating point " ++ Decode.tick x.pointedText
  | .outOfRange => "number"
  | .bool b => "boolean " ++ Decode.tick (if b then "true" else "false")
  | .time => "map"
  | .array _ => "sequence"
  | .table _ => "map"

/-- Why a value is not what is expected. -/
def refusal (v : Value) (expected : String) : Cause :=
  match v with
  | .outOfRange => .malformed
  | v => .invalidType v.describe expected

def readString : Value → Except Cause String
  | .string s => .ok s
  | v => .error (v.refusal "a string")

def readNatural (kind : String) (limit : Nat) (v : Value) : Except Cause Nat :=
  match v with
  | .integer n =>
      if !isNarrow n then .error (v.refusal kind)
      else if 0 ≤ n ∧ n ≤ limit then .ok n.toNat
      else .error (.invalidValue v.describe kind)
  | _ => .error (v.refusal kind)

def readChoice : Value → Except Cause Choice
  | .string s => .ok ⟨s, none⟩
  | .table [(name, v)] => .ok ⟨name, some (v.refusal "unit")⟩
  | v => .error (v.refusal "string or table")

def readItems : Value → Except Cause (List Value × Bool)
  | .array items => .ok (items, true)
  | v => .error (v.refusal "a sequence")

def readFields (kind : String) : Value → Except Cause (Fields Value)
  | .table entries =>
      .ok (.named (entries.map fun e => { name := .ok e.1, step := .member e.1, value := e.2 }) true)
  | .array items => .ok (.positional items)
  | .time => .ok (.named [] true)
  | v => .error (v.refusal kind)

mutual

/-- Whether all numbers in a value are within their range. -/
def isInRange : Value → Bool
  | .outOfRange => false
  | .array items => allInRange items
  | .table entries => allEntriesInRange entries
  | _ => true

def allInRange : List Value → Bool
  | [] => true
  | v :: rest => v.isInRange && allInRange rest

def allEntriesInRange : List (String × Value) → Bool
  | [] => true
  | (_, v) :: rest => v.isInRange && allEntriesInRange rest

end

mutual

/-- A value of any shape. -/
def content : Value → Content
  | .string s => .text s
  | .integer n => .integer n
  | .real x => .real x
  | .bool b => .bool b
  | .array items => .list (contents items)
  | .outOfRange => .other
  | .time => .other
  | .table _ => .other

def contents : List Value → List Content
  | [] => []
  | v :: rest => v.content :: contents rest

end

end Value

/-- How values are read from a TOML document. -/
def format : Format Value where
  string := Value.readString
  natural := Value.readNatural
  choice := Value.readChoice
  items := Value.readItems
  fields := Value.readFields
  content _ v := if v.isInRange then .ok v.content else .error { cause := .malformed }
  skip v := if v.isInRange then .ok () else .error .malformed
  surplus _ := none

end ThreatMarker.Toml
