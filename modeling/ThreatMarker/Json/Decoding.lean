import ThreatMarker.Json.Value
import ThreatMarker.Decode.Format
import ThreatMarker.Decimal.Shortest
import ThreatMarker.Text.Quoted
/-
# Decoding a JSON value

Numbers are read as whole numbers only if they are written as such.  A structure may also be given as
an array of its values.  A choice is a string, or an object with one member whose value is null.
-/

namespace ThreatMarker.Json

set_option autoImplicit false

open Decode (Cause Fault Content Fields Choice Format)

namespace Value

/-- A value in a message. -/
def describe : Value → String
  | .null => "null"
  | .bool b => "boolean " ++ Decode.tick (if b then "true" else "false")
  | .int n => "integer " ++ Decode.tick (toString n)
  | .real x => "floating point " ++ Decode.tick x.scientificText
  | .string s => "string " ++ Text.quoted s
  | .array _ => "sequence"
  | .object _ => "map"

def refusal (v : Value) (expected : String) : Cause := .invalidType v.describe expected

def readString : Value → Except Cause String
  | .string s => .ok s
  | v => .error (v.refusal "a string")

def readNatural (kind : String) (limit : Nat) (v : Value) : Except Cause Nat :=
  match v with
  | .int n => if 0 ≤ n ∧ n ≤ limit then .ok n.toNat else .error (.invalidValue v.describe kind)
  | _ => .error (v.refusal kind)

def readChoice : Value → Except Cause Choice
  | .string s => .ok ⟨s, none⟩
  | .object [(name, .null)] => .ok ⟨name, none⟩
  | .object [(name, v)] => .ok ⟨name, some (v.refusal "unit")⟩
  | .object _ => .error (.invalidValue "map" "map with a single key")
  | v => .error (v.refusal "string or map")

def readItems : Value → Except Cause (List Value × Bool)
  | .array items => .ok (items, true)
  | v => .error (v.refusal "a sequence")

def readFields (kind : String) : Value → Except Cause (Fields Value)
  | .object members =>
      .ok (.named (members.map fun m =>
        { name := .ok m.1, step := .member m.1, value := m.2 }) true)
  | .array items => .ok (.positional items)
  | v => .error (v.refusal kind)

mutual

/-- A value of any shape. -/
def content : Value → Content
  | .null => .other
  | .bool b => .bool b
  | .int n => .integer n
  | .real x => .real x
  | .string s => .text s
  | .array items => .list (contents items)
  | .object _ => .other

def contents : List Value → List Content
  | [] => []
  | v :: rest => v.content :: contents rest

end

end Value

/-- How values are read from JSON. -/
def format : Format Value where
  string := Value.readString
  natural := Value.readNatural
  choice := Value.readChoice
  items := Value.readItems
  fields := Value.readFields
  content _ v := .ok v.content
  skip _ := .ok ()
  surplus n := some (.invalidLength n "fewer elements in array")

end ThreatMarker.Json
