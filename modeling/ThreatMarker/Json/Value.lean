import ThreatMarker.Decimal.Binary64
/-
# JSON values

Whole numbers are kept apart from the others: a number with a point or an exponent is binary, even if
it is whole.  The members of an object keep their order.
-/

namespace ThreatMarker.Json

set_option autoImplicit false

inductive Value where
  | null
  | bool (b : Bool)
  | int (n : Int)
  | real (x : Decimal.Binary64)
  | string (s : String)
  | array (items : List Value)
  | object (members : List (String × Value))
  deriving Repr, Inhabited

namespace Value

/-- The member of an object with a name. -/
def get? (v : Value) (name : String) : Option Value :=
  match v with
  | .object members => (members.find? (fun m => m.1 == name)).map (·.2)
  | _ => none

def asString? : Value → Option String
  | .string s => some s
  | _ => none

def asArray? : Value → Option (List Value)
  | .array items => some items
  | _ => none

def asObject? : Value → Option (List (String × Value))
  | .object members => some members
  | _ => none

def asInt? : Value → Option Int
  | .int n => some n
  | _ => none

def asNat? : Value → Option Nat
  | .int (.ofNat n) => some n
  | _ => none

def asBool? : Value → Option Bool
  | .bool b => some b
  | _ => none

end Value

end ThreatMarker.Json
