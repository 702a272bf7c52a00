import ThreatMarker.Decimal.Binary64
/-
# TOML values

A number that is written out but does not fit its kind is kept as `outOfRange`: it is wrong only for a
reader that asks for it.  Tables keep their entries in ascending order of the names.
-/

namespace ThreatMarker.Toml

set_option autoImplicit false

inductive Value where
  | string (s : String)
  | integer (n : Int)
  | real (x : Decimal.Binary64)
  | outOfRange
  | bool (b : Bool)
  | time
  | array (items : List Value)
  | table (entries : List (String × Value))
  deriving Repr, Inhabited

end ThreatMarker.Toml
