import ThreatMarker.Rule.Basic
import ThreatMarker.Json.Value
/-
# Writing a rule

The JSON form of a rule.  Every field is written, except a description that is empty.
-/

namespace ThreatMarker.Rule

set_option autoImplicit false

open Json (Value)

def textList (xs : List String) : Value := .array (xs.map .string)

def Operand.toJson : Operand → Value
  | .one value => .string value
  | .many values => textList values

def Condition.toJson (c : Condition) : Value :=
  .object [("field", .string c.field.text), ("operator", .string c.operator.text),
    ("value", c.operand.toJson)]

def toJson (r : Rule) : Value :=
  .object
    ([("name", .string r.name)]
      ++ (if r.description = "" then [] else [("description", .string r.description)])
      ++ [("priority", .int r.priority), ("status", .string r.status.text),
        ("conditions", .array (r.conditions.map Condition.toJson)),
        ("exclude_networks", textList r.excludeNetworks)])

end ThreatMarker.Rule
