import ThreatMarker.Rule.Basic
import ThreatMarker.Decode.Format
import ThreatMarker.Decimal.Natural
import ThreatMarker.Decimal.Shortest
/-
# Reading a rule

A rule is read from any data format.  Only its name is required.  The value of a condition is a
string, a number, a truth value, or a list of them; numbers and truth values become their text.
-/

namespace ThreatMarker.Rule

set_option autoImplicit false

universe u

open Decode (Fault Content Format Shape)

variable {α : Type u}

/-! ## Operands -/

/-- The text of a single value. -/
def scalarText? : Content → Option String
  | .text s => some s
  | .bool b => some (if b then "true" else "false")
  | .integer n => some (toString n)
  | .real x => some x.text
  | .list _ => none
  | .other => none

/-- The texts of single values. -/
def scalarTexts? : List Content → Option (List String)
  | [] => some []
  | c :: rest =>
      match scalarText? c, scalarTexts? rest with
      | some s, some ss => some (s :: ss)
      | _, _ => none

/-- A single value or a list of them. -/
def Operand.ofContent? : Content → Option Operand
  | .list items => (scalarTexts? items).map .many
  | c => (scalarText? c).map .one

/-- How many collections are around the value of a condition. -/
def operandDepth : Nat := 3

/-! ## Conditions -/

/-- What is known of a condition while it is read. -/
structure PartialCondition where
  field : Field := .clientIp
  operator : Operator := .equals
  content : Content := .other

def conditionShape (F : Format α) : Shape α PartialCondition where
  title := "Condition"
  names := ["field", "operator", "value"]
  required := ["field", "operator", "value"]
  assign name v c :=
    if name = "field" then (F.oneOf Field.names v).map fun field => { c with field }
    else if name = "operator" then
      (F.oneOf Operator.names v).map fun operator => { c with operator }
    else
      (F.content operandDepth v).map fun content => { c with content }
  check name c :=
    if name = "value" && (Operand.ofContent? c.content).isNone then
      some (.noVariant "RawConditionValue")
    else none

/-- Read a condition. -/
def Condition.decode (F : Format α) (v : α) : Except Fault Condition :=
  match (conditionShape F).read F {} v with
  | .error fault => .error fault
  | .ok c => .ok ⟨c.field, c.operator, (Operand.ofContent? c.content).getD (.one "")⟩

/-! ## Rules -/

def shape (F : Format α) : Shape α Rule where
  title := "DetectionRule"
  names := ["name", "description", "priority", "status", "conditions", "exclude_networks"]
  synonyms := [("exclude_ips", "exclude_networks")]
  required := ["name"]
  assign name v r :=
    if name = "name" then (Format.here (F.string v)).map fun name => { r with name }
    else if name = "description" then
      (Format.here (F.string v)).map fun description => { r with description }
    else if name = "priority" then
      (Format.here (F.natural "u32" Decimal.maxNat32 v)).map fun priority => { r with priority }
    else if name = "status" then (F.oneOf Status.names v).map fun status => { r with status }
    else if name = "conditions" then
      (F.list (Condition.decode F) v).map fun conditions => { r with conditions }
    else
      (F.list (fun v => Format.here (F.string v)) v).map fun networks =>
        { r with excludeNetworks := networks }

/-- Read a rule. -/
def decode (F : Format α) (v : α) : Except Fault Rule := (shape F).read F { name := "" } v

end ThreatMarker.Rule
