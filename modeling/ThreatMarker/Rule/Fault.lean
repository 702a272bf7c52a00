import ThreatMarker.Rule.Basic
import ThreatMarker.Regex.Basic
/-
# Faults of a rule

Why a rule cannot be compiled or added.  A rule without a name is shown under a name that no rule can
be given in a message.
-/

namespace ThreatMarker.Rule

set_option autoImplicit false

/-- How a value does not fit its operator. -/
inductive ShapeFault where
  | listRequired
  | singleRequired (operator : Operator)
  | emptyPattern
  deriving Repr, DecidableEq

def ShapeFault.message : ShapeFault → String
  | .listRequired => "operator 'in' requires a list of values"
  | .singleRequired operator => "operator '" ++ operator.text ++ "' requires a single string value"
  | .emptyPattern => "regex pattern must not be empty"

/-- What is wrong with a rule.  A value that does not fit its operator is a fault of the `shape` where a
rule is checked, and makes a condition `unfit` where it is compiled. -/
inductive Fault where
  | emptyName
  | longName
  | duplicateName
  | shape (index : Nat) (field : Field) (fault : ShapeFault)
  | unfit (index : Nat) (operator : Operator)
  | pattern (index : Nat) (field : Field) (fault : Regex.PatternError)
  deriving Repr, DecidableEq

/-- The limit on the bytes of a name. -/
def maxNameLength : Nat := 256

/-- A pattern is refused for its size or for how it is written. -/
def patternMessage : Regex.PatternError → String
  | .tooLarge => "size limit"
  | _ => "syntax"

namespace Fault

def message : Fault → String
  | .emptyName => "rule name must not be empty"
  | .longName => "rule name must not exceed " ++ toString maxNameLength ++ " characters"
  | .duplicateName => "duplicate rule name"
  | .shape index field fault =>
      "condition[" ++ toString index ++ "] on '" ++ field.text ++ "': " ++ fault.message
  | .unfit index operator =>
      "condition[" ++ toString index ++ "]: value shape does not fit '" ++ operator.text ++ "'"
  | .pattern index field fault =>
      "invalid regex in condition[" ++ toString index ++ "] for field '" ++ field.text ++ "': "
        ++ patternMessage fault

/-- The name under which a fault is shown. -/
def shownName (f : Fault) (name : String) : String :=
  match f with
  | .emptyName => "(empty)"
  | _ => name

end Fault

/-- How the value of a condition does not fit its operator, if it does not. -/
def Condition.shapeFault? (c : Condition) : Option ShapeFault :=
  match c.operator, c.operand with
  | .oneOf, .many _ => none
  | .oneOf, .one _ => some .listRequired
  | op, .many _ => some (.singleRequired op)
  | .regex, .one pattern => if pattern = "" then some .emptyPattern else none
  | _, .one _ => none

/-- The first fault in the shapes of conditions, counted from `index`. -/
def shapeFault? : Nat → List Condition → Option Fault
  | _, [] => none
  | index, c :: rest =>
      match c.shapeFault? with
      | some fault => some (.shape index c.field fault)
      | none => shapeFault? (index + 1) rest

/-- What is wrong with a rule before its patterns are read. -/
def validate (r : Rule) : Except Fault Unit :=
  if r.name = "" then .error .emptyName
  else if maxNameLength < r.name.utf8ByteSize then .error .longName
  else
    match shapeFault? 0 r.conditions with
    | some fault => .error fault
    | none => .ok ()

end ThreatMarker.Rule
