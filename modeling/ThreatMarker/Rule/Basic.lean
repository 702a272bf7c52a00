import ThreatMarker.Record.Basic
/-
# Rules

A rule is declared as a list of conditions on the fields of a record.  All of them must hold, unless
the client belongs to a network that the rule leaves out.  The declaration says how a condition
compares and what with; whether the two fit together is checked when the rule is compiled.
-/

namespace ThreatMarker

set_option autoImplicit false

namespace Rule

/-- The fields that conditions can be on. -/
inductive Field where
  | clientIp
  | method
  | path
  | referer
  | userAgent
  | statusCode
  deriving Repr, DecidableEq, Inhabited

namespace Field

def text : Field → String
  | .clientIp => "client_ip"
  | .method => "method"
  | .path => "path"
  | .referer => "referer"
  | .userAgent => "user_agent"
  | .statusCode => "status_code"

/-- The names that a declaration may use, in the order in which they are listed. -/
def names : List (String × Field) :=
  [("client_ip", .clientIp), ("method", .method), ("path", .path), ("referer", .referer),
    ("user_agent", .userAgent), ("resp_status", .statusCode), ("status", .statusCode),
    ("status_code", .statusCode)]

/-- The value of a field in a record. -/
def value (f : Field) (r : Record) : String :=
  match f with
  | .clientIp => r.clientIp
  | .method => r.method
  | .path => r.path
  | .referer => r.referer
  | .userAgent => r.userAgent
  | .statusCode => r.statusCode

end Field

/-- The ways to compare. -/
inductive Operator where
  | equals
  | contains
  | regex
  | oneOf
  deriving Repr, DecidableEq, Inhabited

namespace Operator

def text : Operator → String
  | .equals => "equals"
  | .contains => "contains"
  | .regex => "regex"
  | .oneOf => "in"

def names : List (String × Operator) :=
  [("equals", .equals), ("contains", .contains), ("regex", .regex), ("in", .oneOf)]

end Operator

/-- What a field is compared with. -/
inductive Operand where
  | one (value : String)
  | many (values : List String)
  deriving Repr, DecidableEq, Inhabited

structure Condition where
  field : Field
  operator : Operator
  operand : Operand
  deriving Repr, DecidableEq, Inhabited

/-- Whether a rule takes part. -/
inductive Status where
  | enabled
  | disabled
  deriving Repr, DecidableEq, Inhabited

namespace Status

def text : Status → String
  | .enabled => "enabled"
  | .disabled => "disabled"

def names : List (String × Status) := [("enabled", .enabled), ("disabled", .disabled)]

end Status

end Rule

/-- A declared rule. -/
structure Rule where
  name : String
  description : String := ""
  priority : Nat := 0
  status : Rule.Status := .enabled
  conditions : List Rule.Condition := []
  excludeNetworks : List String := []
  deriving Repr, DecidableEq, Inhabited

end ThreatMarker
