import ThreatMarker.Rule.Engine
import ThreatMarker.Files.Tree
/-
# Failures

A failure names what it is about and why it arose.  The pipeline's failures are told apart by what
was being done; for the whole system they fall into a few wider kinds.
-/

namespace ThreatMarker

set_option autoImplicit false

/-- A failure of the pipeline. -/
inductive Failure where
  | ruleLoad (path reason : String)
  | ruleValidation (rule reason : String)
  | input (path reason : String)
  | batch (path reason : String)
  | config (field reason : String)
  | io (reason : String)
  | regex (reason : String)
  | csv (reason : String)
  deriving Repr, DecidableEq

namespace Failure

def message : Failure → String
  | .ruleLoad path reason => "rule load error: " ++ path ++ ": " ++ reason
  | .ruleValidation rule reason => "rule validation error: rule '" ++ rule ++ "': " ++ reason
  | .input path reason => "input error: " ++ path ++ ": " ++ reason
  | .batch path reason => "batch error: " ++ path ++ ": " ++ reason
  | .config field reason => "config error: " ++ field ++ ": " ++ reason
  | .io reason => "io error: " ++ reason
  | .regex reason => "regex error: " ++ reason
  | .csv reason => "csv error: " ++ reason

/-- A rule that was not taken. -/
def ofRefusal (r : Rule.Refusal) : Failure :=
  .ruleValidation (r.fault.shownName r.rule) r.fault.message

end Failure

/-- A failure of the whole system. -/
inductive SystemFailure where
  | configNotFound (path : String)
  | configUnreadable (reason : String)
  | configInvalid (field reason : String)
  | rule (reason : String)
  | ruleLoad (reason : String)
  | batchInput (reason : String)
  | batchOutput (reason : String)
  | io (reason : String)
  deriving Repr, DecidableEq

namespace SystemFailure

def message : SystemFailure → String
  | .configNotFound path => "config error: config file not found: " ++ path
  | .configUnreadable reason => "config error: failed to parse config: " ++ reason
  | .configInvalid field reason =>
      "config error: invalid config value for '" ++ field ++ "': " ++ reason
  | .rule reason => "detection error: rule error: " ++ reason
  | .ruleLoad reason => "detection error: rule load failed: " ++ reason
  | .batchInput reason => "batch error: input error: " ++ reason
  | .batchOutput reason => "batch error: output error: " ++ reason
  | .io reason => "io error: " ++ reason

/-- The kind of a failure of the pipeline. -/
def ofPipeline (f : Failure) : SystemFailure :=
  match f with
  | .ruleLoad _ _ => .ruleLoad f.message
  | .ruleValidation _ _ => .rule f.message
  | .regex _ => .rule f.message
  | .input _ _ => .batchInput f.message
  | .batch _ _ => .batchOutput f.message
  | .csv _ => .batchOutput f.message
  | .config field reason => .configInvalid field reason
  | .io reason => .io reason

end SystemFailure

end ThreatMarker
