import ThreatMarker.Failure
/-
# Failures of a command

Why a command did not succeed, how it says so, and the exit status that tells the kinds apart: 2 for
the configuration, 10 for input and output, and 1 for everything else.
-/

namespace ThreatMarker.Cli

set_option autoImplicit false

inductive Failure where
  | config (reason : String)
  | command (reason : String)
  | io (reason : String)
  | system (failure : SystemFailure)
  | rule (reason : String)
  deriving Repr, DecidableEq

namespace Failure

def message : Failure → String
  | .config reason => "configuration error: " ++ reason
  | .command reason => reason
  | .io reason => "io error: " ++ reason
  | .system failure => failure.message
  | .rule reason => "rule error: " ++ reason

def exitCode : Failure → Nat
  | .config _ => 2
  | .command _ => 1
  | .io _ => 10
  | .system (.configNotFound _) => 2
  | .system (.configUnreadable _) => 2
  | .system (.configInvalid _ _) => 2
  | .system (.io _) => 10
  | .system _ => 1
  | .rule _ => 1

/-- The failure of a command that used the pipeline. -/
def ofPipeline (f : ThreatMarker.Failure) : Failure :=
  match f with
  | .ruleLoad _ _ => .rule f.message
  | .ruleValidation _ _ => .rule f.message
  | .regex _ => .rule f.message
  | .config _ _ => .config f.message
  | .io reason => .io reason
  | .input _ _ => .command f.message
  | .batch _ _ => .command f.message
  | .csv _ => .command f.message

/-- The exit status of a command that may have failed. -/
def exitCodeOf : Option Failure → Nat
  | none => 0
  | some f => f.exitCode

/-- A failure is never taken for success. -/
theorem exitCode_ne_zero (f : Failure) : f.exitCode ≠ 0 := by
  cases f with
  | system s => cases s <;> simp [exitCode]
  | _ => simp [exitCode]

end Failure

end ThreatMarker.Cli
