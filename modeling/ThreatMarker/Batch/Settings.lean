import ThreatMarker.Config.Basic
/-
# Settings of a batch

What a batch has to know: where the logs are and which of them count, where the rows go, which rules
are added to those that are always known, and how long a line may be.
-/

namespace ThreatMarker.Batch

set_option autoImplicit false

structure Settings where
  rawDir : String := "raw"
  sampleDir : String := "samples"
  inputExtension : String := ".gz"
  outputPrefix : String := "threat_logs"
  rulesDir : Option String := none
  maxLineLength : Nat := 65536
  deriving Repr, DecidableEq

/-- The largest limit on the length of a line that a batch takes. -/
def maxLineLimit : Nat := 16777216

namespace Settings

/-- The settings of a batch in a configuration.  No rules are added from a directory without a
name. -/
def ofConfig (c : Config.Etl) : Settings :=
  { rawDir := c.rawDir, sampleDir := c.sampleDir, inputExtension := c.inputExtension,
    outputPrefix := c.outputPrefix, rulesDir := if c.rulesDir = "" then none else some c.rulesDir,
    maxLineLength := c.maxLineLength }

/-- The settings that can be wrong. -/
inductive Fault where
  | rawDir
  | sampleDir
  | inputExtension
  | emptyPrefix
  | outputPrefix (given : String)
  | maxLineLength
  deriving Repr, DecidableEq

namespace Fault

def field : Fault → String
  | .rawDir => "raw_dir"
  | .sampleDir => "sample_dir"
  | .inputExtension => "input_extension"
  | .emptyPrefix => "output_prefix"
  | .outputPrefix _ => "output_prefix"
  | .maxLineLength => "max_line_length"

def reason : Fault → String
  | .rawDir => "must not be empty"
  | .sampleDir => "must not be empty"
  | .inputExtension => "must not be empty"
  | .emptyPrefix => "must not be empty"
  | .outputPrefix given => "'" ++ given ++ "' must be a plain file name prefix"
  | .maxLineLength => "must be 1-" ++ toString maxLineLimit

def failure (f : Fault) : Failure := .config f.field f.reason

end Fault

/-- The first setting that is wrong. -/
def fault? (s : Settings) : Option Fault :=
  if s.rawDir = "" then some .rawDir
  else if s.sampleDir = "" then some .sampleDir
  else if s.inputExtension = "" then some .inputExtension
  else if s.outputPrefix = "" then some .emptyPrefix
  else if !Files.Path.isPlainName s.outputPrefix then some (.outputPrefix s.outputPrefix)
  else if s.maxLineLength = 0 ∨ maxLineLimit < s.maxLineLength then some .maxLineLength
  else none

/-- Refuse settings that are wrong. -/
def validate (s : Settings) : Except Failure Unit :=
  match s.fault? with
  | some f => .error f.failure
  | none => .ok ()

end Settings

end ThreatMarker.Batch
