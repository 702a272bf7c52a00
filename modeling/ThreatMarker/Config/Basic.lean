import ThreatMarker.Failure
import ThreatMarker.Files.Path
/-
# Configuration

What can be set for a run, with the values that hold where nothing is set, and the rules that the
values have to keep.  Of several rules that are broken the first one listed is reported.
-/

namespace ThreatMarker

set_option autoImplicit false

namespace Config

/-- Settings about logging. -/
structure General where
  logLevel : String := "info"
  logFormat : String := "json"
  deriving Repr, DecidableEq

/-- Settings about the conversion of logs. -/
structure Etl where
  rawDir : String := "raw"
  sampleDir : String := "samples"
  inputExtension : String := ".gz"
  outputPrefix : String := "threat_logs"
  rulesDir : String := ""
  maxLineLength : Nat := 65536
  deriving Repr, DecidableEq

end Config

/-- All settings. -/
structure Config where
  general : Config.General := {}
  etl : Config.Etl := {}
  deriving Repr, DecidableEq

namespace Config

def logLevels : List String := ["trace", "debug", "info", "warn", "error"]

def logFormats : List String := ["json", "pretty"]

/-- The largest limit on the length of a line. -/
def maxLineLimit : Nat := 16777216

/-- The settings that can be wrong. -/
inductive Fault where
  | logLevel
  | logFormat
  | rawDir
  | sampleDir
  | inputExtension
  | outputPrefix
  | maxLineLength
  deriving Repr, DecidableEq

namespace Fault

def field : Fault → String
  | .logLevel => "general.log_level"
  | .logFormat => "general.log_format"
  | .rawDir => "etl.raw_dir"
  | .sampleDir => "etl.sample_dir"
  | .inputExtension => "etl.input_extension"
  | .outputPrefix => "etl.output_prefix"
  | .maxLineLength => "etl.max_line_length"

def reason : Fault → String
  | .logLevel => "must be one of: " ++ String.intercalate ", " logLevels
  | .logFormat => "must be one of: " ++ String.intercalate ", " logFormats
  | .rawDir => "must not be empty"
  | .sampleDir => "must not be empty"
  | .inputExtension => "must not be empty"
  | .outputPrefix => "must be a non-empty file name prefix without path separators"
  | .maxLineLength => "must be 1-" ++ toString maxLineLimit

def failure (f : Fault) : SystemFailure := .configInvalid f.field f.reason

end Fault

/-- Whether a limit on the length of a line is allowed. -/
def isLineLimit (n : Nat) : Bool := 1 ≤ n && n ≤ maxLineLimit

/-- The first setting that is wrong. -/
def fault? (c : Config) : Option Fault :=
  if !logLevels.contains c.general.logLevel then some .logLevel
  else if !logFormats.contains c.general.logFormat then some .logFormat
  else if c.etl.rawDir = "" then some .rawDir
  else if c.etl.sampleDir = "" then some .sampleDir
  else if c.etl.inputExtension = "" then some .inputExtension
  else if !Files.Path.isPlainName c.etl.outputPrefix then some .outputPrefix
  else if !isLineLimit c.etl.maxLineLength then some .maxLineLength
  else none

/-- Refuse settings that are wrong. -/
def validate (c : Config) : Except SystemFailure Unit :=
  match c.fault? with
  | some f => .error f.failure
  | none => .ok ()

end Config

end ThreatMarker
