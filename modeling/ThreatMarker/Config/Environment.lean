import ThreatMarker.Config.Basic
import ThreatMarker.Decimal.Natural
/-
# Settings in the environment

Every setting can be given by a variable of the environment, which counts more than a file.  A number
that cannot be read is reported and does not count.
-/

namespace ThreatMarker

set_option autoImplicit false

/-- The variables of the environment.  One whose value is no text counts as not set. -/
abbrev Environment := List (String × String)

/-- The value of a variable. -/
def Environment.value? (env : Environment) (name : String) : Option String :=
  (env.find? (fun v => v.1 == name)).map (·.2)

namespace Config

/-- The variables that can hold a setting. -/
inductive Variable where
  | logLevel
  | logFormat
  | rawDir
  | sampleDir
  | inputExtension
  | outputPrefix
  | rulesDir
  | maxLineLength
  deriving Repr, DecidableEq

namespace Variable

/-- A name is made of the names of the table and of the setting. -/
def name : Variable → String
  | .logLevel => "ACCESSWATCH_GENERAL_LOG_LEVEL"
  | .logFormat => "ACCESSWATCH_GENERAL_LOG_FORMAT"
  | .rawDir => "ACCESSWATCH_ETL_RAW_DIR"
  | .sampleDir => "ACCESSWATCH_ETL_SAMPLE_DIR"
  | .inputExtension => "ACCESSWATCH_ETL_INPUT_EXTENSION"
  | .outputPrefix => "ACCESSWATCH_ETL_OUTPUT_PREFIX"
  | .rulesDir => "ACCESSWATCH_ETL_RULES_DIR"
  | .maxLineLength => "ACCESSWATCH_ETL_MAX_LINE_LENGTH"

def all : List Variable :=
  [.logLevel, .logFormat, .rawDir, .sampleDir, .inputExtension, .outputPrefix, .rulesDir,
    .maxLineLength]

/-- The text of a setting in the environment. -/
def text? (v : Variable) (env : Environment) : Option String := env.value? v.name

/-- The number of a setting in the environment, unless it cannot be read. -/
def number? (v : Variable) (env : Environment) : Option Nat :=
  (v.text? env).bind fun text => Decimal.readNatural? Decimal.maxNat64 text.toList

theorem mem_all (v : Variable) : v ∈ all := by cases v <;> simp [all]

end Variable

/-- Settings with those of the environment in their place. -/
def override (c : Config) (env : Environment) : Config :=
  { general :=
      { logLevel := (Variable.logLevel.text? env).getD c.general.logLevel
        logFormat := (Variable.logFormat.text? env).getD c.general.logFormat }
    etl :=
      { rawDir := (Variable.rawDir.text? env).getD c.etl.rawDir
        sampleDir := (Variable.sampleDir.text? env).getD c.etl.sampleDir
        inputExtension := (Variable.inputExtension.text? env).getD c.etl.inputExtension
        outputPrefix := (Variable.outputPrefix.text? env).getD c.etl.outputPrefix
        rulesDir := (Variable.rulesDir.text? env).getD c.etl.rulesDir
        maxLineLength := (Variable.maxLineLength.number? env).getD c.etl.maxLineLength } }

/-- What taking settings from the environment reports. -/
def overrideEvents (env : Environment) : List Trace.Event :=
  match Variable.maxLineLength.text? env, Variable.maxLineLength.number? env with
  | some value, none =>
      [{ level := .warn, message := "failed to parse usize from env var, ignoring",
         fields := [("env_key", Variable.maxLineLength.name), ("value", value)] }]
  | _, _ => []

end Config

end ThreatMarker
