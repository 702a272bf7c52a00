import ThreatMarker.Cli.Palette
import ThreatMarker.Config.Encoding
/-
# Reports about the configuration

Whether a configuration file is in order, and the settings that are in force, all of them or one
table.
-/

namespace ThreatMarker.Cli

set_option autoImplicit false

open Json (Value)

/-! ## Checking -/

/-- Whether the configuration of a file is in order. -/
structure ConfigCheck where
  source : String
  fault : Option String
  deriving Repr, DecidableEq

namespace ConfigCheck

def isValid (r : ConfigCheck) : Bool := r.fault.isNone

def toJson (r : ConfigCheck) : Value :=
  .object [("source", .string r.source), ("valid", .bool r.isValid),
    ("errors", .array (r.fault.toList.map .string))]

def text (p : Palette) (r : ConfigCheck) : String :=
  let result :=
    match r.fault with
    | none => ["  Result: " ++ p.paint (.strongColoured .green) "VALID"]
    | some fault =>
        ["  Result: " ++ p.paint (.strongColoured .red) "INVALID",
          "  Error: " ++ p.paint (.coloured .red) fault]
  unlines (("Config Validation: " ++ p.paint .strong r.source) :: result)

end ConfigCheck

/-! ## Showing -/

/-- The tables of a configuration. -/
inductive ConfigPart where
  | general
  | etl
  deriving Repr, DecidableEq

namespace ConfigPart

def name : ConfigPart → String
  | .general => "general"
  | .etl => "etl"

def ofName? (name : String) : Option ConfigPart :=
  [general, etl].find? (fun part => part.name == name)

def toToml (part : ConfigPart) (c : Config) : String :=
  match part with
  | .general => c.general.toToml
  | .etl => c.etl.toToml

end ConfigPart

/-- The settings that are in force. -/
structure ConfigReport where
  source : String
  part : Option ConfigPart
  config : Config
  deriving Repr, DecidableEq

namespace ConfigReport

/-- All settings, whether one table is asked for or not. -/
def toJson (r : ConfigReport) : Value :=
  .object ([("source", .string r.source)]
    ++ r.part.toList.map (fun part => ("section", .string part.name))
    ++ [("config", r.config.toJson)])

def text (p : Palette) (r : ConfigReport) : String :=
  match r.part with
  | some part =>
      "Configuration " ++ p.paint .strong ("[" ++ part.name ++ "]") ++ " (source: " ++ r.source
        ++ ")\n\n" ++ part.toToml r.config
  | none =>
      "Configuration (source: " ++ p.paint .strong r.source ++ ")\n\n" ++ r.config.toToml

end ConfigReport

end ThreatMarker.Cli
