import ThreatMarker.Config.Basic
import ThreatMarker.Toml.Printer
/-
# Writing settings

Settings as a TOML document with one table after the other, and as JSON.
-/

namespace ThreatMarker.Config

set_option autoImplicit false

open Json (Value)
open Toml (entryText stringText)

/-! ## TOML -/

def General.toToml (g : General) : String :=
  entryText "log_level" (stringText g.logLevel) ++ entryText "log_format" (stringText g.logFormat)

def Etl.toToml (e : Etl) : String :=
  entryText "raw_dir" (stringText e.rawDir)
    ++ entryText "sample_dir" (stringText e.sampleDir)
    ++ entryText "input_extension" (stringText e.inputExtension)
    ++ entryText "output_prefix" (stringText e.outputPrefix)
    ++ entryText "rules_dir" (stringText e.rulesDir)
    ++ entryText "max_line_length" (toString e.maxLineLength)

def toToml (c : Config) : String :=
  "[general]\n" ++ c.general.toToml ++ "\n[etl]\n" ++ c.etl.toToml

/-! ## JSON -/

def General.toJson (g : General) : Value :=
  .object [("log_level", .string g.logLevel), ("log_format", .string g.logFormat)]

def Etl.toJson (e : Etl) : Value :=
  .object [("raw_dir", .string e.rawDir), ("sample_dir", .string e.sampleDir),
    ("input_extension", .string e.inputExtension), ("output_prefix", .string e.outputPrefix),
    ("rules_dir", .string e.rulesDir), ("max_line_length", .int e.maxLineLength)]

def toJson (c : Config) : Value :=
  .object [("general", c.general.toJson), ("etl", c.etl.toJson)]

end ThreatMarker.Config
