import ThreatMarker.Config.Environment
import ThreatMarker.Toml.Reader
import ThreatMarker.Toml.Decoding
/-
# Configuration files

Settings are read from a TOML document with two tables.  A file has to keep the rules by itself, and
again after the environment was taken into account.
-/

namespace ThreatMarker.Config

set_option autoImplicit false

open Decode (Fault Format Shape)
open Files (FileTree)

universe u

variable {α : Type u}

/-! ## Decoding -/

def readText (F : Format α) (v : α) : Except Decode.Fault String := Format.here (F.string v)

def generalShape (F : Format α) : Shape α General where
  title := "GeneralConfig"
  names := ["log_level", "log_format"]
  assign name v g :=
    if name = "log_level" then (readText F v).map fun logLevel => { g with logLevel }
    else (readText F v).map fun logFormat => { g with logFormat }

def etlShape (F : Format α) : Shape α Etl where
  title := "EtlConfig"
  names := ["raw_dir", "sample_dir", "input_extension", "output_prefix", "rules_dir",
    "max_line_length"]
  assign name v e :=
    if name = "raw_dir" then (readText F v).map fun rawDir => { e with rawDir }
    else if name = "sample_dir" then (readText F v).map fun sampleDir => { e with sampleDir }
    else if name = "input_extension" then
      (readText F v).map fun inputExtension => { e with inputExtension }
    else if name = "output_prefix" then
      (readText F v).map fun outputPrefix => { e with outputPrefix }
    else if name = "rules_dir" then (readText F v).map fun rulesDir => { e with rulesDir }
    else
      (Format.here (F.natural "usize" Decimal.maxNat64 v)).map fun maxLineLength =>
        { e with maxLineLength }

def shape (F : Format α) : Shape α Config where
  title := "AccessWatchConfig"
  names := ["general", "etl"]
  assign name v c :=
    if name = "general" then ((generalShape F).read F {} v).map fun general => { c with general }
    else ((etlShape F).read F {} v).map fun etl => { c with etl }

/-- Read settings from a text. -/
def ofToml (text : String) : Except SystemFailure Config :=
  match Toml.Value.parse? text with
  | none => .error (.configUnreadable Decode.Cause.malformed.message)
  | some v =>
      match (shape Toml.format).read Toml.format {} v with
      | .ok c => .ok c
      | .error fault => .error (.configUnreadable fault.cause.message)

/-! ## Files -/

/-- Settings with what was reported on the way to them. -/
structure Loaded where
  result : Except SystemFailure Config
  events : List Trace.Event := []

/-- Read settings that keep the rules from a file. -/
def ofFile (t : FileTree) (path : String) : Except SystemFailure Config :=
  match t.readText path with
  | .error .noEntry => .error (.configNotFound path)
  | .error e => .error (.io e.message)
  | .ok text =>
      match ofToml text with
      | .error f => .error f
      | .ok c =>
          match c.validate with
          | .error f => .error f
          | .ok () => .ok c

/-- Take the environment into account. -/
def settle (c : Config) (env : Environment) (before : List Trace.Event) : Loaded :=
  let c := c.override env
  let events := before ++ overrideEvents env
  match c.validate with
  | .error f => ⟨.error f, events⟩
  | .ok () => ⟨.ok c, events⟩

/-- Read a file and the environment. -/
def load (t : FileTree) (env : Environment) (path : String) : Loaded :=
  match ofFile t path with
  | .error f => ⟨.error f, []⟩
  | .ok c => c.settle env []

/-- Read a file, if it is there, and the environment. -/
def loadOrDefault (t : FileTree) (env : Environment) (path : String) : Loaded :=
  match ofFile t path with
  | .ok c => c.settle env []
  | .error (.configNotFound _) =>
      let missing : Trace.Event :=
        { level := .debug, message := "config file not found, using defaults",
          fields := [("path", path)] }
      ({} : Config).settle env [missing]
  | .error f => ⟨.error f, []⟩

end ThreatMarker.Config
