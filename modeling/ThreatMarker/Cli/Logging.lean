import ThreatMarker.Json.Printer
import ThreatMarker.Trace.Event
/-
# Logging

The events of a run are logged up to a level, one event a line, in one of two formats.
-/

namespace ThreatMarker.Cli

set_option autoImplicit false

open Trace (Event)

inductive LogFormat where
  | json
  | pretty
  deriving Repr, DecidableEq

namespace LogFormat

def name : LogFormat → String
  | .json => "json"
  | .pretty => "pretty"

def ofName? (name : String) : Option LogFormat := [json, pretty].find? (fun f => f.name == name)

/-- What is said of a name that is no format. -/
def unknownMessage (name : String) : String :=
  "unknown log format '" ++ name ++ "', expected 'json' or 'pretty'"

/-- The line of an event. -/
def line (f : LogFormat) (e : Event) : String :=
  match f with
  | .json =>
      (Json.Value.object ([("level", .string e.level.text), ("message", .string e.message)]
        ++ e.fields.map fun field => (field.1, .string field.2))).compact
  | .pretty =>
      e.level.text ++ " " ++ e.message ++ String.join (e.fields.map fun field =>
        ", " ++ field.1 ++ ": " ++ field.2)

/-- The lines of the events up to a level. -/
def lines (f : LogFormat) (level : Trace.Level) (events : List Event) : List String :=
  (Trace.upTo level events).map f.line

end LogFormat

end ThreatMarker.Cli
