/-
# Events

What happens during a run is told in events: a level, a message and named values.
-/

namespace ThreatMarker.Trace

set_option autoImplicit false

/-- How much an event matters. -/
inductive Level where
  | error
  | warn
  | info
  | debug
  | trace
  deriving Repr, DecidableEq

namespace Level

/-- Zero for what matters most. -/
def rank : Level → Nat
  | .error => 0
  | .warn => 1
  | .info => 2
  | .debug => 3
  | .trace => 4

def text : Level → String
  | .error => "ERROR"
  | .warn => "WARN"
  | .info => "INFO"
  | .debug => "DEBUG"
  | .trace => "TRACE"

def ofText? (s : String) : Option Level :=
  [error, warn, info, debug, trace].find? (fun l => l.text == s)

end Level

structure Event where
  level : Level
  message : String
  fields : List (String × String) := []
  deriving Repr, DecidableEq

/-- The events that matter at least as much as a level. -/
def upTo (level : Level) (events : List Event) : List Event :=
  events.filter (fun e => e.level.rank ≤ level.rank)

/-- The warnings among events. -/
def warnings (events : List Event) : List Event := events.filter (fun e => e.level == .warn)

end ThreatMarker.Trace
