/-
# Decoding faults

Why data does not have the shape that is asked for, and where.  The place is the path from the root
of the data to the value that is wrong.
-/

namespace ThreatMarker.Decode

set_option autoImplicit false

/-- One step of a path. -/
inductive Step where
  | item (index : Nat)
  | member (name : String)
  | unnamed
  deriving Repr, DecidableEq

/-- What is wrong with a value. -/
inductive Cause where
  | malformed
  | invalidType (found expected : String)
  | invalidValue (found expected : String)
  | invalidLength (length : Nat) (expected : String)
  | missingField (name : String)
  | duplicateField (name : String)
  | unknownVariant (name : String) (known : List String)
  | noVariant (kind : String)
  deriving Repr, DecidableEq

/-- A name between backquotes. -/
def tick (name : String) : String := "\x60" ++ name ++ "\x60"

/-- The names that were possible. -/
def oneOf : List String → String
  | [] => "there are no variants"
  | [a] => "expected " ++ tick a
  | [a, b] => "expected " ++ tick a ++ " or " ++ tick b
  | names => "expected one of " ++ String.intercalate ", " (names.map tick)

namespace Cause

def message : Cause → String
  | .malformed => "syntax"
  | .invalidType found expected => "invalid type: " ++ found ++ ", expected " ++ expected
  | .invalidValue found expected => "invalid value: " ++ found ++ ", expected " ++ expected
  | .invalidLength n expected => "invalid length " ++ toString n ++ ", expected " ++ expected
  | .missingField name => "missing field " ++ tick name
  | .duplicateField name => "duplicate field " ++ tick name
  | .unknownVariant name known => "unknown variant " ++ tick name ++ ", " ++ oneOf known
  | .noVariant kind => "data did not match any variant of untagged enum " ++ kind

end Cause

structure Fault where
  cause : Cause
  path : List Step := []
  deriving Repr, DecidableEq

namespace Fault

/-- A fault seen from one step further out. -/
def under (step : Step) (f : Fault) : Fault := { f with path := step :: f.path }

/-- A path as text, after what was written of it so far. -/
def pathText (written : String) : List Step → String
  | [] => written
  | .item i :: rest => pathText (written ++ "[" ++ toString i ++ "]") rest
  | .member name :: rest =>
      pathText (if written.isEmpty then name else written ++ "." ++ name) rest
  | .unnamed :: rest => pathText (if written.isEmpty then "?" else written ++ ".?") rest

/-- The place, unless it is the root, and the cause. -/
def message (f : Fault) : String :=
  if f.cause = .malformed || f.path.isEmpty then f.cause.message
  else pathText "" f.path ++ ": " ++ f.cause.message

end Fault

end ThreatMarker.Decode
