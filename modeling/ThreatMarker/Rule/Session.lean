import ThreatMarker.Rule.Loader
/-
# Changes of an engine

A rule can be added to an engine, taken out of it, or added with all the rules of a directory.  The
engine stays in use whatever comes of a change.
-/

namespace ThreatMarker.Rule

set_option autoImplicit false

open Files (FileTree)

/-- What can be done to an engine. -/
inductive Change where
  | add (rule : Rule)
  | remove (name : String)
  | load (files : FileTree) (dir : String)

/-- What comes of a change. -/
inductive Outcome where
  | added
  | removed (m : Matcher)
  | absent
  | loaded (count : Nat)
  | failed (f : Failure)
  deriving Repr, DecidableEq

namespace Change

/-- What a change does. -/
def update : Change → Update Failure Outcome
  | .add r => do
      (Engine.insert r).adaptExcept .ofRefusal
      return .added
  | .remove name => do
      match ← Engine.take name with
      | some m => return .removed m
      | none => return .absent
  | .load files dir => do
      match ofDirectory files dir with
      | .ok rules =>
          let count ← (Engine.insertAll rules).adaptExcept .ofRefusal
          return .loaded count
      | .error f => throw f

/-- What comes of a change, and the engine after it. -/
def apply (c : Change) (e : Engine) : Outcome × Engine :=
  match c.update.run e with
  | .ok outcome next => (outcome, next)
  | .error f next => (.failed f, next)

/-- The engine after changes, one after the other. -/
def applyAll (e : Engine) (changes : List Change) : Engine :=
  changes.foldl (fun e c => (c.apply e).2) e

end Change

end ThreatMarker.Rule
