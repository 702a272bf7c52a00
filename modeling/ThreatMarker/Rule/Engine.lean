import ThreatMarker.Rule.Matcher
import ThreatMarker.Rule.Builtin
/-
# The rule engine

An engine is a list of compiled rules with different names, in the order in which they were added.
A record is evaluated by all of them in that order, and is flagged if one of them matches.
-/

namespace ThreatMarker.Rule

set_option autoImplicit false

/-- A rule that matched. -/
structure Match where
  name : String
  priority : Nat
  deriving Repr, DecidableEq

/-- The rules that matched a record, in the order of evaluation. -/
structure Evaluation where
  matched : List Match
  deriving Repr, DecidableEq

namespace Evaluation

def isFlagged (e : Evaluation) : Bool := !e.matched.isEmpty

def names (e : Evaluation) : List String := e.matched.map Match.name

/-- The smallest number among the priorities, which is the highest of them. -/
def topPriority (e : Evaluation) : Option Nat := (e.matched.map Match.priority).min?

def mark (e : Evaluation) : Mark := .ofFlagged e.isFlagged

end Evaluation

/-- What detects threats: a name, and which records it flags. -/
structure Detector where
  name : String
  isFlagged : Record → Bool

/-- A rule that was not taken, and why. -/
structure Refusal where
  rule : String
  fault : Fault
  deriving Repr, DecidableEq

/-- Compiled rules in the order of evaluation. -/
structure Engine where
  matchers : List Matcher := []
  deriving Repr, DecidableEq

/-- What is done to an engine that stays in use.  Where it fails, it leaves the engine as it is at that
time. -/
abbrev Update (ε : Type) := EStateM ε Engine

namespace Engine

def empty : Engine := {}

def size (e : Engine) : Nat := e.matchers.length

def names (e : Engine) : List String := e.matchers.map Matcher.name

def contains (e : Engine) (name : String) : Bool := e.matchers.any (fun m => m.name == name)

/-- Compile a rule and add it, unless its name is taken. -/
def insert (r : Rule) : Update Refusal Unit := do
  if (← get).contains r.name then
    throw ⟨r.name, .duplicateName⟩
  else
    match Matcher.ofRule r with
    | .ok m => modify fun e => ⟨e.matchers ++ [m]⟩
    | .error fault => throw ⟨r.name, fault⟩

/-- An engine to which a rule is added. -/
def add (e : Engine) (r : Rule) : Except Refusal Engine :=
  match (insert r).run e with
  | .ok _ next => .ok next
  | .error refusal _ => .error refusal

/-- Add rules one after the other. -/
def addAll (e : Engine) : List Rule → Except Refusal Engine
  | [] => .ok e
  | r :: rest =>
      match e.add r with
      | .ok e => e.addAll rest
      | .error refusal => .error refusal

/-- An engine with the given rules. -/
def ofRules (rules : List Rule) : Except Refusal Engine := empty.addAll rules

/-- Compile rules that are to join an engine.  Their names must be new to the engine and to the rules
before them, whose names are in `seen`. -/
def compileNew (e : Engine) : List String → List Rule → Except Refusal (List Matcher)
  | _, [] => .ok []
  | seen, r :: rest =>
      if e.contains r.name || seen.contains r.name then .error ⟨r.name, .duplicateName⟩
      else
        match Matcher.ofRule r with
        | .error fault => .error ⟨r.name, fault⟩
        | .ok m =>
            match e.compileNew (r.name :: seen) rest with
            | .error refusal => .error refusal
            | .ok ms => .ok (m :: ms)

/-- Add rules once all of them are compiled.  It returns how many they are. -/
def insertAll (rules : List Rule) : Update Refusal Nat := do
  match (← get).compileNew [] rules with
  | .ok ms =>
      modify fun e => ⟨e.matchers ++ ms⟩
      return ms.length
  | .error refusal => throw refusal

/-- Take out the rule of a name, if there is one. -/
def take {ε : Type} (name : String) : Update ε (Option Matcher) := do
  match (← get).matchers.find? (fun m => m.name == name) with
  | some m =>
      modify fun e => ⟨e.matchers.eraseP (fun m => m.name == name)⟩
      return some m
  | none => return none

/-- The rule of a name, and the engine without it. -/
def remove (e : Engine) (name : String) : Option (Matcher × Engine) :=
  match (take name : Update Unit (Option Matcher)).run e with
  | .ok (some m) next => some (m, next)
  | _ => none

/-- Evaluate a record by all rules. -/
def evaluate (e : Engine) (r : Record) : Evaluation :=
  ⟨(e.matchers.filter (fun m => m.isMatch r)).map (fun m => ⟨m.name, m.priority⟩)⟩

/-- Whether some rule matches. -/
def isFlagged (e : Engine) (r : Record) : Bool := e.matchers.any (fun m => m.isMatch r)

/-- The name under which an engine detects threats. -/
def detectorName : String := "rule-engine"

/-- An engine as a detector. -/
def detector (e : Engine) : Detector := ⟨detectorName, e.isFlagged⟩

theorem contains_iff {e : Engine} {name : String} : e.contains name = true ↔ name ∈ e.names := by
  simp [contains, names]

theorem isFlagged_eq (e : Engine) (r : Record) : e.isFlagged r = (e.evaluate r).isFlagged := by
  cases e with
  | mk ms =>
      simp only [isFlagged, Evaluation.isFlagged, evaluate]
      induction ms with
      | nil => rfl
      | cons m ms ih => cases h : m.isMatch r <;> simp [h, ih]

/-! ## Events -/

/-- The event of a rule that was added. -/
def addedEvent (m : Matcher) : Trace.Event :=
  { level := .debug, message := "rule added",
    fields := [("rule", m.name), ("priority", toString m.priority),
      ("conditions", toString m.tests.length), ("exclusions", toString m.exclusions.size)] }

/-- What adding a rule reports. -/
def addEvents (e : Engine) (r : Rule) : List Trace.Event :=
  if e.contains r.name then []
  else
    match Matcher.ofRule r with
    | .ok m => Matcher.events r ++ [addedEvent m]
    | .error _ => []

/-- What adding rules one after the other reports. -/
def addAllEvents (e : Engine) : List Rule → List Trace.Event
  | [] => []
  | r :: rest =>
      e.addEvents r ++
        match e.add r with
        | .ok e => e.addAllEvents rest
        | .error _ => []

/-- What adding rules together reports: the rules are announced once all of them are accepted. -/
def joinEvents (e : Engine) (rules : List Rule) : List Trace.Event :=
  let reports := e.addAllEvents rules
  let added := fun (event : Trace.Event) => event.level == .debug
  reports.filter (fun event => !added event) ++
    match e.addAll rules with
    | .ok _ => reports.filter added
    | .error _ => []

end Engine

end ThreatMarker.Rule
