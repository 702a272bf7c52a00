import ThreatMarker.Rule.Fault
import ThreatMarker.Rule.Exclusion
import ThreatMarker.Text.Cut
/-
# Compiled rules

`Matcher.ofRule` checks a rule and prepares it: patterns are read, lists of values become sorted lists
without repetition, and networks are parsed.  Matching a record cannot fail.
-/

namespace ThreatMarker.Rule

set_option autoImplicit false

/-- A condition that is ready to be evaluated. -/
inductive Test where
  | equals (field : Field) (value : String)
  | contains (field : Field) (needle : String)
  | regex (field : Field) (pattern : Regex)
  | oneOf (field : Field) (values : List String)
  deriving Repr, DecidableEq

namespace Test

/-- Whether a record meets the condition. -/
def holds (t : Test) (r : Record) : Bool :=
  match t with
  | .equals field value => field.value r == value
  | .contains field needle => Text.occursIn needle.toList (field.value r).toList
  | .regex field pattern => pattern.isMatch (field.value r)
  | .oneOf field values => values.contains (field.value r)

def field : Test → Field
  | .equals f _ => f
  | .contains f _ => f
  | .regex f _ => f
  | .oneOf f _ => f

def operator : Test → Operator
  | .equals _ _ => .equals
  | .contains _ _ => .contains
  | .regex _ _ => .regex
  | .oneOf _ _ => .oneOf

end Test

/-- Put a text into a sorted list, unless it is there. -/
def insertSorted (s : String) : List String → List String
  | [] => [s]
  | x :: rest =>
      if s < x then s :: x :: rest
      else if s = x then x :: rest
      else x :: insertSorted s rest

/-- The texts in ascending order, each once. -/
def sortedDistinct (xs : List String) : List String := xs.foldr insertSorted []

theorem mem_insertSorted {s t : String} {xs : List String} :
    t ∈ insertSorted s xs ↔ t = s ∨ t ∈ xs := by
  induction xs with
  | nil => simp [insertSorted]
  | cons x rest ih =>
      unfold insertSorted
      split
      · simp
      · split
        · next h => subst h; simp
        · simp [ih]; grind

@[simp] theorem mem_sortedDistinct {t : String} {xs : List String} :
    t ∈ sortedDistinct xs ↔ t ∈ xs := by
  induction xs with
  | nil => simp [sortedDistinct]
  | cons x rest ih =>
      have : sortedDistinct (x :: rest) = insertSorted x (sortedDistinct rest) := rfl
      rw [this, mem_insertSorted, ih]; simp

/-- Prepare one condition.  Conditions that were checked are not found unfit. -/
def compileCondition (index : Nat) (c : Condition) : Except Fault Test :=
  match c.operator, c.operand with
  | .equals, .one value => .ok (.equals c.field value)
  | .contains, .one needle => .ok (.contains c.field needle)
  | .regex, .one pattern =>
      match Regex.compile? pattern with
      | .ok r => .ok (.regex c.field r)
      | .error fault => .error (.pattern index c.field fault)
  | .oneOf, .many values => .ok (.oneOf c.field (sortedDistinct values))
  | operator, _ => .error (.unfit index operator)

/-- Prepare conditions, counted from `index`, in order. -/
def compileConditions : Nat → List Condition → Except Fault (List Test)
  | _, [] => .ok []
  | index, c :: rest =>
      match compileCondition index c with
      | .error fault => .error fault
      | .ok t =>
          match compileConditions (index + 1) rest with
          | .error fault => .error fault
          | .ok ts => .ok (t :: ts)

/-- A rule that is ready to be evaluated. -/
structure Matcher where
  name : String
  priority : Nat
  enabled : Bool
  tests : List Test
  exclusions : Exclusions
  deriving Repr, DecidableEq

namespace Matcher

/-- Check and prepare a rule. -/
def ofRule (r : Rule) : Except Fault Matcher :=
  match r.validate with
  | .error fault => .error fault
  | .ok () =>
      match compileConditions 0 r.conditions with
      | .error fault => .error fault
      | .ok tests =>
          .ok { name := r.name, priority := r.priority, enabled := r.status == .enabled, tests,
                exclusions := .ofTexts r.excludeNetworks }

/-- What preparing a rule reports: its networks are read once all else is in order. -/
def events (r : Rule) : List Trace.Event :=
  match ofRule r with
  | .ok _ => Exclusions.warnings r.name r.excludeNetworks
  | .error _ => []

/-- Whether a record meets all conditions. -/
def conditionsHold (m : Matcher) (r : Record) : Bool := m.tests.all (fun t => t.holds r)

/-- Whether the rule applies to a record. -/
def isMatch (m : Matcher) (r : Record) : Bool :=
  m.enabled && !m.exclusions.contains r.clientIp && m.conditionsHold r

theorem name_of_ofRule {r : Rule} {m : Matcher} (h : ofRule r = .ok m) : m.name = r.name := by
  unfold ofRule at h
  split at h
  · cases h
  · split at h
    · cases h
    · cases h; rfl

end Matcher

end ThreatMarker.Rule
