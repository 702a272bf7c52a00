import ThreatMarker.Proofs.Rule.Acceptance
import ThreatMarker.Proofs.Rule.Directory
/-
# The fault that is reported

A rule is checked as a whole before any of its patterns is read.  So a fault of its name comes before
one in the shape of a condition, that before a pattern that cannot be read, and of several conditions
with a fault of one kind the first is reported (`ofRule_eq_error_iff`).  What was checked is never found
unfit when it is compiled, and a rule that compiles has a test for each condition in its place
(`forall₂_isTestOf`).
-/

namespace ThreatMarker.Rule

set_option autoImplicit false

/-! ## Faults of a condition -/

namespace Condition

/-- The value of a condition does not fit its operator. -/
inductive Misfit (c : Condition) : ShapeFault → Prop where
  | single {value : String} (operator : c.operator = .oneOf) (operand : c.operand = .one value) :
      c.Misfit .listRequired
  | list {values : List String} (operator : c.operator ≠ .oneOf) (operand : c.operand = .many values) :
      c.Misfit (.singleRequired c.operator)
  | noPattern (operator : c.operator = .regex) (operand : c.operand = .one "") : c.Misfit .emptyPattern

/-- The pattern of a condition cannot be read, or its automaton is too large. -/
def Unreadable (c : Condition) (fault : Regex.PatternError) : Prop :=
  c.operator = .regex ∧ ∃ pattern, c.operand = .one pattern ∧ Regex.compile? pattern = .error fault

/-- A test is that of a condition: it is on the same field and compares in the same way. -/
def IsTestOf (c : Condition) (t : Test) : Prop := t.field = c.field ∧ t.operator = c.operator

variable {c : Condition}

theorem shapeFault?_eq_some_iff {fault : ShapeFault} : c.shapeFault? = some fault ↔ c.Misfit fault := by
  constructor
  · intro found
    obtain ⟨field, operator, operand⟩ := c
    cases operator <;> cases operand <;> simp only [shapeFault?, reduceCtorEq, Option.some.injEq] at found
    case regex.one pattern =>
      split at found
      · rename_i empty
        cases found
        exact .noPattern rfl (by rw [empty])
      · cases found
    case oneOf.one => exact found ▸ .single rfl rfl
    all_goals exact found ▸ .list (by simp) rfl
  · intro misfit
    obtain ⟨field, operator, operand⟩ := c
    cases misfit with
    | single same operand => cases same; cases operand; rfl
    | list other operand => cases operand; cases operator <;> first | rfl | exact absurd rfl other
    | noPattern same operand => cases same; cases operand; rfl

theorem shapeFault?_eq_none_iff : c.shapeFault? = none ↔ ∀ fault, ¬ c.Misfit fault := by
  simp only [Option.eq_none_iff_forall_ne_some, ne_eq, shapeFault?_eq_some_iff]

/-- **Nothing is wrong with a condition that was checked but its pattern.** -/
theorem compileCondition_eq_error_iff (fits : c.shapeFault? = none) (index : Nat) (f : Fault) :
    compileCondition index c = .error f ↔
      ∃ fault, c.Unreadable fault ∧ f = .pattern index c.field fault := by
  obtain ⟨field, operator, operand⟩ := c
  cases operator <;> cases operand <;> simp only [shapeFault?, reduceCtorEq] at fits
  case regex.one pattern =>
    cases read : Regex.compile? pattern <;> simp [compileCondition, Unreadable, read, eq_comm]
  all_goals simp [compileCondition, Unreadable]

theorem isTestOf_of_compileCondition {index : Nat} {t : Test}
    (compiled : compileCondition index c = .ok t) : c.IsTestOf t := by
  obtain ⟨field, operator, operand⟩ := c
  cases operator <;> cases operand <;> simp only [compileCondition, reduceCtorEq] at compiled
  case regex.one pattern =>
    cases read : Regex.compile? pattern <;> simp only [read, reduceCtorEq] at compiled
    cases compiled
    exact ⟨rfl, rfl⟩
  all_goals
    cases compiled
    exact ⟨rfl, rfl⟩

end Condition

/-! ## The first fault -/

/-- A condition is the first of some that have a fault. -/
structure IsFirst {α : Type} (Faulty : Condition → α → Prop) (cs : List Condition) (index : Nat)
    (c : Condition) (fault : α) : Prop where
  listed : cs[index]? = some c
  faulty : Faulty c fault
  before : ∀ other ∈ cs.take index, ∀ fault, ¬ Faulty other fault

section First

variable {α : Type} {Faulty : Condition → α → Prop} {first c : Condition} {cs : List Condition}
  {index : Nat} {fault : α}

theorem isFirst_nil : ¬ IsFirst Faulty [] index c fault := fun first => by cases first.listed

theorem isFirst_head : IsFirst Faulty (first :: cs) 0 c fault ↔ first = c ∧ Faulty c fault :=
  ⟨fun found => ⟨Option.some.inj found.listed, found.faulty⟩,
    fun ⟨same, faulty⟩ => ⟨congrArg some same, faulty, fun _ none => by cases none⟩⟩

theorem isFirst_later :
    IsFirst Faulty (first :: cs) (index + 1) c fault ↔
      (∀ fault, ¬ Faulty first fault) ∧ IsFirst Faulty cs index c fault := by
  constructor
  · intro found
    obtain ⟨sound, before⟩ := List.forall_mem_cons.1 found.before
    exact ⟨sound, found.listed, found.faulty, before⟩
  · rintro ⟨sound, found⟩
    exact ⟨found.listed, found.faulty, List.forall_mem_cons.2 ⟨sound, found.before⟩⟩

/-- The first of some conditions with a fault is the one in front, or else the first of the others. -/
theorem exists_isFirst_cons {Q : Nat → Condition → α → Prop} :
    (∃ index c fault, IsFirst Faulty (first :: cs) index c fault ∧ Q index c fault) ↔
      (∃ fault, Faulty first fault ∧ Q 0 first fault) ∨
        (∀ fault, ¬ Faulty first fault) ∧
          ∃ index c fault, IsFirst Faulty cs index c fault ∧ Q (index + 1) c fault := by
  constructor
  · rintro ⟨_ | index, c, fault, found, holds⟩
    · obtain ⟨rfl, faulty⟩ := isFirst_head.1 found
      exact .inl ⟨fault, faulty, holds⟩
    · obtain ⟨sound, found⟩ := isFirst_later.1 found
      exact .inr ⟨sound, index, c, fault, found, holds⟩
  · rintro (⟨fault, faulty, holds⟩ | ⟨sound, index, c, fault, found, holds⟩)
    · exact ⟨0, first, fault, isFirst_head.2 ⟨rfl, faulty⟩, holds⟩
    · exact ⟨index + 1, c, fault, isFirst_later.2 ⟨sound, found⟩, holds⟩

/-- Some condition has a fault exactly if there is a first one. -/
theorem exists_isFirst_iff :
    (∃ index c fault, IsFirst Faulty cs index c fault) ↔ ∃ c ∈ cs, ∃ fault, Faulty c fault := by
  induction cs with
  | nil => simp [isFirst_nil]
  | cons first cs ih =>
      have step := @exists_isFirst_cons α Faulty first cs fun _ _ _ => True
      simp only [and_true] at step
      rw [step, ih, List.exists_mem_cons_iff]
      by_cases faulty : ∃ fault, Faulty first fault
      · simp [faulty]
      · simp [not_exists.1 faulty]

end First

variable {cs : List Condition} {r : Rule} {m : Matcher} {f : Fault}

/-- The check finds the first condition whose value does not fit. -/
theorem shapeFault?_eq_some_iff (start : Nat) :
    shapeFault? start cs = some f ↔
      ∃ index c fault, IsFirst Condition.Misfit cs index c fault ∧
        f = .shape (start + index) c.field fault := by
  induction cs generalizing start with
  | nil => simp [shapeFault?, isFirst_nil]
  | cons first cs ih =>
      rw [shapeFault?, exists_isFirst_cons]
      simp only [← Condition.shapeFault?_eq_some_iff]
      cases first.shapeFault? with
      | some fault => simp [eq_comm]
      | none => simp [ih, Nat.add_assoc, Nat.add_comm 1]

/-- Compiling finds the first pattern that cannot be read, once the shapes are in order. -/
theorem compileConditions_eq_error_iff (start : Nat) (fit : ∀ c ∈ cs, c.shapeFault? = none) :
    compileConditions start cs = .error f ↔
      ∃ index c fault, IsFirst Condition.Unreadable cs index c fault ∧
        f = .pattern (start + index) c.field fault := by
  induction cs generalizing start with
  | nil => simp [compileConditions, isFirst_nil]
  | cons first cs ih =>
      obtain ⟨fits, fit⟩ := List.forall_mem_cons.1 fit
      have front := Condition.compileCondition_eq_error_iff fits start
      rw [compileConditions, exists_isFirst_cons]
      cases compiled : compileCondition start first with
      | error fault =>
          obtain ⟨cause, unreadable, rfl⟩ := (front fault).1 compiled
          have readable : ¬ ∀ fault, ¬ first.Unreadable fault := fun none => none cause unreadable
          simp only [readable, false_and, or_false, Nat.add_zero, ← front, compiled, Except.error.injEq]
      | ok t =>
          have readable : ∀ fault, ¬ first.Unreadable fault := fun fault unreadable => by
            have refused := (front _).2 ⟨fault, unreadable, rfl⟩
            rw [compiled] at refused
            cases refused
          have rest := ih (start + 1) fit
          simp only [Nat.add_assoc, Nat.add_comm 1] at rest
          simp only [readable, not_false_eq_true, implies_true, true_and, false_and, exists_false,
            false_or, ← rest]
          cases compileConditions (start + 1) cs <;> simp

/-! ## The rule -/

/-- The name of a rule may be given. -/
def IsNamed (r : Rule) : Prop := r.name ≠ "" ∧ r.name.utf8ByteSize ≤ maxNameLength

/-- The fault of a rule that counts most: one of the name before one in the shape of a condition, that
before a pattern that cannot be read, and of those of one kind the first. -/
inductive Foremost (r : Rule) : Fault → Prop where
  | emptyName (empty : r.name = "") : r.Foremost .emptyName
  | longName (long : maxNameLength < r.name.utf8ByteSize) : r.Foremost .longName
  | shape {index : Nat} {c : Condition} {fault : ShapeFault} (named : r.IsNamed)
      (first : IsFirst Condition.Misfit r.conditions index c fault) :
      r.Foremost (.shape index c.field fault)
  | pattern {index : Nat} {c : Condition} {fault : Regex.PatternError} (named : r.IsNamed)
      (fit : ∀ c ∈ r.conditions, ∀ fault, ¬ c.Misfit fault)
      (first : IsFirst Condition.Unreadable r.conditions index c fault) :
      r.Foremost (.pattern index c.field fault)

/-- The name is checked first. -/
theorem ofRule_of_not_named (unnamed : ¬ r.IsNamed) :
    Matcher.ofRule r = .error f ↔ r.Foremost f := by
  unfold Matcher.ofRule validate
  by_cases empty : r.name = ""
  · simp only [if_pos empty, Except.error.injEq]
    constructor
    · rintro rfl
      exact .emptyName empty
    · intro foremost
      cases foremost with
      | emptyName => rfl
      | longName long => simp [empty] at long
      | shape named | pattern named => exact absurd named unnamed
  · have long : maxNameLength < r.name.utf8ByteSize := by
      by_contra short
      exact unnamed ⟨empty, Nat.le_of_not_lt short⟩
    simp only [if_neg empty, if_pos long, Except.error.injEq]
    constructor
    · rintro rfl
      exact .longName long
    · intro foremost
      cases foremost with
      | emptyName empty' => exact absurd empty' empty
      | longName => rfl
      | shape named | pattern named => exact absurd named unnamed

/-- Where the name is in order, the shapes are checked, and then the patterns are read. -/
theorem ofRule_of_named (named : r.IsNamed) :
    Matcher.ofRule r = .error f ↔
      shapeFault? 0 r.conditions = some f ∨
        shapeFault? 0 r.conditions = none ∧ compileConditions 0 r.conditions = .error f := by
  unfold Matcher.ofRule validate
  simp only [if_neg named.1, if_neg (Nat.not_lt_of_le named.2)]
  cases shapeFault? 0 r.conditions with
  | some fault => simp
  | none => cases compileConditions 0 r.conditions <;> simp

/-- **The fault that is reported is the one that counts most.** -/
theorem ofRule_eq_error_iff : Matcher.ofRule r = .error f ↔ r.Foremost f := by
  by_cases named : r.IsNamed
  swap
  · exact ofRule_of_not_named named
  have fits : shapeFault? 0 r.conditions = none ↔ ∀ c ∈ r.conditions, ∀ fault, ¬ c.Misfit fault := by
    simp only [shapeFault?_eq_none_iff, Condition.shapeFault?_eq_none_iff]
  rw [ofRule_of_named named, shapeFault?_eq_some_iff]
  constructor
  · rintro (⟨index, c, fault, first, rfl⟩ | ⟨none, failed⟩)
    · rw [Nat.zero_add]
      exact .shape named first
    · obtain ⟨index, c, fault, first, rfl⟩ :=
        (compileConditions_eq_error_iff 0 ((shapeFault?_eq_none_iff 0).1 none)).1 failed
      rw [Nat.zero_add]
      exact .pattern named (fits.1 none) first
  · intro foremost
    cases foremost with
    | emptyName empty => exact absurd empty named.1
    | longName long => exact absurd named.2 (Nat.not_le_of_lt long)
    | @shape index c fault _ first => exact .inl ⟨index, c, fault, first, by rw [Nat.zero_add]⟩
    | @pattern index c fault _ fit first =>
        have none := fits.2 fit
        refine .inr ⟨none, ?_⟩
        exact (compileConditions_eq_error_iff 0 ((shapeFault?_eq_none_iff 0).1 none)).2
          ⟨index, c, fault, first, by rw [Nat.zero_add]⟩

/-- A rule has a fault exactly if something is wrong with its name or with one of its conditions. -/
theorem exists_foremost_iff :
    (∃ f, r.Foremost f) ↔
      r.name = "" ∨ maxNameLength < r.name.utf8ByteSize ∨
        (∃ c ∈ r.conditions, ∃ fault, c.Misfit fault) ∨
          ∃ c ∈ r.conditions, ∃ fault, c.Unreadable fault := by
  constructor
  · rintro ⟨f, foremost⟩
    cases foremost with
    | emptyName empty => exact .inl empty
    | longName long => exact .inr (.inl long)
    | shape _ first => exact .inr (.inr (.inl (exists_isFirst_iff.1 ⟨_, _, _, first⟩)))
    | pattern _ _ first => exact .inr (.inr (.inr (exists_isFirst_iff.1 ⟨_, _, _, first⟩)))
  · intro wrong
    by_cases empty : r.name = ""
    · exact ⟨_, .emptyName empty⟩
    by_cases long : maxNameLength < r.name.utf8ByteSize
    · exact ⟨_, .longName long⟩
    have named : r.IsNamed := ⟨empty, Nat.le_of_not_lt long⟩
    by_cases misfit : ∃ c ∈ r.conditions, ∃ fault, c.Misfit fault
    · obtain ⟨_, _, _, first⟩ := exists_isFirst_iff.2 misfit
      exact ⟨_, .shape named first⟩
    · have fit : ∀ c ∈ r.conditions, ∀ fault, ¬ c.Misfit fault := fun c member fault wrong =>
        misfit ⟨c, member, fault, wrong⟩
      have unreadable : ∃ c ∈ r.conditions, ∃ fault, c.Unreadable fault := by
        simpa [empty, long, misfit] using wrong
      obtain ⟨_, _, _, first⟩ := exists_isFirst_iff.2 unreadable
      exact ⟨_, .pattern named fit first⟩

/-- Conditions that compile have a test each, in their places. -/
theorem forall₂_isTestOf {start : Nat} {tests : List Test}
    (compiled : compileConditions start cs = .ok tests) :
    List.Forall₂ Condition.IsTestOf cs tests := by
  induction cs generalizing start tests with
  | nil =>
      cases compiled
      exact .nil
  | cons c cs ih =>
      rw [compileConditions] at compiled
      cases front : compileCondition start c with
      | error fault => simp [front] at compiled
      | ok t =>
          cases rest : compileConditions (start + 1) cs with
          | error fault => simp [front, rest] at compiled
          | ok ts =>
              obtain rfl : t :: ts = tests := by simpa [front, rest] using compiled
              exact .cons (Condition.isTestOf_of_compileCondition front) (ih rest)

/-- A rule that compiles joins every engine that has no rule of its name. -/
theorem apply_add_of_compiles {m : Matcher} (compiled : Compiles r m) {e : Engine}
    (new : r.name ∉ e.names) : (Change.add r).apply e = (.added, ⟨e.matchers ++ [m]⟩) := by
  have added : e.add r = .ok ⟨e.matchers ++ [m]⟩ := Engine.add_eq_ok_iff.2 ⟨new, m, compiled, rfl⟩
  rw [Change.apply_add, added]

/-- **A rule is refused for the fault that counts most.**  It is refused exactly if its name is empty or
too long, the value of a condition does not fit its operator, or a pattern cannot be read, and reported
are the faults of the name before the shapes, those before the patterns, and the first of each.  A
condition is never found unfit when it is compiled.  A rule that is accepted has a test for each
condition in its place, on the same field and with the same operator; so what is read from a text joins
every engine that has no rule of the name. -/
theorem refused_for_foremost_fault (r : Rule) :
    ((∃ f, Matcher.ofRule r = .error f) ↔
      r.name = "" ∨ maxNameLength < r.name.utf8ByteSize ∨
        (∃ c ∈ r.conditions, ∃ fault, c.Misfit fault) ∨
          ∃ c ∈ r.conditions, ∃ fault, c.Unreadable fault) ∧
    (∀ f, Matcher.ofRule r = .error f ↔ r.Foremost f) ∧
    (∀ index operator, Matcher.ofRule r ≠ .error (.unfit index operator)) ∧
    (∀ m, Matcher.ofRule r = .ok m → List.Forall₂ Condition.IsTestOf r.conditions m.tests) ∧
    ∀ text source, ofYaml text source = .ok r → ∃ m, Matcher.ofRule r = .ok m ∧
      ∀ e : Engine, r.name ∉ e.names →
        (Change.add r).apply e = (.added, ⟨e.matchers ++ [m]⟩) := by
  refine ⟨?_, fun f => ofRule_eq_error_iff, fun index operator unfit => ?_, fun m compiled => ?_, ?_⟩
  · simp only [ofRule_eq_error_iff, exists_foremost_iff]
  · cases ofRule_eq_error_iff.1 unfit
  · exact forall₂_isTestOf (compiles_iff.1 compiled).2.1
  · intro text source read
    obtain ⟨m, compiled⟩ := compiles_of_ofYaml read
    exact ⟨m, compiled, fun e new => apply_add_of_compiles compiled new⟩

/-- A rule with a pattern that cannot be read before two values that do not fit. -/
def faultyRule : Rule where
  name := "Faulty"
  conditions := [⟨.path, .regex, .one "("⟩, ⟨.method, .oneOf, .one "GET"⟩, ⟨.method, .equals, .many []⟩]

/-- The first value that does not fit is reported, though the pattern stands before it; and a rule that is
read from a text is added. -/
theorem faultyRule_refused :
    (∃ fault, (⟨.path, .regex, .one "("⟩ : Condition).Unreadable fault) ∧
      Matcher.ofRule faultyRule = .error (.shape 1 .method .listRequired) ∧
      ofYaml "name: Second\n" "b.yml" = .ok { name := "Second" } ∧
      ∃ m, (Change.add { name := "Second" }).apply .empty = (.added, ⟨[m]⟩) := by
  have unreadable : ∃ fault, Regex.compile? "(" = .error fault := by
    have refused : (Regex.compile? "(").isOk = false := by decide +kernel
    cases read : Regex.compile? "(" with
    | error fault => exact ⟨fault, rfl⟩
    | ok regex => simp [read, Except.isOk, Except.toBool] at refused
  have read : ofYaml "name: Second\n" "b.yml" = .ok { name := "Second" } := by decide +kernel
  obtain ⟨-, foremost, -⟩ := refused_for_foremost_fault faultyRule
  obtain ⟨-, -, -, -, joins⟩ := refused_for_foremost_fault { name := "Second" }
  obtain ⟨fault, unreadable⟩ := unreadable
  refine ⟨⟨fault, rfl, "(", rfl, unreadable⟩, (foremost _).2 ?_, read, ?_⟩
  · refine .shape (c := ⟨.method, .oneOf, .one "GET"⟩) ⟨by decide, by decide⟩
      ⟨rfl, .single rfl rfl, fun other member => ?_⟩
    obtain rfl : other = ⟨.path, .regex, .one "("⟩ := by simpa [faultyRule] using member
    exact Condition.shapeFault?_eq_none_iff.1 (by decide)
  · obtain ⟨m, -, added⟩ := joins _ _ read
    exact ⟨m, added .empty (by decide)⟩

end ThreatMarker.Rule
