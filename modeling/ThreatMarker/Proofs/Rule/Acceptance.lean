import ThreatMarker.Proofs.Rule.Compiled
/-
# Which rules are accepted

Checking and compiling go through the conditions of a rule in order and stop at the first fault, but
whether there is one depends on the conditions alone: a rule compiles exactly if its name may be given
and each of its conditions can be compiled (`exists_compiles_iff`), and rules make an engine exactly if
each compiles and no two have the same name (`exists_ofRules_iff`).
-/

namespace ThreatMarker.Rule

set_option autoImplicit false

/-- The value of a condition fits its operator, and a pattern can be read. -/
def Condition.Compilable (c : Condition) : Prop :=
  match c.operator, c.operand with
  | .equals, .one _ => True
  | .contains, .one _ => True
  | .regex, .one pattern => pattern ≠ "" ∧ ∃ r, Regex.compile? pattern = .ok r
  | .oneOf, .many _ => True
  | _, _ => False

/-- The two passes over a condition accept it wherever it stands. -/
theorem compilable_iff {c : Condition} (index : Nat) :
    c.Compilable ↔ c.shapeFault? = none ∧ ∃ t, compileCondition index c = .ok t := by
  obtain ⟨field, operator, operand⟩ := c
  cases operator <;> cases operand <;>
    simp only [Condition.Compilable, Condition.shapeFault?, compileCondition, reduceCtorEq, false_and,
      Except.ok.injEq, exists_eq', and_self]
  case regex.one pattern =>
    cases read : Regex.compile? pattern <;> by_cases empty : pattern = "" <;> simp [empty]

theorem shapeFault?_eq_none_iff (index : Nat) {cs : List Condition} :
    shapeFault? index cs = none ↔ ∀ c ∈ cs, c.shapeFault? = none := by
  induction cs generalizing index with
  | nil => simp [shapeFault?]
  | cons c cs ih =>
      rw [shapeFault?, List.forall_mem_cons]
      cases c.shapeFault? with
      | some fault => simp
      | none => simp [ih (index + 1)]

/-- Both passes over the conditions of a rule go through exactly if each condition can be compiled. -/
theorem exists_compileConditions_iff (index : Nat) {cs : List Condition} :
    ((∀ c ∈ cs, c.shapeFault? = none) ∧ ∃ ts, compileConditions index cs = .ok ts) ↔
      ∀ c ∈ cs, c.Compilable := by
  induction cs generalizing index with
  | nil => simp [compileConditions]
  | cons c cs ih =>
      rw [List.forall_mem_cons, List.forall_mem_cons, compilable_iff index, ← ih (index + 1),
        compileConditions]
      cases compileCondition index c with
      | error fault => simp
      | ok t =>
          cases compileConditions (index + 1) cs with
          | error fault => simp
          | ok ts => simp

theorem validate_eq_ok_iff {r : Rule} :
    validate r = .ok () ↔ (r.name ≠ "" ∧ r.name.utf8ByteSize ≤ maxNameLength) ∧
      ∀ c ∈ r.conditions, c.shapeFault? = none := by
  rw [← shapeFault?_eq_none_iff 0, validate]
  by_cases empty : r.name = ""
  · simp [empty]
  · by_cases long : maxNameLength < r.name.utf8ByteSize
    · simp [empty, long, Nat.not_le_of_lt long]
    · cases shapeFault? 0 r.conditions <;> simp [empty, long, Nat.le_of_not_lt long]

/-- **A rule compiles exactly if its name may be given and each condition can be compiled.** -/
theorem exists_compiles_iff {r : Rule} :
    (∃ m, Compiles r m) ↔ (r.name ≠ "" ∧ r.name.utf8ByteSize ≤ maxNameLength) ∧
      ∀ c ∈ r.conditions, c.Compilable := by
  rw [← exists_compileConditions_iff 0, ← and_assoc, ← validate_eq_ok_iff]
  constructor
  · rintro ⟨m, compiled⟩
    obtain ⟨valid, tests, -⟩ := compiles_iff.1 compiled
    exact ⟨valid, m.tests, tests⟩
  · rintro ⟨valid, tests, compiled⟩
    exact ⟨⟨r.name, r.priority, r.status == .enabled, tests, .ofTexts r.excludeNetworks⟩,
      compiles_iff.2 ⟨valid, compiled, rfl, rfl, rfl, rfl⟩⟩

/-- **Rules make an engine exactly if each compiles and their names are different.** -/
theorem exists_ofRules_iff {rules : List Rule} :
    (∃ e, Engine.ofRules rules = .ok e) ↔
      (∀ r ∈ rules, ∃ m, Compiles r m) ∧ (rules.map Rule.name).Nodup := by
  constructor
  · rintro ⟨e, made⟩
    obtain ⟨all, different⟩ := Engine.ofRules_eq_ok_iff.1 made
    refine ⟨fun r member => ?_, different⟩
    obtain ⟨m, -, compiled⟩ := exists_compiled all member
    exact ⟨m, compiled⟩
  · rintro ⟨all, different⟩
    exact Engine.exists_ofRules all different

end ThreatMarker.Rule
