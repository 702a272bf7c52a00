import ThreatMarker.Proofs.Rule.Acceptance
import ThreatMarker.Proofs.Rule.Meaning
/-
# Order and repetition in rules

Rules that are `Rearranged` say the same in another order and with repetitions: the conditions of a
rule, the networks that it leaves out, and the values of a list.  They are accepted alike
(`Rearranged.exists_compiles_iff`) and match the same records (`Rearranged.matches_iff`).  Where the
rules of a list change their places as well, the rules that match a record change theirs with them
(`AllRearranged.matching_perm`).
-/

namespace ThreatMarker.Rule

set_option autoImplicit false

/-! ## Rearranged declarations -/

/-- Every member of a list has its like in the other.  So the second list can be had from the first by
giving each member once or more, in any order. -/
def Alike {α : Type} (R : α → α → Prop) (xs ys : List α) : Prop :=
  (∀ x ∈ xs, ∃ y ∈ ys, R x y) ∧ ∀ y ∈ ys, ∃ x ∈ xs, R x y

instance {α : Type} (R : α → α → Prop) [DecidableRel R] (xs ys : List α) : Decidable (Alike R xs ys) :=
  inferInstanceAs (Decidable (_ ∧ _))

/-- What holds of the members of one list holds of those of the other. -/
theorem Alike.forall_iff {α : Type} {R : α → α → Prop} {xs ys : List α} {P : α → Prop}
    (alike : Alike R xs ys) (same : ∀ x y, R x y → (P x ↔ P y)) :
    (∀ x ∈ xs, P x) ↔ ∀ y ∈ ys, P y := by
  constructor
  · intro all y member
    obtain ⟨x, listed, related⟩ := alike.2 y member
    exact (same x y related).1 (all x listed)
  · intro all x member
    obtain ⟨y, listed, related⟩ := alike.1 x member
    exact (same x y related).2 (all y listed)

theorem Alike.mem_iff {α : Type} {xs ys : List α} (alike : Alike Eq xs ys) (x : α) :
    x ∈ xs ↔ x ∈ ys := by
  constructor
  · intro member
    obtain ⟨y, listed, rfl⟩ := alike.1 x member
    exact listed
  · intro member
    obtain ⟨y, listed, rfl⟩ := alike.2 x member
    exact listed

/-- The values of a list stand in another order, some of them more than once. -/
inductive Operand.Rearranged : Operand → Operand → Prop where
  | one (value : String) : Rearranged (.one value) (.one value)
  | many {values values' : List String} (alike : Alike Eq values values') :
      Rearranged (.many values) (.many values')

structure Condition.Rearranged (c c' : Condition) : Prop where
  field : c.field = c'.field
  operator : c.operator = c'.operator
  operand : c.operand.Rearranged c'.operand

instance : DecidableRel Operand.Rearranged
  | .one value, .one value' =>
      decidable_of_iff (value = value') ⟨fun same => same ▸ .one value, fun | .one _ => rfl⟩
  | .many values, .many values' =>
      decidable_of_iff (Alike Eq values values') ⟨.many, fun | .many alike => alike⟩
  | .one _, .many _ | .many _, .one _ => isFalse fun same => by cases same

instance : DecidableRel Condition.Rearranged := fun c c' =>
  decidable_of_iff (c.field = c'.field ∧ c.operator = c'.operator ∧ c.operand.Rearranged c'.operand)
    ⟨fun ⟨field, operator, operand⟩ => ⟨field, operator, operand⟩,
      fun ⟨field, operator, operand⟩ => ⟨field, operator, operand⟩⟩

/-- The conditions and the networks of a rule stand in another order, some of them more than once. -/
structure Rearranged (rule rule' : Rule) : Prop where
  name : rule.name = rule'.name
  priority : rule.priority = rule'.priority
  status : rule.status = rule'.status
  conditions : Alike Condition.Rearranged rule.conditions rule'.conditions
  networks : Alike Eq rule.excludeNetworks rule'.excludeNetworks

/-- Rules that are rearranged stand in another order. -/
def AllRearranged (rules rules' : List Rule) : Prop :=
  ∃ ordered, rules.Perm ordered ∧ List.Forall₂ Rearranged ordered rules'

/-! ## One rule -/

namespace Condition.Rearranged

variable {c c' : Condition}

theorem compilable_iff (same : c.Rearranged c') : c.Compilable ↔ c'.Compilable := by
  obtain ⟨field, operator, operand⟩ := c
  obtain ⟨field', operator', operand'⟩ := c'
  obtain ⟨rfl, rfl, operands⟩ := same
  cases operands with
  | one value => rfl
  | many alike => cases operator <;> rfl

theorem holds_iff (same : c.Rearranged c') (r : Record) : c.Holds r ↔ c'.Holds r := by
  obtain ⟨field, operator, operand⟩ := c
  obtain ⟨field', operator', operand'⟩ := c'
  obtain ⟨rfl, rfl, operands⟩ := same
  cases operands with
  | one value => rfl
  | many alike =>
      cases operator
      case oneOf => exact alike.mem_iff _
      all_goals rfl

end Condition.Rearranged

namespace Rearranged

variable {rule rule' : Rule}

/-- Rearranged rules are accepted alike. -/
theorem exists_compiles_iff (same : Rearranged rule rule') :
    (∃ m, Compiles rule m) ↔ ∃ m, Compiles rule' m := by
  rw [Rule.exists_compiles_iff, Rule.exists_compiles_iff, same.name,
    same.conditions.forall_iff fun _ _ related => related.compilable_iff]

theorem isExcluded_eq (same : Rearranged rule rule') (ip : String) :
    isExcluded ip rule.excludeNetworks = isExcluded ip rule'.excludeNetworks := by
  rw [Bool.eq_iff_iff, isExcluded_iff, isExcluded_iff]
  simp only [same.networks.mem_iff]

/-- Rearranged rules match the same records. -/
theorem matches_iff (same : Rearranged rule rule') (r : Record) :
    rule.Matches r ↔ rule'.Matches r := by
  unfold Matches
  rw [same.status, same.isExcluded_eq,
    same.conditions.forall_iff fun _ _ related => related.holds_iff r]

end Rearranged

/-! ## All rules -/

section InPlace

variable {rules rules' : List Rule}

/-- Rules that are rearranged in their places all compile, or not. -/
theorem forall_compiles_iff (related : List.Forall₂ Rearranged rules rules') :
    (∀ rule ∈ rules, ∃ m, Compiles rule m) ↔ ∀ rule ∈ rules', ∃ m, Compiles rule m := by
  induction related with
  | nil => rfl
  | cons first _ ih => rw [List.forall_mem_cons, List.forall_mem_cons, first.exists_compiles_iff, ih]

theorem map_name_eq (related : List.Forall₂ Rearranged rules rules') :
    rules.map Rule.name = rules'.map Rule.name := by
  induction related with
  | nil => rfl
  | cons first _ ih => rw [List.map_cons, List.map_cons, first.name, ih]

/-- Rules that are rearranged in their places match in the same order. -/
theorem matching_eq (related : List.Forall₂ Rearranged rules rules') (r : Record) :
    matching rules r = matching rules' r := by
  unfold matching
  induction related with
  | nil => rfl
  | @cons rule rule' _ _ first _ ih =>
      have same : decide (rule.Matches r) = decide (rule'.Matches r) :=
        decide_eq_decide.2 (first.matches_iff r)
      rw [List.filter_cons, List.filter_cons, same]
      split
      · rw [List.map_cons, List.map_cons, ih, first.name, first.priority]
      · exact ih

end InPlace

namespace AllRearranged

variable {rules rules' : List Rule}

/-- Rearranged rules are accepted together or not at all. -/
theorem exists_ofRules_iff (same : AllRearranged rules rules') :
    (∃ e, Engine.ofRules rules = .ok e) ↔ ∃ e, Engine.ofRules rules' = .ok e := by
  obtain ⟨ordered, perm, related⟩ := same
  rw [Rule.exists_ofRules_iff, Rule.exists_ofRules_iff, ← forall_compiles_iff related,
    ← map_name_eq related, (perm.map Rule.name).nodup_iff]
  simp only [perm.mem_iff]

/-- The rules that match a record are the same, in another order. -/
theorem matching_perm (same : AllRearranged rules rules') (r : Record) :
    (matching rules r).Perm (matching rules' r) := by
  obtain ⟨ordered, perm, related⟩ := same
  rw [← matching_eq related]
  exact (perm.filter _).map _

end AllRearranged

/-- Evaluations that found the same rules agree. -/
theorem Evaluation.topPriority_eq_of_perm {e e' : Evaluation} (perm : e.matched.Perm e'.matched) :
    e.topPriority = e'.topPriority := by
  refine Option.ext fun n => ?_
  rw [topPriority_eq_some_iff, topPriority_eq_some_iff]
  simp only [perm.mem_iff]

theorem Evaluation.isFlagged_eq_of_perm {e e' : Evaluation} (perm : e.matched.Perm e'.matched) :
    e.isFlagged = e'.isFlagged := by
  unfold isFlagged
  rw [perm.isEmpty_eq]

/-- **Neither order nor repetition in rules matters**: rules that are rearranged are accepted or refused
alike, and the engines that are made of them flag the same records, for the same rules and with the same
top priority. -/
theorem arrangement_does_not_matter {rules rules' : List Rule} (same : AllRearranged rules rules') :
    ((∃ e, Engine.ofRules rules = .ok e) ↔ ∃ e', Engine.ofRules rules' = .ok e') ∧
      ∀ e e', Engine.ofRules rules = .ok e → Engine.ofRules rules' = .ok e' → ∀ r,
        e.isFlagged r = e'.isFlagged r ∧
          (e.evaluate r).topPriority = (e'.evaluate r).topPriority ∧
          (e.evaluate r).matched.Perm (e'.evaluate r).matched := by
  refine ⟨same.exists_ofRules_iff, fun e e' made made' r => ?_⟩
  have found : (e.evaluate r).matched = matching rules r :=
    matched_eq_matching (Engine.ofRules_eq_ok_iff.1 made).1 r
  have found' : (e'.evaluate r).matched = matching rules' r :=
    matched_eq_matching (Engine.ofRules_eq_ok_iff.1 made').1 r
  have perm : (e.evaluate r).matched.Perm (e'.evaluate r).matched := by
    rw [found, found']
    exact same.matching_perm r
  rw [Engine.isFlagged_eq, Engine.isFlagged_eq]
  exact ⟨Evaluation.isFlagged_eq_of_perm perm, Evaluation.topPriority_eq_of_perm perm, perm⟩

/-- The sample rules with other places, and with repetitions in every list. -/
def rearrangedRules : List Rule :=
  [{ name := "All", priority := 1 },
    { name := "Probe", priority := 2
      conditions := [
        ⟨.userAgent, .regex, .one "cu.l"⟩,
        ⟨.statusCode, .oneOf, .many ["403", "404", "403"]⟩,
        ⟨.method, .equals, .one "HEAD"⟩,
        ⟨.path, .contains, .one "backup"⟩,
        ⟨.statusCode, .oneOf, .many ["404", "403"]⟩]
      excludeNetworks := ["10.0.0.0/8", "10.0.0.0/8"] },
    { name := "Off", status := .disabled }]

theorem allRearranged_sampleRules : AllRearranged sampleRules rearrangedRules := by
  have probe : Rearranged sampleRules[0] rearrangedRules[1] := ⟨rfl, rfl, rfl, by decide, by decide⟩
  have all : Rearranged sampleRules[2] rearrangedRules[0] := ⟨rfl, rfl, rfl, by decide, by decide⟩
  have off : Rearranged sampleRules[1] rearrangedRules[2] := ⟨rfl, rfl, rfl, by decide, by decide⟩
  exact ⟨[sampleRules[2], sampleRules[0], sampleRules[1]], by decide,
    .cons all (.cons probe (.cons off .nil))⟩

theorem arrangement_of_sampleRules :
    AllRearranged sampleRules rearrangedRules ∧
      ∃ e e', Engine.ofRules sampleRules = .ok e ∧ Engine.ofRules rearrangedRules = .ok e' ∧
        e.isFlagged sampleProbe = e'.isFlagged sampleProbe ∧
        (e.evaluate sampleProbe).topPriority = (e'.evaluate sampleProbe).topPriority ∧
        (e.evaluate sampleProbe).matched.Perm (e'.evaluate sampleProbe).matched := by
  obtain ⟨accepted, agree⟩ := arrangement_does_not_matter allRearranged_sampleRules
  have made : ∃ e, Engine.ofRules sampleRules = .ok e := by
    have ok : (Engine.ofRules sampleRules).isOk = true := by decide +kernel
    cases made : Engine.ofRules sampleRules with
    | error refusal =>
        rw [made] at ok
        cases ok
    | ok e => exact ⟨e, rfl⟩
  obtain ⟨e', made'⟩ := accepted.1 made
  obtain ⟨e, made⟩ := made
  exact ⟨allRearranged_sampleRules, e, e', made, made', agree e e' made made' sampleProbe⟩

end ThreatMarker.Rule
