import ThreatMarker.Line.Processor
import ThreatMarker.Proofs.Regex.Spans
import ThreatMarker.Proofs.Rule.Compiled
import ThreatMarker.Proofs.Rule.Exclusions
/-
# What declared rules mean

`Condition.Holds` and `Matches` say what a declaration means for a record, from the texts of the
declaration alone: nothing in them is sorted, read as a network beforehand or searched by sets of
places.  Compiling keeps the meaning of every condition (`holds_iff_of_compileCondition`) and of every
rule (`isMatch_iff_matches`), so an engine finds the declared rules that match, in their order.
-/

namespace ThreatMarker.Rule

set_option autoImplicit false

/-! ## Declarations -/

/-- A condition holds of a record. -/
def Condition.Holds (c : Condition) (r : Record) : Prop :=
  match c.operator, c.operand with
  | .equals, .one value => c.field.value r = value
  | .contains, .one needle => ∃ before after, c.field.value r = before ++ needle ++ after
  | .regex, .one pattern => Regex.Finds pattern (c.field.value r)
  | .oneOf, .many values => c.field.value r ∈ values
  | _, _ => False

/-- A rule matches a record: it takes part, its conditions hold, and it does not leave the client
out. -/
def Matches (rule : Rule) (r : Record) : Prop :=
  rule.status = .enabled ∧ (∀ c ∈ rule.conditions, c.Holds r) ∧
    isExcluded r.clientIp rule.excludeNetworks = false

theorem occursIn_toList_iff {needle text : String} :
    Text.occursIn needle.toList text.toList = true ↔ ∃ before after, text = before ++ needle ++ after := by
  rw [Text.occursIn_iff]
  constructor
  · rintro ⟨a, b, joined⟩
    refine ⟨String.ofList a, String.ofList b, ?_⟩
    rw [← String.toList_inj, joined]
    simp
  · rintro ⟨before, after, rfl⟩
    exact ⟨before.toList, after.toList, by simp⟩

instance (c : Condition) (r : Record) : Decidable (c.Holds r) :=
  match c with
  | ⟨field, .equals, .one value⟩ => inferInstanceAs (Decidable (field.value r = value))
  | ⟨_, .contains, .one _⟩ => decidable_of_iff _ occursIn_toList_iff
  | ⟨field, .regex, .one pattern⟩ => inferInstanceAs (Decidable (Regex.Finds pattern (field.value r)))
  | ⟨field, .oneOf, .many values⟩ => inferInstanceAs (Decidable (field.value r ∈ values))
  | ⟨_, .equals, .many _⟩ | ⟨_, .contains, .many _⟩ | ⟨_, .regex, .many _⟩ | ⟨_, .oneOf, .one _⟩ =>
      isFalse id

instance (rule : Rule) (r : Record) : Decidable (rule.Matches r) :=
  inferInstanceAs (Decidable (_ ∧ _ ∧ _))

/-- The rules of a declaration that match a record, in order. -/
def matching (rules : List Rule) (r : Record) : List Match :=
  (rules.filter (fun rule => rule.Matches r)).map (fun rule => ⟨rule.name, rule.priority⟩)

/-! ## Compiling -/

/-- A compiled condition holds exactly where the condition holds. -/
theorem holds_iff_of_compileCondition {index : Nat} {c : Condition} {t : Test}
    (compiled : compileCondition index c = .ok t) (r : Record) : t.holds r = true ↔ c.Holds r := by
  obtain ⟨field, operator, operand⟩ := c
  cases operator <;> cases operand <;> simp only [compileCondition, reduceCtorEq] at compiled
  case equals.one value =>
    cases compiled
    simp [Test.holds, Condition.Holds]
  case contains.one needle =>
    cases compiled
    exact occursIn_toList_iff
  case regex.one pattern =>
    split at compiled
    · rename_i found
      cases compiled
      exact Regex.isMatch_iff_finds found _
    · cases compiled
  case oneOf.many values =>
    cases compiled
    simp [Test.holds, Condition.Holds]

/-- The compiled conditions of a rule all hold exactly where its conditions all hold. -/
theorem all_holds_iff {index : Nat} {cs : List Condition} {ts : List Test}
    (compiled : compileConditions index cs = .ok ts) (r : Record) :
    ts.all (fun t => t.holds r) = true ↔ ∀ c ∈ cs, c.Holds r := by
  induction cs generalizing index ts with
  | nil =>
      cases compiled
      simp
  | cons c cs ih =>
      rw [compileConditions] at compiled
      split at compiled
      · cases compiled
      · rename_i t first
        split at compiled
        · cases compiled
        · rename_i ts rest
          cases compiled
          rw [List.all_cons, Bool.and_eq_true, holds_iff_of_compileCondition first r, ih rest,
            List.forall_mem_cons]

/-- **A compiled rule matches exactly the records that the rule matches.** -/
theorem isMatch_iff_matches {rule : Rule} {m : Matcher} (compiled : Compiles rule m) (r : Record) :
    m.isMatch r = true ↔ rule.Matches r := by
  obtain ⟨-, tests, -, -, enabled, exclusions⟩ := compiles_iff.1 compiled
  rw [Matcher.isMatch, Matcher.conditionsHold, Bool.and_eq_true, Bool.and_eq_true,
    all_holds_iff tests, enabled, exclusions, contains_ofTexts, Bool.not_eq_true', beq_iff_eq]
  exact ⟨fun ⟨⟨on, free⟩, hold⟩ => ⟨on, hold, free⟩, fun ⟨on, hold, free⟩ => ⟨⟨on, free⟩, hold⟩⟩

/-- The rules that an engine finds are the declared rules that match. -/
theorem matched_eq_matching {rules : List Rule} {ms : List Matcher}
    (all : List.Forall₂ Compiles rules ms) (r : Record) :
    (ms.filter (fun m => m.isMatch r)).map (fun m => (⟨m.name, m.priority⟩ : Match)) =
      matching rules r := by
  unfold matching
  induction all with
  | nil => rfl
  | @cons rule m rules ms compiled _ ih =>
      obtain ⟨-, -, name, priority, -, -⟩ := compiles_iff.1 compiled
      have same := isMatch_iff_matches compiled r
      rw [List.filter_cons, List.filter_cons]
      by_cases matched : rule.Matches r
      · rw [if_pos (same.2 matched), if_pos (decide_eq_true matched), List.map_cons, List.map_cons, ih,
          name, priority]
      · rw [if_neg (fun holds => matched (same.1 holds)), if_neg (by simpa using matched), ih]

/-! ## Evaluating -/

/-- The top priority is the least number among the priorities. -/
theorem Evaluation.topPriority_eq_some_iff (e : Evaluation) (n : Nat) :
    e.topPriority = some n ↔
      (∃ m ∈ e.matched, m.priority = n) ∧ ∀ m ∈ e.matched, n ≤ m.priority := by
  rw [topPriority, List.min?_eq_some_iff]
  simp

/-- Rules with every kind of condition, a rule without conditions, and one that is switched off. -/
def sampleRules : List Rule :=
  [{ name := "Probe", priority := 2
     conditions := [
      ⟨.method, .equals, .one "HEAD"⟩,
      ⟨.path, .contains, .one "backup"⟩,
      ⟨.statusCode, .oneOf, .many ["404", "403"]⟩,
      ⟨.userAgent, .regex, .one "cu.l"⟩]
     excludeNetworks := ["10.0.0.0/8"] },
    { name := "Off", status := .disabled },
    { name := "All", priority := 1 }]

def sampleProbe : Record :=
  { clientIp := "8.8.8.8", method := "HEAD", path := "/backup.php", referer := "-",
    userAgent := "CURL/8.0", statusCode := "404" }

end ThreatMarker.Rule
