import ThreatMarker.Json.Decoding
import ThreatMarker.Proofs.Decode.Members
import ThreatMarker.Proofs.Json.Order
import ThreatMarker.Rule.Decoding
import ThreatMarker.Rule.Encoding
/-
# What was written of a rule is read as the rule

Reading a rule takes more than writing it gives.  A description that is empty is not written; a field has
names that are never written; and the value of a condition is written as a string or as a list of strings,
but read as data of any shape, numbers and truth values included, before the texts are taken from it.

Still every rule is read back as itself (`decode_toJson`).  A reading that goes through the members of what
was written is at every moment at the rule as far as it was seen (`Condition.given`, `given`): each member
takes it one step further (`Condition.advances`, `advances`), in whatever order they come.
-/

namespace ThreatMarker.Rule

set_option autoImplicit false

open Decode (Format Shape)
open Json (Value)

/-! ## Choices -/

theorem oneOf_string {β : Type} {known : List (String × β)} {name : String} {x : β}
    (first : known.find? (fun k => k.1 == name) = some (name, x)) :
    Json.format.oneOf known (.string name) = .ok x := by
  simp only [Format.oneOf, Json.format, Value.readChoice, first]

/-- A field is written under a name that is read as this field and no other. -/
theorem Field.find?_names (f : Field) : names.find? (fun k => k.1 == f.text) = some (f.text, f) := by
  cases f <;> rfl

theorem Operator.find?_names (o : Operator) :
    names.find? (fun k => k.1 == o.text) = some (o.text, o) := by
  cases o <;> rfl

theorem Status.find?_names (s : Status) : names.find? (fun k => k.1 == s.text) = some (s.text, s) := by
  cases s <;> rfl

/-! ## Texts and operands -/

/-- Texts are read from what was written of them. -/
theorem list_texts {texts : List String} {v : Value} (same : (textList texts).SameAs v) :
    Json.format.list (fun v => Format.here (Json.format.string v)) v = .ok texts := by
  obtain rfl := Value.SameAs.eq_of_strings same
  have found : Json.format.items (.array (texts.map .string)) = .ok (texts.map .string, true) := rfl
  refine Format.list_of_forall₂ found ?_
  rw [List.forall₂_map_left_iff, List.forall₂_same]
  intro text _
  rfl

theorem Operand.eq_of_sameAs {o : Operand} {v : Value} (same : o.toJson.SameAs v) : v = o.toJson := by
  cases o with
  | one text =>
      cases same
      rfl
  | many texts => exact Value.SameAs.eq_of_strings same

theorem scalarTexts?_texts (texts : List String) :
    scalarTexts? (Value.contents (texts.map .string)) = some texts := by
  induction texts with
  | nil => rfl
  | cons s texts ih =>
      simp only [List.map_cons, Value.contents, Value.content, scalarTexts?, scalarText?, ih]

/-- **A value and a list stay what they are**, and texts stay as they are written. -/
theorem Operand.ofContent?_toJson (o : Operand) : ofContent? o.toJson.content = some o := by
  cases o with
  | one text => rfl
  | many texts =>
      show (scalarTexts? (Value.contents (texts.map .string))).map many = some (many texts)
      rw [scalarTexts?_texts]
      rfl

/-- A number is read as its text, but the text is not written as a number, nor a list of one as a text. -/
example :
    Operand.ofContent? (Value.int 404).content = some (.one "404") ∧
      Operand.ofContent? (Operand.one "404").toJson.content = some (.one "404") ∧
      Operand.ofContent? (Operand.many ["404"]).toJson.content = some (.many ["404"]) := by
  decide

/-! ## Conditions -/

namespace Condition

variable {c : Condition}

/-- What is known of a condition once the members with some names were read. -/
def given (c : Condition) (seen : List String) : PartialCondition where
  field := if "field" ∈ seen then c.field else .clientIp
  operator := if "operator" ∈ seen then c.operator else .equals
  content := if "value" ∈ seen then c.operand.toJson.content else .other

theorem given_nil : c.given [] = {} := rfl

/-- Each member that is written of a condition takes the reading one step further. -/
theorem advances {members : List (String × Value)} (written : c.toJson = .object members)
    {m m' : String × Value} (listed : m ∈ members) (same : Value.SameMember m m') :
    (conditionShape Json.format).Advances c.given m' := by
  obtain rfl := Value.object.inj written
  obtain ⟨same⟩ := same
  simp only [List.mem_cons, List.not_mem_nil, or_false] at listed
  rcases listed with field | operator | value
  · cases field
    cases same
    have read := oneOf_string c.field.find?_names
    exact ⟨by simp [conditionShape], fun seen => by simp [conditionShape, read, Except.map, given],
      fun _ => rfl⟩
  · cases operator
    cases same
    have read := oneOf_string c.operator.find?_names
    exact ⟨by simp [conditionShape], fun seen => by simp [conditionShape, read, Except.map, given],
      fun _ => rfl⟩
  · cases value
    obtain rfl := Operand.eq_of_sameAs same
    have read : Json.format.content operandDepth c.operand.toJson = .ok c.operand.toJson.content := rfl
    refine ⟨by simp [conditionShape], fun seen => by simp [conditionShape, read, Except.map, given],
      fun seen => ?_⟩
    -- what was read is the data of an operand, so it is one of the variants
    simp [conditionShape, given, Operand.ofContent?_toJson]

/-- A condition is read from what was written of it. -/
theorem decode_of_sameAs {v : Value} (same : c.toJson.SameAs v) :
    decode Json.format v = .ok c := by
  obtain ⟨members, rfl, names, each⟩ := Value.SameAs.exists_members same
  replace names : ["field", "operator", "value"].Perm (members.map Prod.fst) := names
  have read : (conditionShape Json.format).read Json.format (c.given []) (.object members) =
      .ok (c.given (members.map Prod.fst).reverse) := by
    refine Shape.read_of_advances rfl (fun m' listed => ?_) (names.nodup_iff.1 (by decide))
      fun name needed => names.mem_iff.1 needed
    obtain ⟨m, member, same⟩ := each m' listed
    exact advances rfl member same
  have whole {name : String} (written : name ∈ ["field", "operator", "value"]) :
      name ∈ (members.map Prod.fst).reverse := List.mem_reverse.2 (names.mem_iff.1 written)
  rw [given_nil] at read
  simp only [decode, read, given, whole, List.mem_cons, true_or, or_true, if_true,
    Operand.ofContent?_toJson, Option.getD_some]

end Condition

/-- Conditions are read from what was written of them. -/
theorem list_conditions {conditions : List Condition} {v : Value}
    (same : (Value.array (conditions.map Condition.toJson)).SameAs v) :
    Json.format.list (Condition.decode Json.format) v = .ok conditions := by
  obtain ⟨items, rfl, each⟩ := same.exists_items
  rw [List.forall₂_map_left_iff] at each
  exact Format.list_of_forall₂ rfl (each.imp fun _ _ same => Condition.decode_of_sameAs same).flip

/-! ## Rules -/

variable {r : Rule}

/-- What is known of a rule once the members with some names were read. -/
def given (r : Rule) (seen : List String) : Rule where
  name := if "name" ∈ seen then r.name else ""
  description := if "description" ∈ seen then r.description else ""
  priority := if "priority" ∈ seen then r.priority else 0
  status := if "status" ∈ seen then r.status else .enabled
  conditions := if "conditions" ∈ seen then r.conditions else []
  excludeNetworks := if "exclude_networks" ∈ seen then r.excludeNetworks else []

theorem given_nil : r.given [] = { name := "" } := rfl

/-- The names that are always written. -/
def alwaysWritten : List String := ["name", "priority", "status", "conditions", "exclude_networks"]

/-- All is known of a rule once the members were read that are written of it. -/
theorem given_eq_self {seen : List String} (always : ∀ name ∈ alwaysWritten, name ∈ seen)
    (described : r.description ≠ "" → "description" ∈ seen) : r.given seen = r := by
  have description : (if "description" ∈ seen then r.description else "") = r.description := by
    by_cases empty : r.description = ""
    · rw [empty, ite_self]
    · rw [if_pos (described empty)]
  simp only [alwaysWritten, List.forall_mem_cons] at always
  obtain ⟨name, priority, status, conditions, networks, -⟩ := always
  simp only [given, description, if_pos name, if_pos priority, if_pos status, if_pos conditions,
    if_pos networks]

/-- Every member is written once: those that are always written, and a description that is not empty. -/
theorem names_of_written {members : List (String × Value)} (written : r.toJson = .object members) :
    (members.map Prod.fst).Nodup ∧ (∀ name ∈ alwaysWritten, name ∈ members.map Prod.fst) ∧
      (r.description ≠ "" → "description" ∈ members.map Prod.fst) := by
  obtain rfl := Value.object.inj written
  by_cases empty : r.description = "" <;> simp [empty, alwaysWritten]

/-- Each member that is written of a rule takes the reading one step further. -/
theorem advances (bounded : r.priority ≤ Decimal.maxNat32) {members : List (String × Value)}
    (written : r.toJson = .object members) {m m' : String × Value} (listed : m ∈ members)
    (same : Value.SameMember m m') : (shape Json.format).Advances r.given m' := by
  obtain rfl := Value.object.inj written
  obtain ⟨same⟩ := same
  simp only [List.mem_append, List.mem_ite_nil_left, List.mem_cons, List.not_mem_nil, or_false] at listed
  rcases listed with (name | ⟨-, description⟩) | priority | status | conditions | networks
  · cases name
    cases same
    have read : Json.format.string (.string r.name) = .ok r.name := rfl
    refine ⟨by simp [shape], fun seen => ?_, fun _ => rfl⟩
    simp [shape, read, Format.here, Except.map, given]
  · cases description
    cases same
    have read : Json.format.string (.string r.description) = .ok r.description := rfl
    refine ⟨by simp [shape], fun seen => ?_, fun _ => rfl⟩
    simp [shape, read, Format.here, Except.map, given]
  · cases priority
    cases same
    -- the only member that can be too large to be read
    have read : Json.format.natural "u32" Decimal.maxNat32 (.int r.priority) = .ok r.priority := by
      simp [Json.format, Value.readNatural, bounded]
    refine ⟨by simp [shape], fun seen => ?_, fun _ => rfl⟩
    simp [shape, read, Format.here, Except.map, given]
  · cases status
    cases same
    have read := oneOf_string r.status.find?_names
    refine ⟨by simp [shape], fun seen => ?_, fun _ => rfl⟩
    simp [shape, read, Except.map, given]
  · cases conditions
    have read := list_conditions same
    refine ⟨by simp [shape], fun seen => ?_, fun _ => rfl⟩
    simp [shape, read, Except.map, given]
  · cases networks
    have read := list_texts same
    refine ⟨by simp [shape], fun seen => ?_, fun _ => rfl⟩
    simp [shape, read, Except.map, given]

/-- A rule is read from what was written of it. -/
theorem decode_of_sameAs (bounded : r.priority ≤ Decimal.maxNat32) {v : Value}
    (same : r.toJson.SameAs v) : decode Json.format v = .ok r := by
  obtain ⟨members, rfl, names, each⟩ := Value.SameAs.exists_members same
  obtain ⟨distinct, always, described⟩ := names_of_written (r := r) rfl
  simp only [names.nodup_iff, names.mem_iff] at distinct always described
  have read : (shape Json.format).read Json.format (r.given []) (.object members) =
      .ok (r.given (members.map Prod.fst).reverse) := by
    refine Shape.read_of_advances rfl (fun m' listed => ?_) distinct fun name needed => ?_
    · obtain ⟨m, member, same⟩ := each m' listed
      exact advances bounded rfl member same
    · obtain rfl : name = "name" := by simpa [shape] using needed
      exact always _ (by decide)
  have whole : r.given (members.map Prod.fst).reverse = r :=
    given_eq_self (fun name listed => List.mem_reverse.2 (always name listed))
      fun present => List.mem_reverse.2 (described present)
  rwa [given_nil, whole] at read

/-- **What was written of a rule is read as the rule**, in whatever order the members stand.  Only an empty
description is not written, and the value of a condition is read as what it was: a text whatever it looks
like, or a list however long. -/
theorem decode_toJson (r : Rule) (bounded : r.priority ≤ Decimal.maxNat32) :
    decode Json.format r.toJson = .ok r ∧
      (∀ v, r.toJson.SameAs v → decode Json.format v = .ok r) ∧
      (r.toJson.get? "description" = none ↔ r.description = "") ∧
      ∀ c ∈ r.conditions, Operand.ofContent? c.operand.toJson.content = some c.operand := by
  refine ⟨decode_of_sameAs bounded (.refl _), fun v same => decode_of_sameAs bounded same, ?_,
    fun c _ => c.operand.ofContent?_toJson⟩
  by_cases empty : r.description = "" <;> simp [toJson, Value.get?, empty]

/-- A rule with no description, the largest priority, and values that look like numbers and truth values. -/
def sampleRule : Rule where
  name := "Scanning"
  priority := 4294967295
  status := .disabled
  conditions :=
    [⟨.statusCode, .oneOf, .many ["404"]⟩, ⟨.path, .contains, .one "true"⟩, ⟨.method, .oneOf, .many []⟩]
  excludeNetworks := ["14.19.0.0/16"]

/-- What is written of the sample, with the members of every object from the last to the first. -/
def sampleBackwards : Value :=
  .object
    [("exclude_networks", textList ["14.19.0.0/16"]),
      ("conditions", .array
        [.object [("value", textList ["404"]), ("operator", .string "in"), ("field", .string "status_code")],
          .object [("value", .string "true"), ("operator", .string "contains"), ("field", .string "path")],
          .object [("value", textList []), ("operator", .string "in"), ("field", .string "method")]]),
      ("status", .string "disabled"), ("priority", .int 4294967295), ("name", .string "Scanning")]

theorem sameAs_sampleBackwards : sampleRule.toJson.SameAs sampleBackwards := by
  have conditions : List.Forall₂ Value.SameAs (sampleRule.conditions.map Condition.toJson) _ :=
    .cons (.of_perm (List.reverse_perm _).symm) (.cons (.of_perm (List.reverse_perm _).symm)
      (.cons (.of_perm (List.reverse_perm _).symm) .nil))
  refine .object (.cons (.refl _) (.cons (.refl _) (.cons (.refl _)
    (.cons (.mk (.array conditions)) (.cons (.refl _) .nil))))) ?_
  exact (List.reverse_perm _).symm

theorem decode_toJson_sampleRule :
    sampleRule.priority ≤ Decimal.maxNat32 ∧
      decode Json.format sampleRule.toJson = .ok sampleRule ∧
      sampleRule.toJson.SameAs sampleBackwards ∧ decode Json.format sampleBackwards = .ok sampleRule := by
  have bounded : sampleRule.priority ≤ Decimal.maxNat32 := by decide
  obtain ⟨reads, anyOrder, -⟩ := decode_toJson sampleRule bounded
  exact ⟨bounded, reads, sameAs_sampleBackwards, anyOrder _ sameAs_sampleBackwards⟩

end ThreatMarker.Rule
