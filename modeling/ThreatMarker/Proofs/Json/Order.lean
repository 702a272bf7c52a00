import Mathlib.Data.List.Forall2
import ThreatMarker.Json.Value
/-
# Values with their members in another order

The members of an object have no order of their own: one who writes them keeps that of a declaration,
one who reads them may sort them by name.  Values are the same but for this (`Value.SameAs`) if arrays
agree item by item, and objects have members of the same names with values that are again the same but
for this.  What such a value is made of is told by `SameAs.exists_items` and `SameAs.exists_members`.
-/

namespace ThreatMarker.Json.Value

set_option autoImplicit false

mutual

/-- Two values are the same but for the order of members, at any depth. -/
inductive SameAs : Value → Value → Prop where
  | refl (v : Value) : SameAs v v
  | array {items items' : List Value} (each : List.Forall₂ SameAs items items') :
      SameAs (.array items) (.array items')
  | object {members between members' : List (String × Value)}
      (each : List.Forall₂ SameMember members between) (order : between.Perm members') :
      SameAs (.object members) (.object members')

/-- Two members have one name, and values that are the same but for the order of members. -/
inductive SameMember : String × Value → String × Value → Prop where
  | mk {name : String} {v v' : Value} (same : SameAs v v') : SameMember (name, v) (name, v')

end

theorem SameMember.refl (m : String × Value) : SameMember m m := .mk (.refl m.2)

theorem SameAs.of_perm {members members' : List (String × Value)} (order : members.Perm members') :
    (Value.object members).SameAs (.object members') :=
  .object (List.forall₂_same.2 fun m _ => .refl m) order

theorem names_of_sameMembers {members members' : List (String × Value)}
    (each : List.Forall₂ SameMember members members') :
    members.map Prod.fst = members'.map Prod.fst := by
  induction each with
  | nil => rfl
  | cons first _ ih =>
      cases first
      rw [List.map_cons, List.map_cons, ih]

theorem exists_of_mem_sameMembers {members members' : List (String × Value)}
    (each : List.Forall₂ SameMember members members') {m' : String × Value} (member : m' ∈ members') :
    ∃ m ∈ members, SameMember m m' := by
  induction each with
  | nil => cases member
  | cons first _ ih =>
      rcases List.mem_cons.1 member with rfl | later
      · exact ⟨_, List.mem_cons_self, first⟩
      · obtain ⟨m, listed, same⟩ := ih later
        exact ⟨m, List.mem_cons_of_mem _ listed, same⟩

/-- What is the same as an array is an array of the same items. -/
theorem SameAs.exists_items {items : List Value} {v : Value} (same : (Value.array items).SameAs v) :
    ∃ items', v = .array items' ∧ List.Forall₂ SameAs items items' := by
  cases same with
  | refl => exact ⟨items, rfl, List.forall₂_same.2 fun item _ => .refl item⟩
  | array each => exact ⟨_, rfl, each⟩

/-- Strings have no members, so there is no other order for an array of them. -/
theorem SameAs.eq_of_strings {texts : List String} {v : Value}
    (same : (Value.array (texts.map .string)).SameAs v) : v = .array (texts.map .string) := by
  obtain ⟨items, rfl, each⟩ := same.exists_items
  clear same
  rw [List.forall₂_map_left_iff] at each
  congr 1
  induction each with
  | nil => rfl
  | cons first _ ih =>
      cases first
      rw [List.map_cons, ih]

/-- What is the same as an object is an object with the same names in some order, and every member of it
is one of the other. -/
theorem SameAs.exists_members {members : List (String × Value)} {v : Value}
    (same : (Value.object members).SameAs v) :
    ∃ members', v = .object members' ∧ (members.map Prod.fst).Perm (members'.map Prod.fst) ∧
      ∀ m' ∈ members', ∃ m ∈ members, SameMember m m' := by
  cases same with
  | refl => exact ⟨members, rfl, .refl _, fun m listed => ⟨m, listed, .refl m⟩⟩
  | @object _ between members' each order =>
      refine ⟨members', rfl, ?_, fun m' listed => ?_⟩
      · rw [names_of_sameMembers each]
        exact order.map Prod.fst
      · exact exists_of_mem_sameMembers each (order.mem_iff.2 listed)

end ThreatMarker.Json.Value
