import Mathlib.Data.List.Nodup
import ThreatMarker.Decode.Format
/-
# Members of a structure that was read

A structure is read member by member, in the order of the data.  For what it holds of one member only
the value that the data has for it counts: the value that is given under a name of the member, or the
one in its place of a list (`member?`).  Where there is none, the member keeps the value with which the
reading began (`Holds.of_read`).

The other way round, data is read if each of its members takes the state one step further
(`Advances`), whatever was read before it; so the order of the members does not count
(`read_of_advances`).
-/

namespace ThreatMarker.Decode

set_option autoImplicit false

universe u

variable {α : Type u} {σ β : Type}

namespace Shape

/-- Whether an entry is given under a name of a member. -/
def gives (s : Shape α σ) (name : String) (e : Entry α) : Bool :=
  match e.name with
  | .ok written => s.canonical? written == some name
  | .error _ => false

/-- The value that data has for a member. -/
def member? (s : Shape α σ) (name : String) : Fields α → Option α
  | .named entries _ => (entries.find? (s.gives name)).map Entry.value
  | .positional values => values[s.names.idxOf name]?

/-- A part of the state is what a member is read as, and no other member changes it. -/
structure Holds (s : Shape α σ) (name : String) (get : σ → β) (Reads : α → β → Prop) : Prop where
  assigned : ∀ {v : α} {state next : σ}, s.assign name v state = .ok next → Reads v (get next)
  kept : ∀ {other : String} {v : α} {state next : σ}, other ∈ s.names → other ≠ name →
    s.assign other v state = .ok next → get next = get state

/-- What a state holds of a member: what its value is read as, or else what was there before. -/
def Given (get : σ → β) (Reads : α → β → Prop) (value : Option α) (before after : σ) : Prop :=
  match value with
  | some v => Reads v (get after)
  | none => get after = get before

theorem given_congr {get : σ → β} {Reads : α → β → Prop} {value : Option α} {before before' after : σ}
    (same : get before = get before') :
    Given get Reads value before after ↔ Given get Reads value before' after := by
  cases value with
  | none => rw [Given, Given, same]
  | some v => rfl

theorem assign_of_readField {s : Shape α σ} {name : String} {step : Step} {v : α} {state next : σ}
    (read : s.readField name step v state = .ok next) : s.assign name v state = .ok next := by
  unfold readField at read
  cases assigned : s.assign name v state with
  | error fault => simp [assigned, Format.inside] at read
  | ok found =>
      simp only [assigned, Format.inside] at read
      split at read
      · cases read
      · exact read

theorem mem_names_of_canonical? {s : Shape α σ} (synonyms : ∀ p ∈ s.synonyms, p.2 ∈ s.names)
    {written name : String} (known : s.canonical? written = some name) : name ∈ s.names := by
  unfold canonical? at known
  split at known
  · rename_i listed
    cases known
    exact List.contains_iff_mem.1 listed
  · obtain ⟨p, found, rfl⟩ := Option.map_eq_some_iff.1 known
    exact synonyms p (List.mem_of_find?_eq_some found)

/-- An entry that was read is passed over, or it is the first with its member and is read as this. -/
theorem readEntries_cons {s : Shape α σ} {F : Format α} {seen : List String} {state : σ} {e : Entry α}
    {entries : List (Entry α)} {result : List String × σ}
    (read : s.readEntries F seen state (e :: entries) = .ok result) :
    (∃ written, e.name = .ok written ∧ s.canonical? written = none ∧
      s.readEntries F seen state entries = .ok result) ∨
    ∃ written given between, e.name = .ok written ∧ s.canonical? written = some given ∧ given ∉ seen ∧
      s.assign given e.value state = .ok between ∧
      s.readEntries F (given :: seen) between entries = .ok result := by
  rw [readEntries] at read
  cases named : e.name with
  | error cause => simp [named] at read
  | ok written =>
      cases known : s.canonical? written with
      | none =>
          cases skipped : F.skip e.value with
          | error cause => simp [named, known, skipped] at read
          | ok _ =>
              simp only [named, known, skipped] at read
              exact .inl ⟨written, rfl, known, read⟩
      | some given =>
          simp only [named, known] at read
          split at read
          · cases read
          rename_i fresh
          cases field : s.readField given e.step e.value state with
          | error fault => simp [field] at read
          | ok between =>
              simp only [field] at read
              exact .inr ⟨written, given, between, rfl, known,
                fun member => fresh (List.contains_iff_mem.2 member), assign_of_readField field, read⟩

/-- A value that was read in its place is read as the member that has the place. -/
theorem readPositions_cons {s : Shape α σ} {index : Nat} {first : String} {names : List String} {v : α}
    {values : List α} {state next : σ}
    (read : s.readPositions index (first :: names) (v :: values) state = .ok next) :
    ∃ between, s.assign first v state = .ok between ∧
      s.readPositions (index + 1) names values between = .ok next := by
  rw [readPositions] at read
  cases field : s.readField first (.item index) v state with
  | error fault => simp [field] at read
  | ok between =>
      simp only [field] at read
      exact ⟨between, assign_of_readField field, read⟩

namespace Holds

variable {s : Shape α σ} {name : String} {get : σ → β} {Reads : α → β → Prop} {F : Format α}

/-- Entries that are read fill in the member, unless it was seen before. -/
theorem of_readEntries (holds : s.Holds name get Reads) (synonyms : ∀ p ∈ s.synonyms, p.2 ∈ s.names)
    {seen seen' : List String} {state next : σ} {entries : List (Entry α)}
    (read : s.readEntries F seen state entries = .ok (seen', next)) :
    if name ∈ seen then get next = get state
    else Given get Reads ((entries.find? (s.gives name)).map Entry.value) state next := by
  induction entries generalizing seen state with
  | nil =>
      cases read
      split <;> rfl
  | cons e entries ih =>
      rw [List.find?_cons]
      rcases readEntries_cons read with
        ⟨written, named, unknown, read⟩ | ⟨written, given, between, named, known, fresh, assigned, read⟩
      · have other : s.gives name e = false := by simp [gives, named, unknown]
        rw [other]
        exact ih read
      have rest := ih read
      by_cases same : given = name
      · subst same
        have this : s.gives given e = true := by simp [gives, named, known]
        -- what is read later leaves the member as it is now
        rw [if_pos List.mem_cons_self] at rest
        rw [if_neg fresh, this]
        show Reads e.value (get next)
        rw [rest]
        exact holds.assigned assigned
      · have other : s.gives name e = false := by simp [gives, named, known, same]
        have kept := holds.kept (mem_names_of_canonical? synonyms known) same assigned
        rw [other]
        simpa only [List.mem_cons, Ne.symm same, false_or, kept, given_congr kept] using rest

/-- Values that are read in the order of the names fill in the member in its place. -/
theorem of_readPositions (holds : s.Holds name get Reads) {index : Nat} {names : List String}
    (listed : ∀ other ∈ names, other ∈ s.names) (distinct : names.Nodup) {values : List α}
    {state next : σ} (read : s.readPositions index names values state = .ok next) :
    if name ∈ names then Given get Reads values[names.idxOf name]? state next
    else get next = get state := by
  induction names generalizing index values state with
  | nil =>
      cases values <;> cases read <;> rfl
  | cons first names ih =>
      obtain ⟨member, listed⟩ := List.forall_mem_cons.1 listed
      obtain ⟨apart, distinct⟩ := List.nodup_cons.1 distinct
      cases values with
      | nil =>
          rw [readPositions] at read
          split at read
          · cases read
          · have rest := ih listed distinct read
            simp only [List.getElem?_nil, Given] at rest ⊢
            simpa using rest
      | cons v values =>
          obtain ⟨between, assigned, read⟩ := readPositions_cons read
          have rest := ih listed distinct read
          by_cases same : first = name
          · subst same
            rw [if_neg apart] at rest
            rw [if_pos List.mem_cons_self, List.idxOf_cons_self, List.getElem?_cons_zero]
            show Reads v (get next)
            rw [rest]
            exact holds.assigned assigned
          · have kept := holds.kept member same assigned
            rw [List.idxOf_cons_ne _ same, List.getElem?_cons_succ]
            simpa only [List.mem_cons, Ne.symm same, false_or, kept, given_congr kept] using rest

/-- **A structure that was read holds of a member what the data has for it**, or else the value with which
the reading began. -/
theorem of_read (holds : s.Holds name get Reads) (synonyms : ∀ p ∈ s.synonyms, p.2 ∈ s.names)
    (distinct : s.names.Nodup) (listed : name ∈ s.names) {defaults state : σ} {v : α}
    (read : s.read F defaults v = .ok state) :
    ∃ fields, F.fields ("struct " ++ s.title) v = .ok fields ∧
      Given get Reads (s.member? name fields) defaults state := by
  unfold Shape.read at read
  cases found : F.fields ("struct " ++ s.title) v with
  | error cause => simp [found] at read
  | ok fields =>
      refine ⟨fields, rfl, ?_⟩
      cases fields with
      | named entries whole =>
          simp only [found] at read
          cases entered : s.readEntries F [] defaults entries with
          | error fault => simp [entered] at read
          | ok both =>
              obtain ⟨seen, next⟩ := both
              have filled := holds.of_readEntries synonyms entered
              simp only [entered] at read
              split at read
              · cases read
              · split at read
                · cases read
                · cases read
                  rwa [if_neg List.not_mem_nil] at filled
      | positional values =>
          simp only [found] at read
          cases placed : s.readPositions 0 s.names values defaults with
          | error fault => simp [placed] at read
          | ok next =>
              have filled := holds.of_readPositions (fun _ member => member) distinct placed
              simp only [placed] at read
              split at read
              · cases read
              · cases read
                rwa [if_pos listed] at filled

end Holds

end Shape

/-! ## Data that can be read -/

namespace Format

variable {F : Format α} {read : α → Except Fault β} {items : List α} {bs : List β}

theorem readItems_of_forall₂ (each : List.Forall₂ (fun v b => read v = .ok b) items bs) (index : Nat) :
    readItems read index items = .ok bs := by
  induction each generalizing index with
  | nil => rfl
  | cons first _ ih => simp only [readItems, first, inside, ih]

/-- A list is read if each of its items is. -/
theorem list_of_forall₂ {v : α} (found : F.items v = .ok (items, true))
    (each : List.Forall₂ (fun v b => read v = .ok b) items bs) : F.list read v = .ok bs := by
  simp only [list, found, readItems_of_forall₂ each, if_true]

end Format

namespace Shape

variable {s : Shape α σ} {F : Format α} {progress : List String → σ} {members : List (String × α)}

/-- The entries of data that has its members by name. -/
def entriesOf (members : List (String × α)) : List (Entry α) :=
  members.map fun m => { name := .ok m.1, step := .member m.1, value := m.2 }

/-- A member that is read in every state of a reading.  `progress` has the states: the one in which the
members with some names were read. -/
structure Advances (s : Shape α σ) (progress : List String → σ) (m : String × α) : Prop where
  declared : m.1 ∈ s.names
  assigned : ∀ seen, s.assign m.1 m.2 (progress seen) = .ok (progress (m.1 :: seen))
  unfaulted : ∀ seen, s.check m.1 (progress (m.1 :: seen)) = none

theorem readField_of_advances {m : String × α} (advances : s.Advances progress m) (step : Step)
    (seen : List String) :
    s.readField m.1 step m.2 (progress seen) = .ok (progress (m.1 :: seen)) := by
  simp only [readField, advances.assigned, Format.inside, advances.unfaulted]

theorem readEntries_of_advances (each : ∀ m ∈ members, s.Advances progress m) {seen : List String}
    (distinct : ((members.map Prod.fst).reverse ++ seen).Nodup) :
    s.readEntries F seen (progress seen) (entriesOf members) =
      .ok ((members.map Prod.fst).reverse ++ seen, progress ((members.map Prod.fst).reverse ++ seen)) := by
  induction members generalizing seen with
  | nil => rfl
  | cons m members ih =>
      obtain ⟨first, each⟩ := List.forall_mem_cons.1 each
      -- what is seen after the rest, begun with this member, is what is seen after all
      simp only [List.map_cons, List.reverse_cons, List.append_assoc, List.singleton_append] at distinct ⊢
      have fresh : m.1 ∉ seen := (List.nodup_cons.1 (List.nodup_append.1 distinct).2.1).1
      have known : s.canonical? m.1 = some m.1 := if_pos (List.contains_iff_mem.2 first.declared)
      have new : seen.contains m.1 = false := by simpa using fresh
      simp only [entriesOf, List.map_cons, readEntries, known, new, readField_of_advances first]
      exact ih each distinct

/-- **Data is read if each of its members is**, in whatever order they stand, and nothing that has to be
there is missing. -/
theorem read_of_advances {v : α}
    (found : F.fields ("struct " ++ s.title) v = .ok (.named (entriesOf members) true))
    (each : ∀ m ∈ members, s.Advances progress m) (distinct : (members.map Prod.fst).Nodup)
    (required : ∀ name ∈ s.required, name ∈ members.map Prod.fst) :
    s.read F (progress []) v = .ok (progress (members.map Prod.fst).reverse) := by
  have start : ((members.map Prod.fst).reverse ++ []).Nodup := by
    rw [List.append_nil]
    exact List.nodup_reverse.2 distinct
  have entered := readEntries_of_advances (F := F) each start
  rw [List.append_nil] at entered
  have complete : s.required.find? (fun name => !(members.map Prod.fst).reverse.contains name) = none := by
    rw [List.find?_eq_none]
    intro name needed
    simpa using required name needed
  simp only [read, found, entered, complete, Bool.not_true, Bool.false_eq_true, if_false]

end Shape

end ThreatMarker.Decode
