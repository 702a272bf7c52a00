import ThreatMarker.Rule.Session
import ThreatMarker.Proofs.Rule.Compiled
/-
# The history of an engine does not matter

Beside an engine that is changed, `Change.survivors` keeps the declarations of the rules in it: a rule
that is added goes to the end, a rule that is taken out leaves the others in their order.  A change
that fails has changed nothing by then (`apply_add`, `apply_remove`, `apply_load`).  A single change
keeps the engine the one that is made of the surviving declarations (`ofRules_survivors`), so
any number of changes does, and whatever holds of engines made of rules holds of every engine in use.
-/

namespace ThreatMarker.Rule

set_option autoImplicit false

open Files (FileTree)

/-! ## Single operations -/

/-- The name of a rule that was checked is neither empty nor too long. -/
theorem name_of_validate {r : Rule} (valid : validate r = .ok ()) :
    r.name ≠ "" ∧ r.name.utf8ByteSize ≤ maxNameLength := by
  unfold validate at valid
  split at valid
  · cases valid
  · rename_i nonempty
    split at valid
    · cases valid
    · rename_i short
      exact ⟨nonempty, Nat.le_of_not_lt short⟩

namespace Engine

variable {e next : Engine} {name : String} {m : Matcher}

/-- The rule that is taken out is the first of its name, and the others stay as they are. -/
theorem split_of_remove (taken : e.remove name = some (m, next)) :
    m.name = name ∧ ∃ before after, e.matchers = before ++ m :: after ∧
      (∀ other ∈ before, other.name ≠ name) ∧ next = ⟨before ++ after⟩ := by
  rw [remove_eq] at taken
  split at taken
  · rename_i found
    cases taken
    obtain ⟨named, before, after, cut, others⟩ := List.find?_eq_some_iff_append.1 found
    have distinct : ∀ other ∈ before, ¬ (other.name == name) = true := fun other member => by
      simpa using others other member
    refine ⟨beq_iff_eq.1 named, before, after, cut, fun other member => ?_, ?_⟩
    · exact fun same => distinct other member (beq_iff_eq.2 same)
    · rw [cut, List.eraseP_append_right _ distinct, List.eraseP_cons_of_pos (by exact named)]
  · cases taken

/-- Nothing is taken out exactly if there is no rule of the name. -/
theorem remove_eq_none_iff : e.remove name = none ↔ name ∉ e.names := by
  rw [remove_eq]
  cases found : e.matchers.find? (fun m => m.name == name) with
  | none =>
      rw [List.find?_eq_none] at found
      refine ⟨fun _ listed => ?_, fun _ => rfl⟩
      obtain ⟨m, member, named⟩ := List.mem_map.1 listed
      exact found m member (beq_iff_eq.2 named)
  | some m =>
      have named : m.name = name := by simpa using List.find?_some found
      have member : name ∈ e.names := List.mem_map.2 ⟨m, List.mem_of_find?_eq_some found, named⟩
      constructor
      · intro h
        cases h
      · intro absent
        exact absurd member absent

/-- Where names are different, the other rules have other names. -/
theorem others_of_remove (different : e.names.Nodup) (taken : e.remove name = some (m, next)) :
    m.name = name ∧ ∃ before after, e.matchers = before ++ m :: after ∧
      (∀ other ∈ before ++ after, other.name ≠ name) ∧ next.matchers = before ++ after := by
  obtain ⟨rfl, before, after, cut, others, rfl⟩ := split_of_remove taken
  refine ⟨rfl, before, after, cut, fun other member => ?_, rfl⟩
  rcases List.mem_append.1 member with front | back
  · exact others other front
  · rw [names, cut, List.map_append, List.map_cons, List.nodup_append, List.nodup_cons] at different
    exact fun same => different.2.1.1 (List.mem_map.2 ⟨other, back, same⟩)

/-- Where names are different, the rules that stay are those of another name. -/
theorem matchers_of_remove (different : e.names.Nodup) (taken : e.remove name = some (m, next)) :
    next.matchers = e.matchers.filter (fun other => other.name != name) := by
  obtain ⟨rfl, before, after, cut, others, kept⟩ := others_of_remove different taken
  have front : before.filter (fun other => other.name != m.name) = before :=
    List.filter_eq_self.2 fun other member => by simpa using others other (by simp [member])
  have back : after.filter (fun other => other.name != m.name) = after :=
    List.filter_eq_self.2 fun other member => by simpa using others other (by simp [member])
  rw [kept, cut, List.filter_append, List.filter_cons_of_neg (by simp), front, back]

/-- The rules of a directory join an engine all at once, as if they were added one by one. -/
theorem load_eq_ok_iff {files : FileTree} {dir : String} {count : Nat} :
    (e.load files dir).result = .ok (count, next) ↔
      ∃ rules, ofDirectory files dir = .ok rules ∧ count = rules.length ∧
        e.addAll rules = .ok next := by
  simp only [load, ofDirectory]
  cases (loadDirectory files dir).result with
  | error f => simp
  | ok rules =>
      simp only [Except.ok.injEq, exists_eq_left', addAll_eq_map_compileNew, run_insertAll]
      cases compiled : e.compileNew [] rules with
      | error refusal => simp [Except.map]
      | ok ms =>
          have same := (compiles_of_compileNew compiled).length_eq
          simp [Except.map, same, eq_comm]

end Engine

/-! ## Changes -/

namespace Change

/-- A rule that is refused leaves the engine as it is. -/
theorem apply_add (r : Rule) (e : Engine) :
    (add r).apply e =
      match e.add r with
      | .ok next => (.added, next)
      | .error refusal => (.failed (.ofRefusal refusal), e) := by
  simp only [apply, update, Engine.add, EStateM.run_bind, EStateM.run_adaptExcept, Engine.run_insert]
  by_cases taken : e.contains r.name = true
  · simp only [if_pos taken]
  · simp only [if_neg taken]
    cases Matcher.ofRule r <;> rfl

/-- A name that no rule has leaves the engine as it is. -/
theorem apply_remove (name : String) (e : Engine) :
    (remove name).apply e =
      match e.remove name with
      | some (m, next) => (.removed m, next)
      | none => (.absent, e) := by
  simp only [apply, update, Engine.remove, EStateM.run_bind, Engine.run_take]
  cases e.matchers.find? (fun m => m.name == name) <;> rfl

/-- A directory that is refused leaves the engine as it is. -/
theorem apply_load (files : FileTree) (dir : String) (e : Engine) :
    (load files dir).apply e =
      match (e.load files dir).result with
      | .ok (count, next) => (.loaded count, next)
      | .error f => (.failed f, e) := by
  simp only [apply, update, Engine.load, ofDirectory]
  cases (loadDirectory files dir).result with
  | error f => rfl
  | ok rules =>
      simp only [EStateM.run_bind, EStateM.run_adaptExcept, Engine.run_insertAll]
      cases e.compileNew [] rules <;> rfl

end Change

/-! ## Declarations that survive -/

/-- The rules that the files of a directory declare. -/
def declaredIn (files : FileTree) (dir : String) : List Rule :=
  match ofDirectory files dir with
  | .ok rules => rules
  | .error _ => []

namespace Change

/-- The declarations that survive a change, by what came of it. -/
def survivors (c : Change) (outcome : Outcome) (declared : List Rule) : List Rule :=
  match c, outcome with
  | .add r, .added => declared ++ [r]
  | .remove name, .removed _ => declared.filter (fun r => r.name != name)
  | .load files dir, .loaded _ => declared ++ declaredIn files dir
  | _, _ => declared

/-- The declarations that survive changes, one after the other. -/
def survivorsAll (e : Engine) (declared : List Rule) : List Change → List Rule
  | [] => declared
  | c :: rest => survivorsAll (c.apply e).2 (c.survivors (c.apply e).1 declared) rest

/-- What can come of a change, and the engine after each. -/
inductive Step (e : Engine) : Change → Outcome → Engine → Prop where
  | added {r : Rule} {next : Engine} (taken : e.add r = .ok next) : Step e (.add r) .added next
  | removed {name : String} {m : Matcher} {next : Engine} (taken : e.remove name = some (m, next)) :
      Step e (.remove name) (.removed m) next
  | absent {name : String} (none : e.remove name = none) : Step e (.remove name) .absent e
  | loaded {files : FileTree} {dir : String} {count : Nat} {next : Engine}
      (joined : (e.load files dir).result = .ok (count, next)) :
      Step e (.load files dir) (.loaded count) next
  | failed (c : Change) (f : Failure) : Step e c (.failed f) e

theorem step_of_apply {c : Change} {e next : Engine} {outcome : Outcome}
    (applied : c.apply e = (outcome, next)) : Step e c outcome next := by
  cases c with
  | add r =>
      rw [apply_add] at applied
      cases taken : e.add r <;> simp only [taken] at applied <;> cases applied
      · exact .failed _ _
      · exact .added taken
  | remove name =>
      rw [apply_remove] at applied
      cases taken : e.remove name <;> simp only [taken] at applied <;> cases applied
      · exact .absent taken
      · exact .removed taken
  | load files dir =>
      rw [apply_load] at applied
      cases joined : (e.load files dir).result <;> simp only [joined] at applied <;> cases applied
      · exact .failed _ _
      · exact .loaded joined

/-- **A change keeps an engine the one that is made of the surviving declarations.** -/
theorem ofRules_survivors {e next : Engine} {c : Change} {outcome : Outcome} {declared : List Rule}
    (made : Engine.ofRules declared = .ok e) (step : Step e c outcome next) :
    Engine.ofRules (c.survivors outcome declared) = .ok next := by
  cases step with
  | @added r next taken =>
      show Engine.ofRules (declared ++ [r]) = .ok next
      rw [Engine.ofRules, Engine.addAll_of_append made, Engine.addAll, taken]
      rfl
  | @removed name m next taken =>
      show Engine.ofRules (declared.filter (fun r => r.name != name)) = .ok next
      obtain ⟨all, different⟩ := Engine.ofRules_eq_ok_iff.1 made
      have kept := Engine.matchers_of_remove (Engine.names_of_ofRules made ▸ different) taken
      refine Engine.ofRules_eq_ok_iff.2 ⟨?_, different.sublist (List.filter_sublist.map Rule.name)⟩
      rw [kept]
      refine List.rel_filter (fun r m compiled => ?_) all
      show (r.name != name) = true ↔ (m.name != name) = true
      rw [Matcher.name_of_ofRule compiled]
  | absent none => exact made
  | @loaded files dir count next joined =>
      obtain ⟨rules, read, -, added⟩ := Engine.load_eq_ok_iff.1 joined
      show Engine.ofRules (declared ++ declaredIn files dir) = .ok next
      rw [Engine.ofRules, Engine.addAll_of_append made, declaredIn, read]
      exact added
  | failed c f => cases c <;> exact made

/-- Any number of changes keeps an engine the one that is made of the surviving declarations. -/
theorem ofRules_survivorsAll {e : Engine} {declared : List Rule}
    (made : Engine.ofRules declared = .ok e) (changes : List Change) :
    Engine.ofRules (survivorsAll e declared changes) = .ok (applyAll e changes) := by
  induction changes generalizing e declared with
  | nil => exact made
  | cons c rest ih => exact ih (ofRules_survivors made (step_of_apply rfl))

end Change

/-! ## Engines in use -/

/-- The names of an engine that is made of rules are those that a rule may have, each once. -/
theorem names_valid {e : Engine} {rules : List Rule} (made : Engine.ofRules rules = .ok e) :
    e.names.Nodup ∧ ∀ name ∈ e.names, name ≠ "" ∧ name.utf8ByteSize ≤ maxNameLength := by
  obtain ⟨all, different⟩ := Engine.ofRules_eq_ok_iff.1 made
  rw [Engine.names_of_ofRules made]
  refine ⟨different, fun name listed => ?_⟩
  obtain ⟨r, member, rfl⟩ := List.mem_map.1 listed
  obtain ⟨m, -, compiled⟩ := exists_compiled all member
  exact name_of_validate (compiles_iff.1 compiled).1

/-- **Whatever was done to an engine, it is the one that is made of the surviving declarations**, in
the order in which they were added.  Its names are those that a rule may have, each once; a change that
fails leaves it as it is; and taking out a rule takes out the one rule of the name. -/
theorem engine_after_changes {rules : List Rule} {start : Engine}
    (made : Engine.ofRules rules = .ok start) (changes : List Change) :
    let e := Change.applyAll start changes
    let declared := Change.survivorsAll start rules changes
    e.names.Nodup ∧
      (∀ name ∈ e.names, name ≠ "" ∧ name.utf8ByteSize ≤ maxNameLength) ∧
      (∀ (c : Change) (f : Failure) (next : Engine), c.apply e = (.failed f, next) → next = e) ∧
      (∀ name, name ∉ e.names → (Change.remove name).apply e = (.absent, e)) ∧
      (∀ name ∈ e.names, ∃ m next, (Change.remove name).apply e = (.removed m, next) ∧
        m.name = name ∧ ∃ before after, e.matchers = before ++ m :: after ∧
          (∀ other ∈ before ++ after, other.name ≠ name) ∧ next.matchers = before ++ after) ∧
      Engine.ofRules declared = .ok e ∧
      (∀ fresh, Engine.ofRules declared = .ok fresh → ∀ r, fresh.evaluate r = e.evaluate r) := by
  intro e declared
  have same : Engine.ofRules declared = .ok e := Change.ofRules_survivorsAll made changes
  obtain ⟨different, valid⟩ := names_valid same
  refine ⟨different, valid, ?_, ?_, ?_, same, ?_⟩
  · intro c f next failed
    cases Change.step_of_apply failed
    rfl
  · intro name unknown
    simp only [Change.apply_remove, Engine.remove_eq_none_iff.2 unknown]
  · intro name known
    cases taken : e.remove name with
    | none => exact absurd known (Engine.remove_eq_none_iff.1 taken)
    | some both =>
        obtain ⟨m, next⟩ := both
        exact ⟨m, next, by simp only [Change.apply_remove, taken], Engine.others_of_remove different taken⟩
  · intro fresh again r
    rw [same] at again
    cases again
    rfl

/-- Changes of which some fail: a name that is taken, and a directory without a path. -/
def sampleChanges : List Change :=
  [.add { name := "First" }, .add { name := "Second", priority := 2 }, .add { name := "First" },
    .remove "First", .load .empty "", .remove "Third", .add { name := "First", priority := 1 }]

theorem engine_after_sampleChanges :
    Engine.ofRules [] = .ok .empty ∧
      (Change.applyAll .empty sampleChanges).names = ["Second", "First"] ∧
      Engine.ofRules [{ name := "Second", priority := 2 }, { name := "First", priority := 1 }] =
        .ok (Change.applyAll .empty sampleChanges) := by
  have declared : Change.survivorsAll .empty [] sampleChanges =
      [{ name := "Second", priority := 2 }, { name := "First", priority := 1 }] := by
    decide +kernel
  obtain ⟨-, -, -, -, -, same, -⟩ :=
    engine_after_changes (show Engine.ofRules [] = .ok .empty from rfl) sampleChanges
  rw [declared] at same
  exact ⟨rfl, Engine.names_of_ofRules same, same⟩

end ThreatMarker.Rule
