import Mathlib.Data.List.Forall2
import ThreatMarker.Rule.Engine
/-
# Engines and the rules they were made of

An engine is made of rules exactly if its compiled rules are those of the rules, one for one and in
their order, and no two rules have the same name (`ofRules_eq_ok_iff`).  What can be said of an engine
is said of its rules by this, without going through the additions one by one.
-/

namespace ThreatMarker.Rule

set_option autoImplicit false

/-- A compiled rule is what a rule compiles to. -/
def Compiles (r : Rule) (m : Matcher) : Prop := Matcher.ofRule r = .ok m

/-- What a compiled rule consists of. -/
theorem compiles_iff {r : Rule} {m : Matcher} :
    Compiles r m ↔
      validate r = .ok () ∧ compileConditions 0 r.conditions = .ok m.tests ∧ m.name = r.name ∧
        m.priority = r.priority ∧ m.enabled = (r.status == .enabled) ∧
          m.exclusions = .ofTexts r.excludeNetworks := by
  obtain ⟨name, priority, enabled, tests, exclusions⟩ := m
  unfold Compiles Matcher.ofRule
  cases valid : validate r with
  | error fault => simp
  | ok =>
      cases compiled : compileConditions 0 r.conditions with
      | error fault => simp
      | ok found =>
          simp only [Except.ok.injEq, Matcher.mk.injEq, true_and]
          constructor
          · rintro ⟨rfl, rfl, rfl, rfl, rfl⟩
            exact ⟨rfl, rfl, rfl, rfl, rfl⟩
          · rintro ⟨rfl, rfl, rfl, rfl, rfl⟩
            exact ⟨rfl, rfl, rfl, rfl, rfl⟩

/-- The names of compiled rules are those of the rules. -/
theorem map_name_of_compiles {rules : List Rule} {ms : List Matcher}
    (all : List.Forall₂ Compiles rules ms) : ms.map Matcher.name = rules.map Rule.name := by
  induction all with
  | nil => rfl
  | cons compiled _ ih => rw [List.map_cons, List.map_cons, ih, Matcher.name_of_ofRule compiled]

/-- Every rule has its compiled rule. -/
theorem exists_compiled {rules : List Rule} {ms : List Matcher}
    (all : List.Forall₂ Compiles rules ms) {r : Rule} (member : r ∈ rules) :
    ∃ m ∈ ms, Compiles r m := by
  induction all with
  | nil => cases member
  | cons compiled _ ih =>
      rcases List.mem_cons.1 member with rfl | member
      · exact ⟨_, List.mem_cons_self, compiled⟩
      · obtain ⟨m, among, compiled⟩ := ih member
        exact ⟨m, List.mem_cons_of_mem _ among, compiled⟩

/-- Rules that all compile have their compiled rules, one for one. -/
theorem exists_compiles {rules : List Rule} (all : ∀ r ∈ rules, ∃ m, Compiles r m) :
    ∃ ms, List.Forall₂ Compiles rules ms := by
  induction rules with
  | nil => exact ⟨[], .nil⟩
  | cons r rules ih =>
      obtain ⟨first, rest⟩ := List.forall_mem_cons.1 all
      obtain ⟨m, compiled⟩ := first
      obtain ⟨ms, compiled'⟩ := ih rest
      exact ⟨m :: ms, .cons compiled compiled'⟩

namespace Engine

variable {e e' : Engine} {r : Rule} {rules : List Rule}

/-! ## Updates -/

/-- What adding a rule does. -/
theorem run_insert (e : Engine) (r : Rule) :
    (insert r).run e =
      if e.contains r.name then .error ⟨r.name, .duplicateName⟩ e
      else
        match Matcher.ofRule r with
        | .ok m => .ok () ⟨e.matchers ++ [m]⟩
        | .error fault => .error ⟨r.name, fault⟩ e := by
  simp only [insert, EStateM.run_bind, EStateM.run_get]
  split
  · rfl
  · cases Matcher.ofRule r <;> rfl

theorem add_eq (e : Engine) (r : Rule) :
    e.add r =
      if e.contains r.name then .error ⟨r.name, .duplicateName⟩
      else
        match Matcher.ofRule r with
        | .ok m => .ok ⟨e.matchers ++ [m]⟩
        | .error fault => .error ⟨r.name, fault⟩ := by
  rw [add, run_insert]
  by_cases taken : e.contains r.name = true
  · rw [if_pos taken, if_pos taken]
  · rw [if_neg taken, if_neg taken]
    cases Matcher.ofRule r <;> rfl

/-- What adding rules together does. -/
theorem run_insertAll (e : Engine) (rules : List Rule) :
    (insertAll rules).run e =
      match e.compileNew [] rules with
      | .ok ms => .ok ms.length ⟨e.matchers ++ ms⟩
      | .error refusal => .error refusal e := by
  simp only [insertAll, EStateM.run_bind, EStateM.run_get]
  cases e.compileNew [] rules <;> rfl

/-- What taking out a rule does. -/
theorem run_take {ε : Type} (e : Engine) (name : String) :
    (take name : Update ε (Option Matcher)).run e =
      match e.matchers.find? (fun m => m.name == name) with
      | some m => .ok (some m) ⟨e.matchers.eraseP (fun m => m.name == name)⟩
      | none => .ok none e := by
  simp only [take, EStateM.run_bind, EStateM.run_get]
  cases e.matchers.find? (fun m => m.name == name) <;> rfl

theorem remove_eq (e : Engine) (name : String) :
    e.remove name =
      match e.matchers.find? (fun m => m.name == name) with
      | some m => some (m, ⟨e.matchers.eraseP (fun m => m.name == name)⟩)
      | none => none := by
  rw [remove, run_take]
  cases e.matchers.find? (fun m => m.name == name) <;> rfl

/-! ## Engines of rules -/

theorem names_append (e : Engine) (ms : List Matcher) :
    names ⟨e.matchers ++ ms⟩ = e.names ++ ms.map Matcher.name := by
  simp [names]

theorem add_eq_ok_iff :
    e.add r = .ok e' ↔
      r.name ∉ e.names ∧ ∃ m, Compiles r m ∧ e' = ⟨e.matchers ++ [m]⟩ := by
  rw [add_eq]
  by_cases taken : e.contains r.name = true
  · rw [if_pos taken]
    simp [contains_iff.1 taken]
  · rw [if_neg taken]
    have free : r.name ∉ e.names := fun member => taken (contains_iff.2 member)
    cases compiled : Matcher.ofRule r with
    | error fault => simp [Compiles, compiled]
    | ok m => simp [Compiles, compiled, free, eq_comm]

theorem addAll_cons_eq_ok_iff :
    e.addAll (r :: rules) = .ok e' ↔ ∃ e₁, e.add r = .ok e₁ ∧ e₁.addAll rules = .ok e' := by
  rw [addAll]
  cases e.add r <;> simp

/-- Rules are added together exactly if they compile and their names are new and different. -/
theorem addAll_eq_ok_iff :
    e.addAll rules = .ok e' ↔
      (∀ r ∈ rules, r.name ∉ e.names) ∧ (rules.map Rule.name).Nodup ∧
        ∃ ms, List.Forall₂ Compiles rules ms ∧ e' = ⟨e.matchers ++ ms⟩ := by
  induction rules generalizing e with
  | nil => simp [addAll, eq_comm]
  | cons r rules ih =>
      rw [addAll_cons_eq_ok_iff]
      constructor
      · rintro ⟨e₁, added, rest⟩
        obtain ⟨free, m, compiled, rfl⟩ := add_eq_ok_iff.1 added
        obtain ⟨new, different, ms, all, rfl⟩ := ih.1 rest
        have name := Matcher.name_of_ofRule compiled
        have apart : ∀ r' ∈ rules, r'.name ∉ e.names ∧ r'.name ≠ r.name := by
          intro r' member
          have := new r' member
          rw [names_append, List.mem_append, not_or] at this
          exact ⟨this.1, by simpa [name] using this.2⟩
        refine ⟨?_, ?_, m :: ms, .cons compiled all, by simp⟩
        · exact List.forall_mem_cons.2 ⟨free, fun r' member => (apart r' member).1⟩
        · refine List.nodup_cons.2 ⟨fun member => ?_, different⟩
          obtain ⟨r', member, same⟩ := List.mem_map.1 member
          exact (apart r' member).2 same
      · rintro ⟨new, different, ms, all, rfl⟩
        obtain ⟨free, new⟩ := List.forall_mem_cons.1 new
        obtain ⟨apart, different⟩ := List.nodup_cons.1 different
        cases all with
        | @cons _ m _ ms compiled all =>
            have name := Matcher.name_of_ofRule compiled
            refine ⟨_, add_eq_ok_iff.2 ⟨free, m, compiled, rfl⟩, ih.2 ⟨?_, different, ms, all, by simp⟩⟩
            intro r' member
            have other : r'.name ≠ r.name := fun same => apart (List.mem_map.2 ⟨r', member, same⟩)
            rw [names_append, List.mem_append, not_or]
            exact ⟨new r' member, by simpa [name] using other⟩

/-- Adding rules after others were added: what they are compiled to joins the others. -/
theorem addAll_append (e : Engine) (done : List Matcher) (seen : List String)
    (names : ∀ name, name ∈ seen ↔ name ∈ done.map Matcher.name) (rules : List Rule) :
    addAll ⟨e.matchers ++ done⟩ rules =
      (e.compileNew seen rules).map (fun ms => ⟨e.matchers ++ (done ++ ms)⟩) := by
  induction rules generalizing done seen with
  | nil => simp [addAll, compileNew, Except.map]
  | cons r rules ih =>
      have known : contains ⟨e.matchers ++ done⟩ r.name = (e.contains r.name || seen.contains r.name) := by
        rw [Bool.eq_iff_iff, Bool.or_eq_true, contains_iff, contains_iff, List.contains_iff_mem, names,
          names_append, List.mem_append]
      rw [addAll, add_eq, compileNew, known]
      cases e.contains r.name || seen.contains r.name with
      | true => rfl
      | false =>
          cases compiled : Matcher.ofRule r with
          | error fault => rfl
          | ok m =>
              have later := ih (done ++ [m]) (r.name :: seen) fun name => by
                simp [names, Matcher.name_of_ofRule compiled, or_comm]
              simp only [List.append_assoc, Bool.false_eq_true, if_false] at later ⊢
              rw [later]
              cases e.compileNew (r.name :: seen) rules <;> simp [Except.map]

/-- **Compiling rules together and adding them one by one come to the same**, refusals included. -/
theorem addAll_eq_map_compileNew (e : Engine) (rules : List Rule) :
    e.addAll rules = (e.compileNew [] rules).map (fun ms => ⟨e.matchers ++ ms⟩) := by
  have := addAll_append e [] [] (by simp) rules
  simpa using this

/-- What rules are compiled to together is what they compile to one for one. -/
theorem compiles_of_compileNew {ms : List Matcher} (compiled : e.compileNew [] rules = .ok ms) :
    List.Forall₂ Compiles rules ms := by
  have added : e.addAll rules = .ok ⟨e.matchers ++ ms⟩ := by
    rw [addAll_eq_map_compileNew, compiled, Except.map]
  obtain ⟨-, -, ms', all, same⟩ := addAll_eq_ok_iff.1 added
  rw [Engine.mk.injEq, List.append_cancel_left_eq] at same
  exact same ▸ all

/-- Adding rules and then more of them. -/
theorem addAll_of_append (added : e.addAll rules = .ok e') (more : List Rule) :
    e.addAll (rules ++ more) = e'.addAll more := by
  induction rules generalizing e with
  | nil =>
      cases added
      rfl
  | cons r rules ih =>
      obtain ⟨e₁, first, rest⟩ := addAll_cons_eq_ok_iff.1 added
      rw [List.cons_append, addAll, first]
      exact ih rest

/-- **An engine is made of rules that compile one for one and have different names.** -/
theorem ofRules_eq_ok_iff :
    ofRules rules = .ok e ↔
      List.Forall₂ Compiles rules e.matchers ∧ (rules.map Rule.name).Nodup := by
  rw [ofRules, addAll_eq_ok_iff]
  constructor
  · rintro ⟨-, different, ms, all, rfl⟩
    exact ⟨by simpa [empty] using all, different⟩
  · rintro ⟨all, different⟩
    exact ⟨by simp [empty, names], different, e.matchers, all, by simp [empty]⟩

/-- Rules that all compile and have different names make an engine. -/
theorem exists_ofRules (all : ∀ r ∈ rules, ∃ m, Compiles r m)
    (different : (rules.map Rule.name).Nodup) : ∃ e, ofRules rules = .ok e := by
  obtain ⟨ms, compiled⟩ := exists_compiles all
  exact ⟨⟨ms⟩, ofRules_eq_ok_iff.2 ⟨compiled, different⟩⟩

/-- The names of an engine are those of its rules. -/
theorem names_of_ofRules (made : ofRules rules = .ok e) : e.names = rules.map Rule.name :=
  map_name_of_compiles (ofRules_eq_ok_iff.1 made).1

end Engine

end ThreatMarker.Rule
