import ThreatMarker.Cli.Run
import ThreatMarker.Proofs.Rule.Builtin
import ThreatMarker.Proofs.Rule.Directory
/-
# A check of rule files predicts the engine

Two loops read the files of a directory.  The one that makes an engine drops the files that do not load
and the rules whose name an earlier file has, and then takes all that are left, or none of them if one
has the name of a built-in rule (`result_prepare`).  The one that checks the files goes on after every
fault, with the names that are taken so far, those of the built-in rules first (`outcomesOf`).  What the
second accepts are the rules that the first is left with, without those with a built-in name
(`toOption_outcomesOf`); so the engine is made exactly if the two are the same, and then it has as many
further rules as there are valid files.
-/

namespace ThreatMarker.Cli

set_option autoImplicit false

open Files (FileTree)
open Rule (Compiles Engine Matcher firstOfEachName isNew loadedFrom)

/-! ## What is accepted -/

section Accepted

variable {t : FileTree}

theorem isNew_iff {known : List Rule} {r : Rule} :
    isNew known r = true ↔ r.name ∉ known.map Rule.name := by
  simp [isNew]

/-- **Files that are checked after rules add the first rule of each name that is new.** -/
theorem toOption_outcomesOf (known : List Rule) (files : List String) :
    (RuleFileReport.outcomesOf t (known.map Rule.name) files).filterMap Except.toOption =
      (firstOfEachName (loadedFrom t files)).filter (isNew known) := by
  induction files generalizing known with
  | nil => rfl
  | cons file files ih =>
      cases loaded : Rule.ofFile t file with
      | error f =>
          simp only [RuleFileReport.outcomesOf, loaded]
          rw [Rule.loadedFrom_cons_error loaded, List.filterMap_cons_none rfl, ih]
      | ok r =>
          rw [Rule.loadedFrom_cons_ok loaded, firstOfEachName]
          cases new : isNew known r with
          | false =>
              have taken : (known.map Rule.name).contains r.name = true := by
                simpa [isNew] using new
              simp only [RuleFileReport.outcomesOf, loaded, taken, if_true]
              rw [List.filterMap_cons_none rfl, ih, List.filter_cons_of_neg (by simp [new]),
                Rule.filter_isNew_of_known new]
          | true =>
              have free : (known.map Rule.name).contains r.name = false := by
                simpa [isNew] using new
              have more := ih (known ++ [r])
              rw [List.map_append, List.map_singleton] at more
              have accepted : (Except.ok r : Except RuleFileFault Rule).toOption = some r := rfl
              simp only [RuleFileReport.outcomesOf, loaded, free, Bool.false_eq_true, if_false]
              rw [List.filterMap_cons_some accepted, more, List.filter_cons_of_pos new,
                Rule.filter_isNew_append]

/-- As many files are valid as there are rules left whose name is not built in. -/
theorem valid_ofFiles (dir : String) (files : List String) :
    (RuleFileReport.ofFiles t dir files).valid =
      ((firstOfEachName (loadedFrom t files)).filter (isNew Rule.builtin)).length :=
  congrArg List.length (toOption_outcomesOf Rule.builtin files)

/-- A matcher is the compiled rule of a file. -/
def IsRuleOf (t : FileTree) (file : String) (m : Matcher) : Prop :=
  ∃ r, Rule.ofFile t file = .ok r ∧ Compiles r m

theorem length_loadedFrom_le (files : List String) :
    (loadedFrom t files).length ≤ files.length := List.length_filterMap_le _ _

theorem forall₂_isRuleOf {files : List String} {ms : List Matcher}
    (compiled : List.Forall₂ Compiles (loadedFrom t files) ms)
    (whole : (loadedFrom t files).length = files.length) :
    List.Forall₂ (IsRuleOf t) files ms := by
  induction files generalizing ms with
  | nil =>
      cases compiled
      exact .nil
  | cons file files ih =>
      cases loaded : Rule.ofFile t file with
      | error f =>
          have fewer := length_loadedFrom_le (t := t) files
          rw [Rule.loadedFrom_cons_error loaded, List.length_cons] at whole
          omega
      | ok r =>
          rw [Rule.loadedFrom_cons_ok loaded] at compiled whole
          obtain _ | ⟨first, rest⟩ := compiled
          exact .cons ⟨r, loaded, first⟩ (ih rest (Nat.succ.inj whole))

/-- Where as many rules are left as there are files, each file has one of them. -/
theorem forall₂_isRuleOf_of_whole {files : List String} {ms : List Matcher}
    (compiled : List.Forall₂ Compiles (firstOfEachName (loadedFrom t files)) ms)
    (whole : ms.length = files.length) : List.Forall₂ (IsRuleOf t) files ms := by
  have kept := Rule.firstOfEachName_sublist (loadedFrom t files)
  have left := compiled.length_eq
  have loads := length_loadedFrom_le (t := t) files
  have all : firstOfEachName (loadedFrom t files) = loadedFrom t files :=
    kept.eq_of_length_le (by omega)
  rw [all] at compiled left
  exact forall₂_isRuleOf compiled (left.trans whole)

end Accepted

/-! ## The engine of a directory -/

section Prepared

variable {t : FileTree} {dir : String} {files : List String} {known : Engine}

/-- The rules that are left of a directory join the others together or not at all. -/
theorem result_extended (listed : Rule.listFiles t dir = .ok files)
    (few : files.length ≤ Rule.maxRules) (before : List Trace.Event) :
    (Engine.extended t (.ok known) before (some dir)).result =
      match known.compileNew [] (firstOfEachName (loadedFrom t files)) with
      | .ok ms => .ok (ms.length, ⟨known.matchers ++ ms⟩)
      | .error refusal => .error (.ofRefusal refusal) := by
  have read : (Rule.loadDirectory t dir).result = .ok (firstOfEachName (loadedFrom t files)) :=
    Rule.ofDirectory_of_listed listed few
  simp only [Engine.extended, Engine.load, read, Engine.run_insertAll]
  cases known.compileNew [] (firstOfEachName (loadedFrom t files)) <;> rfl

theorem result_prepare (made : Engine.ofRules Rule.builtin = .ok known)
    (listed : Rule.listFiles t dir = .ok files) (few : files.length ≤ Rule.maxRules) :
    (Engine.prepare t (some dir)).result =
      match known.compileNew [] (firstOfEachName (loadedFrom t files)) with
      | .ok ms => .ok (ms.length, ⟨known.matchers ++ ms⟩)
      | .error refusal => .error (.ofRefusal refusal) := by
  rw [Engine.prepare, made]
  exact result_extended listed few _

/-- Rules that are left of a directory compile. -/
theorem compiles_of_left {r : Rule} (member : r ∈ firstOfEachName (loadedFrom t files)) :
    ∃ m, Compiles r m :=
  Rule.compiles_of_mem_loadedFrom (Rule.mem_of_mem_firstOfEachName member)

theorem prepare_of_all_new (made : Engine.ofRules Rule.builtin = .ok known)
    (listed : Rule.listFiles t dir = .ok files) (few : files.length ≤ Rule.maxRules)
    (new : ∀ r ∈ firstOfEachName (loadedFrom t files), isNew Rule.builtin r = true) :
    ∃ ms, List.Forall₂ Compiles (firstOfEachName (loadedFrom t files)) ms ∧
      (Engine.prepare t (some dir)).result = .ok (ms.length, ⟨known.matchers ++ ms⟩) := by
  obtain ⟨ms, compiled, joined⟩ := Rule.compileNew_eq_ok (e := known)
    (fun r member => compiles_of_left member) (Rule.nodup_firstOfEachName _)
    fun r member => by
      rw [Engine.names_of_ofRules made]
      exact isNew_iff.1 (new r member)
  exact ⟨ms, compiled, by rw [result_prepare made listed few, joined]⟩

theorem prepare_of_clash (made : Engine.ofRules Rule.builtin = .ok known)
    (listed : Rule.listFiles t dir = .ok files) (few : files.length ≤ Rule.maxRules) {r : Rule}
    (member : r ∈ firstOfEachName (loadedFrom t files)) (clash : isNew Rule.builtin r = false) :
    ∃ f, (Engine.prepare t (some dir)).result = .error f := by
  have taken : known.contains r.name = true := by
    rw [Rule.Engine.contains_iff, Engine.names_of_ofRules made]
    by_contra free
    rw [isNew_iff.2 free] at clash
    cases clash
  cases first : (firstOfEachName (loadedFrom t files)).find? (fun r => known.contains r.name) with
  | none => exact absurd taken (List.find?_eq_none.1 first r member)
  | some other =>
      have refused : known.compileNew [] (firstOfEachName (loadedFrom t files)) =
          .error ⟨other.name, .duplicateName⟩ :=
        Rule.compileNew_eq_error (fun r member => compiles_of_left member)
          (Rule.nodup_firstOfEachName _) (by simp) first
      exact ⟨_, by rw [result_prepare made listed few, refused]⟩

end Prepared

/-! ## The prediction -/

theorem exitCode_validateRules {s : Surroundings} {dir : String} {files : List String}
    (listed : Rule.listFiles s.files dir = .ok files) :
    (validateRules s dir).exitCode = 0 ↔ (RuleFileReport.ofFiles s.files dir files).invalid = 0 := by
  simp only [validateRules, listed, Outcome.exitCode, RuleFileReport.invalid]
  cases faults : (RuleFileReport.ofFiles s.files dir files).faults with
  | nil => simp [Failure.exitCodeOf]
  | cons fault rest => simp [Failure.exitCodeOf, Failure.exitCode]

/-- **A check of rule files predicts the engine.**  For every directory that can be listed, each file is
counted as valid or as invalid.  None is invalid, and the command succeeds, exactly if the engine of the
directory is made with a further rule for each file, which then is the rule of that file.  Whenever the
engine is made it has as many further rules as there are valid files, and where it is not made some file
is invalid. -/
theorem validation_predicts_engine (s : Surroundings) (dir : String) {files : List String}
    (listed : Rule.listFiles s.files dir = .ok files) (few : files.length ≤ Rule.maxRules) :
    ∃ report known, (validateRules s dir).report = some (.ruleFiles report) ∧
      Engine.ofRules Rule.builtin = .ok known ∧
      report.total = files.length ∧ report.valid + report.invalid = report.total ∧
      ((validateRules s dir).exitCode = 0 ↔ report.invalid = 0) ∧
      (report.invalid = 0 ↔ ∃ ms, List.Forall₂ (IsRuleOf s.files) files ms ∧
        (Engine.prepare s.files (some dir)).result = .ok (files.length, ⟨known.matchers ++ ms⟩)) ∧
      (∀ count e, (Engine.prepare s.files (some dir)).result = .ok (count, e) →
        count = report.valid ∧ e.size = known.size + count) ∧
      ∀ f, (Engine.prepare s.files (some dir)).result = .error f → 0 < report.invalid := by
  obtain ⟨known, made⟩ := Rule.exists_ofRules_builtin
  let report := RuleFileReport.ofFiles s.files dir files
  let rules := firstOfEachName (loadedFrom s.files files)
  have total : report.valid + report.invalid = files.length :=
    RuleFileReport.valid_add_invalid s.files dir files
  have valid : report.valid = (rules.filter (isNew Rule.builtin)).length := valid_ofFiles dir files
  have reported : (validateRules s dir).report = some (.ruleFiles report) := by
    simp only [validateRules, listed]
    rfl
  refine ⟨report, known, reported, made, rfl, total, exitCode_validateRules listed, ?_⟩
  by_cases new : ∀ r ∈ rules, isNew Rule.builtin r = true
  · obtain ⟨ms, compiled, prepared⟩ := prepare_of_all_new made listed few new
    rw [List.filter_eq_self.2 new, compiled.length_eq] at valid
    rw [prepared]
    refine ⟨⟨fun clean => ?_, ?_⟩, ?_, fun f failed => by cases failed⟩
    · have whole : ms.length = files.length := by omega
      exact ⟨ms, forall₂_isRuleOf_of_whole compiled whole, by rw [whole]⟩
    · rintro ⟨_, -, same⟩
      have whole : ms.length = files.length := (Prod.mk.inj (Except.ok.inj same)).1
      omega
    · rintro count e same
      cases same
      exact ⟨valid.symm, by simp [Engine.size]⟩
  · simp only [not_forall, Bool.not_eq_true] at new
    obtain ⟨r, member, clash⟩ := new
    obtain ⟨f, refused⟩ := prepare_of_clash made listed few member clash
    have fewer : (rules.filter (isNew Rule.builtin)).length < rules.length :=
      List.length_filter_lt_length_iff_exists.2 ⟨r, member, by simp [clash]⟩
    have left := (Rule.firstOfEachName_sublist (loadedFrom s.files files)).length_le
    have loads := length_loadedFrom_le (t := s.files) files
    have faulty : 0 < report.invalid := by
      have : rules.length ≤ files.length := left.trans loads
      omega
    rw [refused]
    refine ⟨⟨fun clean => by omega, ?_⟩, ?_, fun _ _ => faulty⟩
    · rintro ⟨_, -, same⟩
      cases same
    · rintro count e same
      cases same

/-- Surroundings with a rule file and one that is broken off. -/
def sampleRuleFiles : Surroundings where
  files := Files.oneDirectory "rules" Rule.sampleFiles
  now := ⟨2024, 1, 2, 3, 4, 5⟩

/-- The broken file is reported, and the engine has the rule of the other. -/
theorem validation_predicts_engine_of_sampleFiles :
    Rule.listFiles sampleRuleFiles.files "rules" =
        .ok (["a.yml", "b.yml"].map (Files.Path.join "rules")) ∧
      ∃ report, (validateRules sampleRuleFiles "rules").report = some (.ruleFiles report) ∧
        report.total = 2 ∧ report.valid = 1 ∧ report.invalid = 1 ∧
        (validateRules sampleRuleFiles "rules").exitCode ≠ 0 ∧
        ∃ e, (Engine.prepare sampleRuleFiles.files (some "rules")).result = .ok (1, e) ∧
          e.size = 3 + 1 := by
  have listed : Rule.listFiles sampleRuleFiles.files "rules" =
      .ok (["a.yml", "b.yml"].map (Files.Path.join "rules")) := by
    rw [← Rule.filesAmong_sampleFiles]
    exact Rule.listFiles_of_enumerates Rule.enumerates_sampleFiles
  obtain ⟨report, known, reported, made, total, each, status, -, adds, -⟩ :=
    validation_predicts_engine sampleRuleFiles "rules" listed (by decide)
  have left : firstOfEachName (loadedFrom sampleRuleFiles.files
      (["a.yml", "b.yml"].map (Files.Path.join "rules"))) = [{ name := "Second" }] :=
    congrArg firstOfEachName Rule.loadedFrom_sampleFiles
  obtain ⟨ms, compiled, prepared⟩ := prepare_of_all_new made listed (by decide)
    (by rw [left]; decide)
  rw [left] at compiled
  rw [← compiled.length_eq] at prepared
  obtain ⟨valid, size⟩ := adds _ _ prepared
  have builtin : known.size = 3 := by
    have names := congrArg List.length (Engine.names_of_ofRules made)
    rw [Engine.names, List.length_map] at names
    exact names
  have invalid : report.invalid = 1 := by
    simp at total valid
    omega
  refine ⟨listed, report, reported, total, valid.symm, invalid, ?_, _, prepared, ?_⟩
  · rw [Ne, status, invalid]
    decide
  · rw [size, builtin]
    rfl

end ThreatMarker.Cli
