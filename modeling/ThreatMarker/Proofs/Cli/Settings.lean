import ThreatMarker.Proofs.Batch.Settings
import ThreatMarker.Proofs.Cli.Agreement
import ThreatMarker.Proofs.Config.Layers
/-
# The settings that are in force

Which settings a command runs with, and when it does not run.  A configuration file is read together
with the environment (`Config.Layered`), a conversion takes flags into account as well and is then what
the settings it ends up with say (`Outcome.IsBatch`).  The settings of a batch are checked once more
before it is set up; a configuration that was loaded passes, so that only a flag can be refused there
(`emptied_of_refused`).
-/

namespace ThreatMarker.Cli

set_option autoImplicit false

open Batch (Job)
open Rule (Engine)

variable {s : Surroundings} {path : String} {c : Config} {rawDir sampleDir rulesDir : Option String}

/-! ## Conversions -/

/-- What becomes of converting logs with the given settings: settings or rules that are refused end it
before it begins, a directory that cannot be read does as well, and else the report is that of the run. -/
structure Outcome.IsBatch (o : Outcome) (s : Surroundings) (settings : Batch.Settings) : Prop where
  refused : ∀ f, settings.validate = .error f ∨ settings.validate = .ok () ∧
      (Engine.prepare s.files settings.rulesDir).result = .error f →
    o.report = none ∧ o.failure = some (.ofPipeline f) ∧ o.files = s.files
  ran : settings.validate = .ok () →
    ∀ count e, (Engine.prepare s.files settings.rulesDir).result = .ok (count, e) →
      let run := Job.run ⟨settings, ⟨.limited settings.maxLineLength, e⟩⟩ s.now s.files
      o.files = run.tree ∧ o.counts = run.counts ∧
        (∀ f, run.result = .error f → o.report = none ∧ o.failure = some (.ofPipeline f)) ∧
        ∀ report, run.result = .ok report →
          o.report = some (.batch ⟨settings.rawDir, settings.sampleDir, report⟩) ∧
            (o.failure = none ↔ report.isClean = true)

/-- A job that cannot be prepared ends a conversion before it begins. -/
theorem process_of_unprepared {f : ThreatMarker.Failure}
    (loaded : (Config.loadOrDefault s.files s.environment path).result = .ok c)
    (unprepared :
      (Job.prepare s.files (batchSettings c rawDir sampleDir rulesDir) none).result = .error f) :
    let o := process s path rawDir sampleDir rulesDir
    o.report = none ∧ o.failure = some (.ofPipeline f) ∧ o.files = s.files := by
  rw [process, withConfig_of_loaded loaded]
  simp only [unprepared, Surroundings.fail, and_self]

/-- A conversion is one with the settings that were loaded and the flags in their place. -/
theorem isBatch_process
    (loaded : (Config.loadOrDefault s.files s.environment path).result = .ok c) :
    (process s path rawDir sampleDir rulesDir).IsBatch s
      (batchSettings c rawDir sampleDir rulesDir) where
  refused _ refused := process_of_unprepared loaded (Job.prepare_eq_error_iff.2 refused)
  ran valid count e prepared :=
    process_of_prepared loaded (Job.prepare_eq_ok_iff.2 ⟨valid, count, e, prepared, rfl⟩)

/-- Settings that cannot be loaded end a conversion before it begins. -/
theorem process_of_unloaded {f : SystemFailure}
    (unloaded : (Config.loadOrDefault s.files s.environment path).result = .error f) :
    let o := process s path rawDir sampleDir rulesDir
    o.report = none ∧ o.failure = some (.system f) ∧ o.files = s.files := by
  simp only [process, Surroundings.withConfig, unloaded, Surroundings.fail, and_self]

/-! ## What is loaded -/

/-- A check of the configuration file succeeds exactly if the file can be loaded. -/
theorem exitCode_validateConfig :
    (validateConfig s path).exitCode = 0 ↔
      ∃ c, (Config.load s.files s.environment path).result = .ok c := by
  unfold validateConfig Outcome.exitCode
  dsimp only
  cases (Config.load s.files s.environment path).result with
  | ok c => simp [Failure.exitCodeOf]
  | error f => simp [Failure.exitCodeOf, Failure.exitCode]

/-- **The settings that are in force.**  Settings that are loaded keep the rules, and each of them is
what its variable gives, or else what the file has, or else what it usually is.  Where there is a file,
both ways to load come to the same: the settings in it, if it can be read and they keep the rules, with
those of the environment in their place, if these keep the rules too; and a check of the configuration
succeeds exactly then.  Where there is none, only the second way goes on, with the usual settings.  A
conversion is one with these settings, where the flags that are given take the place of three of them. -/
theorem effective_configuration (s : Surroundings) (path : String) :
    let strict := (Config.load s.files s.environment path).result
    let lenient := (Config.loadOrDefault s.files s.environment path).result
    (∀ c, strict = .ok c ∨ lenient = .ok c →
      c.validate = .ok () ∧ c.Layered s.environment (Config.Variable.inFile? · s.files path)) ∧
    (s.files.readText path ≠ .error .noEntry →
      strict = lenient ∧
      (∀ c, lenient = .ok c ↔ ∃ text base, s.files.readText path = .ok text ∧
        Config.ofToml text = .ok base ∧ base.validate = .ok () ∧
        (base.override s.environment).validate = .ok () ∧ c = base.override s.environment) ∧
      ((validateConfig s path).exitCode = 0 ↔ ∃ c, lenient = .ok c)) ∧
    (s.files.readText path = .error .noEntry →
      strict = .error (.configNotFound path) ∧ (validateConfig s path).exitCode ≠ 0 ∧
      ∀ c, lenient = .ok c ↔ (({} : Config).override s.environment).validate = .ok () ∧
        c = ({} : Config).override s.environment) ∧
    ∀ rawDir sampleDir rulesDir,
      let o := process s path rawDir sampleDir rulesDir
      (∀ f, lenient = .error f →
        o.report = none ∧ o.failure = some (.system f) ∧ o.files = s.files) ∧
      ∀ c, lenient = .ok c → o.IsBatch s
        { rawDir := rawDir.getD c.etl.rawDir
          sampleDir := sampleDir.getD c.etl.sampleDir
          inputExtension := c.etl.inputExtension
          outputPrefix := c.etl.outputPrefix
          rulesDir := rulesDir.or (if c.etl.rulesDir = "" then none else some c.etl.rulesDir)
          maxLineLength := c.etl.maxLineLength } := by
  intro strict lenient
  refine ⟨fun c loaded => Config.layered_of_loaded loaded, fun there => ?_, fun missing => ?_,
    fun rawDir sampleDir rulesDir => ⟨fun f => process_of_unloaded, fun c => isBatch_process⟩⟩
  · have same : strict = lenient :=
      congrArg Config.Loaded.result (Config.loadOrDefault_of_there there).symm
    refine ⟨same, fun c => ?_, ?_⟩
    · rw [← same, Config.load_eq_ok_iff]
      simp only [Config.ofFile_eq_ok_iff]
      constructor
      · rintro ⟨base, ⟨text, found, read, sound⟩, valid, rfl⟩
        exact ⟨text, base, found, read, sound, valid, rfl⟩
      · rintro ⟨text, base, found, read, sound, valid, rfl⟩
        exact ⟨base, ⟨text, found, read, sound⟩, valid, rfl⟩
    · rw [← same]
      exact exitCode_validateConfig
  · have refused : strict = .error (.configNotFound path) :=
      congrArg Config.Loaded.result (Config.load_of_missing missing)
    refine ⟨refused, fun success => ?_, fun c => Config.loadOrDefault_eq_ok_iff_of_missing missing⟩
    obtain ⟨c, loaded⟩ := exitCode_validateConfig.1 success
    cases refused.symm.trans loaded

/-- A configuration file with two settings. -/
def sampleConfig : String := "etl.raw_dir = \"logs\"\netl.sample_dir = \"out\"\n"

theorem ofToml_sampleConfig :
    Config.ofToml sampleConfig = .ok { etl := { rawDir := "logs", sampleDir := "out" } } := by
  have read : (Config.ofToml sampleConfig).toOption =
      some { etl := { rawDir := "logs", sampleDir := "out" } } := by decide +kernel
  generalize Config.ofToml sampleConfig = result at read ⊢
  cases result with
  | error f => cases read
  | ok c =>
      cases read
      rfl

/-- Surroundings with the file, and with variables of which one is no number. -/
def configuredSurroundings : Surroundings where
  files := Files.oneDirectory "etc" [("c.toml", sampleConfig.toUTF8)]
  environment := [("ACCESSWATCH_ETL_SAMPLE_DIR", "rows"), ("ACCESSWATCH_ETL_MAX_LINE_LENGTH", "many")]
  now := Batch.Job.sampleStamp

theorem readText_sampleConfig :
    configuredSurroundings.files.readText "etc/c.toml" = .ok sampleConfig := by
  have found : configuredSurroundings.files.lookup "etc" = .ok (Files.placeOf "etc", .directory) :=
    Files.lookup_oneDirectory (by decide) (by decide) (by decide)
  rw [show "etc/c.toml" = Files.Path.join "etc" "c.toml" by decide]
  exact Files.readText_of_read (Files.read_join_oneDirectory found (by decide) (by decide) rfl)

/-- One directory is that of the file, one that of the environment, and one that of a flag. -/
theorem effective_configuration_sampleConfig :
    (process configuredSurroundings "etc/c.toml" none none (some "rules")).IsBatch
      configuredSurroundings { rawDir := "logs", sampleDir := "rows", rulesDir := some "rules" } := by
  obtain ⟨-, there, -, commands⟩ := effective_configuration configuredSurroundings "etc/c.toml"
  obtain ⟨-, loads, -⟩ := there (by simp [readText_sampleConfig])
  exact (commands none none (some "rules")).2 _
    ((loads _).2 ⟨_, _, readText_sampleConfig, ofToml_sampleConfig, by decide, by decide, rfl⟩)

/-! ## Two checks -/

/-- A configuration that was loaded has settings of a batch that are in order. -/
theorem validate_ofConfig_of_loaded {t : Files.FileTree} {env : Environment}
    (loaded : (Config.load t env path).result = .ok c ∨
      (Config.loadOrDefault t env path).result = .ok c) :
    (Batch.Settings.ofConfig c.etl).validate = .ok () :=
  (Batch.Settings.config_validate_eq_ok_iff.1 (Config.layered_of_loaded loaded).1).2.2

/-- Settings that were in order are refused only where a flag emptied one of them. -/
theorem emptied_of_refused (valid : (Batch.Settings.ofConfig c.etl).validate = .ok ())
    {f : ThreatMarker.Failure}
    (refused : (batchSettings c rawDir sampleDir rulesDir).validate = .error f) :
    rawDir = some "" ∨ sampleDir = some "" := by
  by_contra whole
  rw [not_or] at whole
  have inOrder := Batch.Settings.validate_eq_ok_iff.1 valid
  have still : (batchSettings c rawDir sampleDir rulesDir).InOrder :=
    { inOrder with
      rawDir := by
        cases rawDir with
        | none => exact inOrder.rawDir
        | some dir => exact fun empty => whole.1 (congrArg some empty)
      sampleDir := by
        cases sampleDir with
        | none => exact inOrder.sampleDir
        | some dir => exact fun empty => whole.2 (congrArg some empty) }
  rw [Batch.Settings.validate_eq_ok_iff.2 still] at refused
  cases refused

/-- **Both checks of the settings agree.**  A configuration is in order exactly if its settings about
logging are allowed and those of a batch pass the check that is made before a batch is set up; where
only the latter can be wrong, both checks blame the same setting, the first of them with the name of its
table in front.  So what was loaded is refused before a batch only for its rules, or for a directory
without a name that a flag gave. -/
theorem validators_agree :
    (∀ c : Config,
      (c.validate = .ok () ↔
        c.general.logLevel ∈ Config.logLevels ∧ c.general.logFormat ∈ Config.logFormats ∧
          (Batch.Settings.ofConfig c.etl).validate = .ok ()) ∧
      (c.general.logLevel ∈ Config.logLevels → c.general.logFormat ∈ Config.logFormats →
        ∀ failure, c.validate = .error failure → ∃ field reason reason',
          failure = .configInvalid ("etl." ++ field) reason ∧
            (Batch.Settings.ofConfig c.etl).validate = .error (.config field reason'))) ∧
    ∀ t env path c,
      ((Config.load t env path).result = .ok c ∨ (Config.loadOrDefault t env path).result = .ok c) →
        (Batch.Settings.ofConfig c.etl).validate = .ok () ∧
        (∀ t' parser f, (Job.prepare t' (.ofConfig c.etl) parser).result = .error f →
          (Engine.prepare t' (Batch.Settings.ofConfig c.etl).rulesDir).result = .error f) ∧
        ∀ rawDir sampleDir rulesDir f,
          (batchSettings c rawDir sampleDir rulesDir).validate = .error f →
            rawDir = some "" ∨ sampleDir = some "" := by
  refine ⟨fun c => ⟨Batch.Settings.config_validate_eq_ok_iff, fun level format failure refused => ?_⟩,
    fun t env path c loaded => ?_⟩
  · have same := Batch.Settings.field_fault?_ofConfig level format
    unfold Config.validate at refused
    cases found : c.fault? with
    | none => simp [found] at refused
    | some fault =>
        obtain rfl : fault.failure = failure := by simpa [found] using refused
        rw [found, Option.map_some, eq_comm, Option.map_eq_some_iff] at same
        obtain ⟨fault', found', field⟩ := same
        refine ⟨fault'.field, fault.reason, fault'.reason, ?_, ?_⟩
        · rw [field, Config.Fault.failure]
        · rw [Batch.Settings.validate, found']
          rfl
  · have valid := validate_ofConfig_of_loaded loaded
    refine ⟨valid, fun t' parser f unprepared => ?_,
      fun rawDir sampleDir rulesDir f => emptied_of_refused valid⟩
    rcases Job.prepare_eq_error_iff.1 unprepared with refused | ⟨-, unprepared⟩
    · cases valid.symm.trans refused
    · exact unprepared

end ThreatMarker.Cli
