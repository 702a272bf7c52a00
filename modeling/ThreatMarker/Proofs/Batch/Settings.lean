import ThreatMarker.Batch.Settings
import ThreatMarker.Proofs.Files.Parts
/-
# Settings of a batch that are in order

The settings of a batch are checked twice: as part of a configuration, and before a batch is set up.
The checks are written apart and word what they find differently, but what they ask for is the same
(`validate_eq_ok_iff`), and of several settings that are wrong both find the same first
(`field_fault?_ofConfig`).
-/

namespace ThreatMarker.Batch

set_option autoImplicit false

open Files.Path (isPlainName)

namespace Settings

/-- What is asked of the settings of a batch. -/
structure InOrder (s : Settings) : Prop where
  rawDir : s.rawDir ≠ ""
  sampleDir : s.sampleDir ≠ ""
  inputExtension : s.inputExtension ≠ ""
  outputPrefix : isPlainName s.outputPrefix = true
  maxLineLength : 1 ≤ s.maxLineLength ∧ s.maxLineLength ≤ maxLineLimit

variable {s : Settings} {c : Config}

theorem ne_empty_of_isPlainName {text : String} (plain : isPlainName text = true) : text ≠ "" := by
  rintro rfl
  exact absurd plain (by decide)

theorem fault?_eq_none_iff : s.fault? = none ↔ s.InOrder := by
  unfold fault?
  constructor
  · intro sound
    split_ifs at sound with raw sample extension empty plain limit
    exact ⟨raw, sample, extension, by simpa using plain, by omega⟩
  · intro inOrder
    have limit : ¬ (s.maxLineLength = 0 ∨ maxLineLimit < s.maxLineLength) := by
      have := inOrder.maxLineLength
      omega
    rw [if_neg inOrder.rawDir, if_neg inOrder.sampleDir, if_neg inOrder.inputExtension,
      if_neg (ne_empty_of_isPlainName inOrder.outputPrefix), inOrder.outputPrefix, if_neg limit]
    rfl

theorem validate_eq_ok_iff : s.validate = .ok () ↔ s.InOrder := by
  rw [← fault?_eq_none_iff, validate]
  cases s.fault? <;> simp

/-- The limits on the length of a line are the same. -/
theorem isLineLimit_iff {n : Nat} : Config.isLineLimit n = true ↔ ¬ (n = 0 ∨ maxLineLimit < n) := by
  rw [Config.isLineLimit, Bool.and_eq_true, decide_eq_true_eq, decide_eq_true_eq, Config.maxLineLimit,
    maxLineLimit]
  omega

/-- **Both checks find the same setting wrong**, once the settings about logging are allowed. -/
theorem field_fault?_ofConfig (level : c.general.logLevel ∈ Config.logLevels)
    (format : c.general.logFormat ∈ Config.logFormats) :
    c.fault?.map Config.Fault.field = (ofConfig c.etl).fault?.map fun f => "etl." ++ f.field := by
  have levels : (!Config.logLevels.contains c.general.logLevel) = false := by simpa using level
  have formats : (!Config.logFormats.contains c.general.logFormat) = false := by simpa using format
  unfold Config.fault? fault? ofConfig
  simp only [levels, formats, Bool.false_eq_true, if_false]
  by_cases raw : c.etl.rawDir = ""
  · simp only [if_pos raw]
    decide
  by_cases sample : c.etl.sampleDir = ""
  · simp only [if_neg raw, if_pos sample]
    decide
  by_cases extension : c.etl.inputExtension = ""
  · simp only [if_neg raw, if_neg sample, if_pos extension]
    decide
  simp only [if_neg raw, if_neg sample, if_neg extension]
  -- an empty prefix is no plain name, so it is found by the one check of the configuration
  cases plain : isPlainName c.etl.outputPrefix with
  | false =>
      by_cases empty : c.etl.outputPrefix = ""
      · simp only [if_pos empty]
        rfl
      · simp only [if_neg empty]
        rfl
  | true =>
      simp only [if_neg (ne_empty_of_isPlainName plain), Bool.not_true, Bool.false_eq_true, if_false]
      by_cases limit : c.etl.maxLineLength = 0 ∨ maxLineLimit < c.etl.maxLineLength
      · have refused : Config.isLineLimit c.etl.maxLineLength = false := by
          rw [Bool.eq_false_iff]
          exact fun allowed => isLineLimit_iff.1 allowed limit
        simp only [if_pos limit, refused]
        decide
      · simp only [if_neg limit, isLineLimit_iff.2 limit]
        decide

theorem validate_config_eq_ok_iff : c.validate = .ok () ↔ c.fault? = none := by
  unfold Config.validate
  cases c.fault? <;> simp

/-- A configuration is in order exactly if its settings about logging are allowed and those of the batch
are in order. -/
theorem config_validate_eq_ok_iff :
    c.validate = .ok () ↔
      c.general.logLevel ∈ Config.logLevels ∧ c.general.logFormat ∈ Config.logFormats ∧
        (ofConfig c.etl).validate = .ok () := by
  rw [validate_config_eq_ok_iff, validate_eq_ok_iff, ← fault?_eq_none_iff]
  by_cases level : c.general.logLevel ∈ Config.logLevels
  · by_cases format : c.general.logFormat ∈ Config.logFormats
    · have same := field_fault?_ofConfig level format
      simp only [level, format, true_and]
      rw [← Option.map_eq_none_iff (f := Config.Fault.field), same, Option.map_eq_none_iff]
    · simp [Config.fault?, level, format]
  · simp [Config.fault?, level]

end Settings

end ThreatMarker.Batch
