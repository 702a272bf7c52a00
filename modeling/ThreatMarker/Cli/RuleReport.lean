import ThreatMarker.Cli.Palette
import ThreatMarker.Json.Printer
import ThreatMarker.Rule.Loader
/-
# Reports about rules

The rules that are in force with the place that each comes from, and what is wrong with rule files.
Every file is read on its own, and a name that is taken by a rule that is always known or by an earlier
file is a fault.
-/

namespace ThreatMarker.Cli

set_option autoImplicit false

open Json (Value)
open Files (FileTree)
open Rule (Engine Matcher)

/-! ## Rules in force -/

/-- A rule and where it comes from. -/
structure RuleEntry where
  matcher : Matcher
  source : String
  deriving Repr, DecidableEq

namespace RuleEntry

def statusText (e : RuleEntry) : String := if e.matcher.enabled then "enabled" else "disabled"

def toJson (e : RuleEntry) : Value :=
  .object [("name", .string e.matcher.name), ("priority", .int e.matcher.priority),
    ("status", .string e.statusText), ("conditions", .int e.matcher.tests.length),
    ("exclusions", .int e.matcher.exclusions.size), ("source", .string e.source)]

def text (p : Palette) (e : RuleEntry) : String :=
  let style := Style.coloured (if e.matcher.enabled then .green else .yellow)
  left 25 e.matcher.name ++ " " ++ right 8 (toString e.matcher.priority) ++ " "
    ++ p.paintIn style (left 10) e.statusText ++ " "
    ++ right 10 (toString e.matcher.tests.length) ++ " "
    ++ right 10 (toString e.matcher.exclusions.size) ++ "  " ++ e.source

end RuleEntry

/-- The rules that are in force. -/
structure RuleReport where
  entries : List RuleEntry
  deriving Repr, DecidableEq

namespace RuleReport

/-- The source of the rules that are always known. -/
def builtinSource : String := "builtin"

/-- The rules of an engine.  Those that are not always known come from a directory. -/
def ofEngine (e : Engine) (dir : Option String) : RuleReport :=
  let known := Rule.builtin.map Rule.name
  ⟨e.matchers.map fun m =>
    ⟨m, if known.contains m.name then builtinSource else dir.getD ""⟩⟩

def toJson (r : RuleReport) : Value :=
  .object [("total", .int r.entries.length), ("rules", .array (r.entries.map RuleEntry.toJson))]

def text (p : Palette) (r : RuleReport) : String :=
  let title := "Detection Rules (" ++ p.paint .strong (toString r.entries.length) ++ " total)"
  let columns := left 25 "Name" ++ " " ++ right 8 "Priority" ++ " " ++ left 10 "Status" ++ " "
    ++ right 10 "Conditions" ++ " " ++ right 10 "Excluded" ++ "  Source"
  unlines ([title, "", columns, dashes 90] ++ r.entries.map (RuleEntry.text p))

end RuleReport

/-! ## Rule files -/

/-- A file that holds no rule that could be added, and why. -/
structure RuleFileFault where
  file : String
  reason : String
  deriving Repr, DecidableEq

/-- What is wrong with the rule files of a directory. -/
structure RuleFileReport where
  path : String
  total : Nat
  valid : Nat
  faults : List RuleFileFault
  deriving Repr, DecidableEq

namespace RuleFileReport

/-- The rule that each of some files adds to those with the names `seen`, or why it adds none. -/
def outcomesOf (t : FileTree) : List String → List String → List (Except RuleFileFault Rule)
  | _, [] => []
  | seen, file :: rest =>
      match Rule.ofFile t file with
      | .error f => .error ⟨file, f.message⟩ :: outcomesOf t seen rest
      | .ok r =>
          if seen.contains r.name then
            .error ⟨file, "duplicate rule name '" ++ r.name ++ "'"⟩ :: outcomesOf t seen rest
          else .ok r :: outcomesOf t (seen ++ [r.name]) rest

def fault? : Except RuleFileFault Rule → Option RuleFileFault
  | .error fault => some fault
  | .ok _ => none

/-- Check the files of a directory. -/
def ofFiles (t : FileTree) (path : String) (files : List String) : RuleFileReport :=
  let outcomes := outcomesOf t (Rule.builtin.map Rule.name) files
  ⟨path, files.length, (outcomes.filterMap Except.toOption).length,
    outcomes.filterMap fault?⟩

/-- What checking files reports. -/
def eventsOf (t : FileTree) (files : List String) : List Trace.Event :=
  files.flatMap fun file => (Rule.load t file).events

def invalid (r : RuleFileReport) : Nat := r.faults.length

def toJson (r : RuleFileReport) : Value :=
  let fault := fun (f : RuleFileFault) =>
    Value.object [("file", .string f.file), ("error", .string f.reason)]
  .object [("path", .string r.path), ("total_files", .int r.total), ("valid", .int r.valid),
    ("invalid", .int r.invalid), ("errors", .array (r.faults.map fault))]

def text (p : Palette) (r : RuleFileReport) : String :=
  let invalidStyle := if r.invalid = 0 then Style.plain else .coloured .red
  let head := [
    "Rule Validation: " ++ p.paint .strong r.path,
    "  Files: " ++ toString r.total ++ " total, "
      ++ p.paint (.coloured .green) (toString r.valid) ++ " valid, "
      ++ p.paint invalidStyle (toString r.invalid) ++ " invalid"]
  let fault := fun (f : RuleFileFault) =>
    "  " ++ p.paint (.coloured .red) f.file ++ ": " ++ f.reason
  unlines (head ++ if r.faults.isEmpty then [] else ["", "Errors:"] ++ r.faults.map fault)

theorem length_outcomesOf (t : FileTree) (seen files : List String) :
    (outcomesOf t seen files).length = files.length := by
  fun_induction outcomesOf t seen files with
  | case1 => rfl
  | case2 _ _ _ _ _ ih => exact congrArg (· + 1) ih
  | case3 _ _ _ _ _ _ ih => exact congrArg (· + 1) ih
  | case4 _ _ _ _ _ _ ih => exact congrArg (· + 1) ih

/-- An outcome is a rule or a fault. -/
theorem length_toOption_add_length_fault? (outcomes : List (Except RuleFileFault Rule)) :
    (outcomes.filterMap Except.toOption).length + (outcomes.filterMap fault?).length =
      outcomes.length := by
  induction outcomes with
  | nil => rfl
  | cons outcome outcomes ih => cases outcome <;> simp [List.filterMap_cons, Except.toOption, fault?] <;> omega

/-- Every file is valid or invalid. -/
theorem valid_add_invalid (t : FileTree) (path : String) (files : List String) :
    (ofFiles t path files).valid + (ofFiles t path files).invalid = files.length := by
  rw [← length_outcomesOf t (Rule.builtin.map Rule.name) files]
  exact length_toOption_add_length_fault? _

end RuleFileReport

end ThreatMarker.Cli
