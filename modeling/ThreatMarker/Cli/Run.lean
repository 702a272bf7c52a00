import ThreatMarker.Cli.Arguments
import ThreatMarker.Cli.BatchReport
import ThreatMarker.Cli.ConfigReport
import ThreatMarker.Cli.Failure
import ThreatMarker.Cli.Input
import ThreatMarker.Cli.LineReport
import ThreatMarker.Cli.RuleReport
import ThreatMarker.Config.File
/-
# Running a command

A command sees files, the environment, the input and the time, and comes to a report, a failure, or
both: a batch in which some logs failed reports the others.  Flags count more than settings.
-/

namespace ThreatMarker.Cli

set_option autoImplicit false

open Files (FileTree)
open Line (Parser Processor)
open Rule (Engine Reported)

/-! ## Reports -/

inductive Report where
  | lines (r : LineReport)
  | rules (r : RuleReport)
  | ruleFiles (r : RuleFileReport)
  | configCheck (r : ConfigCheck)
  | config (r : ConfigReport)
  | batch (r : BatchReport)

namespace Report

def toJson : Report → Json.Value
  | .lines r => r.toJson
  | .rules r => r.toJson
  | .ruleFiles r => r.toJson
  | .configCheck r => r.toJson
  | .config r => r.toJson
  | .batch r => r.toJson

def text (p : Palette) : Report → String
  | .lines r => r.text p
  | .rules r => r.text p
  | .ruleFiles r => r.text p
  | .configCheck r => r.text p
  | .config r => r.text p
  | .batch r => r.text p

/-- A report as it is written. -/
def render (r : Report) (o : Output) (p : Palette) : String :=
  match o with
  | .text => r.text p
  | .json => r.toJson.pretty ++ "\n"

end Report

/-! ## Runs -/

/-- What a command can see. -/
structure Surroundings where
  files : FileTree
  environment : Environment := []
  input : Text.Bytes := []
  now : Batch.Stamp

/-- What a command came to, the files after it, and what it counted and reported on the way. -/
structure Outcome where
  report : Option Report := none
  failure : Option Failure := none
  files : FileTree
  counts : List String := []
  events : List Trace.Event := []

namespace Outcome

/-- What is written to the output. -/
def output (r : Outcome) (o : Output) (p : Palette) : String :=
  (r.report.map fun report => report.render o p).getD ""

def exitCode (r : Outcome) : Nat := Failure.exitCodeOf r.failure

end Outcome

namespace Surroundings

/-- A command that only failed. -/
def fail (s : Surroundings) (f : Failure) (events : List Trace.Event) : Outcome :=
  { failure := some f, files := s.files, events }

/-- A command that only reported. -/
def succeed (s : Surroundings) (r : Report) (events : List Trace.Event) : Outcome :=
  { report := some r, files := s.files, events }

/-- Go on with the settings that are in force. -/
def withConfig (s : Surroundings) (path : String) (before : List Trace.Event)
    (next : Config → List Trace.Event → Outcome) : Outcome :=
  let loaded := Config.loadOrDefault s.files s.environment path
  let events := before ++ loaded.events
  match loaded.result with
  | .error f => s.fail (.system f) events
  | .ok c => next c events

/-- Go on with rules that were prepared. -/
def goOn (s : Surroundings) (prepared : Reported (Nat × Engine)) (before : List Trace.Event)
    (next : Engine → List Trace.Event → Outcome) : Outcome :=
  let events := before ++ prepared.events
  match prepared.result with
  | .error f => s.fail (.ofPipeline f) events
  | .ok (_, e) => next e events

/-- Go on with the rules that are in force. -/
def withEngine (s : Surroundings) (rulesDir : Option String) (before : List Trace.Event)
    (next : Engine → List Trace.Event → Outcome) : Outcome :=
  s.goOn (Engine.prepare s.files rulesDir) before next

end Surroundings

/-- The directory of rules that a flag or else a setting names. -/
def rulesDirOf (flag : Option String) (c : Config) : Option String :=
  flag.or (Batch.Settings.ofConfig c.etl).rulesDir

/-! ## Commands -/

/-- The settings of a batch with flags in their place. -/
def batchSettings (c : Config) (rawDir sampleDir rulesDir : Option String) : Batch.Settings :=
  let settings := Batch.Settings.ofConfig c.etl
  { settings with
    rawDir := rawDir.getD settings.rawDir
    sampleDir := sampleDir.getD settings.sampleDir
    rulesDir := rulesDirOf rulesDir c }

/-- Convert the logs of a directory. -/
def process (s : Surroundings) (config : String) (rawDir sampleDir rulesDir : Option String) :
    Outcome :=
  s.withConfig config [] fun c events =>
    let settings := batchSettings c rawDir sampleDir rulesDir
    let started : Trace.Event :=
      { level := .info, message := "starting batch conversion",
        fields := [("raw_dir", settings.rawDir), ("sample_dir", settings.sampleDir)] }
    let prepared := Batch.Job.prepare s.files settings none
    let events := events ++ started :: prepared.events
    match prepared.result with
    | .error f => s.fail (.ofPipeline f) events
    | .ok job =>
        let run := job.run s.now s.files
        let done : Outcome := { files := run.tree, counts := run.counts, events := events ++ run.events }
        match run.result with
        | .error f => { done with failure := some (.ofPipeline f) }
        | .ok report =>
            { done with
              report := some (.batch ⟨settings.rawDir, settings.sampleDir, report⟩)
              failure :=
                if report.isClean then none
                else some (.command (toString report.failures.length
                  ++ " file(s) failed to process")) }

/-- The lines that are to be checked: those that are named, or else those of the input. -/
def linesToCheck (s : Surroundings) (lines : List String) : Except Failure (List String) :=
  if lines.isEmpty then
    match inputLines s.input with
    | .error fault => .error (.io fault.message)
    | .ok lines => .ok lines
  else .ok lines

/-- Mark lines without writing files. -/
def check (s : Surroundings) (config : String) (lines : List String) (rulesDir : Option String) :
    Outcome :=
  s.withConfig config [] fun c events =>
    s.withEngine (rulesDirOf rulesDir c) events fun e events =>
      match linesToCheck s lines with
      | .error f => s.fail f events
      | .ok lines =>
          let p : Processor := ⟨.limited c.etl.maxLineLength, e⟩
          let verdicts := lines.map p.judgeLine?
          let started : Trace.Event :=
            { level := .info, message := "checking log lines",
              fields := [("lines", toString lines.length)] }
          let lineEvents := (lines.zip verdicts).flatMap fun l =>
            p.parser.events l.1 ++ (l.2.map Line.Verdict.events).getD []
          { s.succeed (.lines (.ofVerdicts verdicts)) (events ++ started :: lineEvents) with
            counts := verdicts.flatMap Line.lineCounts }

/-- Show the rules that are in force. -/
def listRules (s : Surroundings) (config : String) (rulesDir : Option String) : Outcome :=
  s.withConfig config [] fun c events =>
    let dir := rulesDirOf rulesDir c
    let started : Trace.Event :=
      { level := .info, message := "loading detection rules",
        fields := [("rules_dir", Text.quotedOptionalPath dir)] }
    s.withEngine dir (events ++ [started]) fun e events =>
      s.succeed (.rules (.ofEngine e dir)) events

/-- Check the rule files of a directory. -/
def validateRules (s : Surroundings) (path : String) : Outcome :=
  let started : Trace.Event :=
    { level := .info, message := "validating detection rules", fields := [("path", path)] }
  match Rule.listFiles s.files path with
  | .error f => s.fail (.ofPipeline f) [started]
  | .ok files =>
      let report := RuleFileReport.ofFiles s.files path files
      let done := s.succeed (.ruleFiles report) (started :: RuleFileReport.eventsOf s.files files)
      { done with
        failure :=
          if report.faults.isEmpty then none
          else some (.rule (toString report.invalid ++ " invalid rule file(s)")) }

/-- Check the configuration file, which has to be there. -/
def validateConfig (s : Surroundings) (config : String) : Outcome :=
  let started : Trace.Event :=
    { level := .info, message := "validating configuration", fields := [("path", config)] }
  let loaded := Config.load s.files s.environment config
  let fault :=
    match loaded.result with
    | .ok _ => none
    | .error f => some f.message
  { s.succeed (.configCheck ⟨config, fault⟩) (started :: loaded.events) with
    failure := fault.map fun _ => .config "configuration is invalid" }

/-- Show the settings that are in force. -/
def showConfig (s : Surroundings) (config : String) (part : Option String) : Outcome :=
  let started : Trace.Event :=
    { level := .info, message := "loading configuration", fields := [("path", config)] }
  s.withConfig config [started] fun c events =>
    match part with
    | none => s.succeed (.config ⟨config, none, c⟩) events
    | some name =>
        match ConfigPart.ofName? name with
        | some part => s.succeed (.config ⟨config, some part, c⟩) events
        | none =>
            s.fail (.command ("unknown section: " ++ name ++ " (expected: general, etl)")) events

/-- Run a command. -/
def Invocation.run (i : Invocation) (s : Surroundings) : Outcome :=
  match i.command with
  | .process rawDir sampleDir rulesDir => process s i.config rawDir sampleDir rulesDir
  | .check lines rulesDir => check s i.config lines rulesDir
  | .listRules rulesDir => listRules s i.config rulesDir
  | .validateRules path => validateRules s path
  | .validateConfig => validateConfig s i.config
  | .showConfig part => showConfig s i.config part

end ThreatMarker.Cli
