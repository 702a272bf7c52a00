import ThreatMarker.Batch.File
import ThreatMarker.Batch.Output
import ThreatMarker.Batch.Settings
import ThreatMarker.Rule.Loader
/-
# Converting a directory

A job converts every compressed log of a directory into a file of marked rows.  The logs are taken in
the order of their names.  A log that cannot be converted is noted as a failure, and the job goes on.
-/

namespace ThreatMarker.Batch

set_option autoImplicit false

open Files (FileTree Node)
open Line (Parser Processor)
open Rule (Engine Reported)

/-- Settings and the processor for the lines. -/
structure Job where
  settings : Settings
  processor : Processor

/-! ## Setting up -/

/-- What is reported of rules that came from a directory. -/
def loadedEvents (dir : Option String) (count : Nat) : List Trace.Event :=
  match dir with
  | none => []
  | some dir =>
      [{ level := .info, message := "extra rules loaded",
         fields := [("dir", dir), ("loaded", toString count)] }]

namespace Job

/-- A job with rules that were prepared, and a parser of its own or the usual one. -/
def ofPrepared (s : Settings) (parser : Option Parser) (prepared : Reported (Nat × Engine)) :
    Reported Job :=
  match prepared.result with
  | .error f => ⟨.error f, prepared.events⟩
  | .ok (count, e) =>
      let parser := parser.getD (.limited s.maxLineLength)
      ⟨.ok ⟨s, ⟨parser, e⟩⟩, prepared.events ++ loadedEvents s.rulesDir count⟩

/-- A job for settings that are in order, with a parser of its own or the usual one. -/
def prepare (t : FileTree) (s : Settings) (parser : Option Parser) : Reported Job :=
  match s.validate with
  | .error f => ⟨.error f, []⟩
  | .ok () => ofPrepared s parser (Engine.prepare t s.rulesDir)

end Job

/-! ## Finding the logs -/

/-- Whether an entry of a directory is a log: a regular file whose name ends in an extension. -/
def isLog (extension : String) (entry : String × Node) : Bool :=
  entry.2.isFile && extension.toList.isSuffixOf entry.1.toList

/-- The paths of the logs among the entries of a directory, in the order of their names. -/
def logsAmong (dir extension : String) (entries : List (String × Node)) : List String :=
  ((FileTree.inOrder entries).filter (isLog extension)).map (fun e => Files.Path.join dir e.1)

/-- The paths of the logs in a directory, in the order of their names. -/
def scan (t : FileTree) (dir extension : String) : Except Failure (List String) :=
  match t.entries dir with
  | .error e => .error (.input dir ("failed to read input directory: " ++ e.message))
  | .ok entries => .ok (logsAmong dir extension entries)

/-! ## Converting -/

/-- A log that was converted. -/
structure FileReport where
  input : String
  output : String
  stats : Stats
  deriving Repr, DecidableEq

/-- A log that was not converted. -/
structure FileFailure where
  input : String
  reason : String
  deriving Repr, DecidableEq

/-- What came of all logs. -/
structure Report where
  files : List FileReport := []
  failures : List FileFailure := []
  deriving Repr, DecidableEq

namespace Report

def totals (r : Report) : Stats := Stats.total (r.files.map FileReport.stats)

def isClean (r : Report) : Bool := r.failures.isEmpty

end Report

/-- The files after some logs, what came of the logs, and what was counted and reported.  The latest
come first. -/
structure Progress where
  tree : FileTree
  files : List FileReport := []
  failures : List FileFailure := []
  counts : List (List String) := []
  events : List (List Trace.Event) := []

namespace Job

/-- Convert one log. -/
def convert (job : Job) (stamp : Stamp) (t : FileTree) (input : String) :
    Except Failure FileReport × FileTree × List String × List Trace.Event :=
  let read := readLog job.processor t input job.settings.maxLineLength
  match read.result with
  | .error f => (.error f, t, read.counts, read.events)
  | .ok content =>
      match createOutput t job.settings.sampleDir job.settings.outputPrefix stamp with
      | (.error f, t) => (.error f, t, read.counts, read.events)
      | (.ok file, t) =>
          match writeRows t file.place content.rows with
          | .error f => (.error f, t, read.counts, read.events)
          | .ok t => (.ok ⟨input, file.path, content.stats⟩, t, read.counts, read.events)

/-- The event of a log that was converted. -/
def processedEvent (r : FileReport) : Trace.Event :=
  { level := .info, message := "file processed",
    fields := [("input", r.input), ("output", r.output), ("rows", toString r.stats.rows),
      ("flagged", toString r.stats.flagged), ("skipped", toString r.stats.linesSkipped)] }

/-- The event of a log that was not converted. -/
def failedEvent (f : FileFailure) : Trace.Event :=
  { level := .warn, message := "file failed, continuing",
    fields := [("input", f.input), ("error", f.reason)] }

/-- Convert the next log. -/
def step (job : Job) (stamp : Stamp) (p : Progress) (input : String) : Progress :=
  let counted := fun (result : String) => Trace.labelled Trace.filesProcessed "result" result
  match job.convert stamp p.tree input with
  | (.ok report, tree, counts, events) =>
      { p with
        tree := tree
        files := report :: p.files
        counts := (counts ++ [counted "ok"]) :: p.counts
        events := (events ++ [processedEvent report]) :: p.events }
  | (.error f, tree, counts, events) =>
      let failure : FileFailure := ⟨input, f.message⟩
      { p with
        tree := tree
        failures := failure :: p.failures
        counts := (counts ++ [counted "error"]) :: p.counts
        events := (events ++ [failedEvent failure]) :: p.events }

/-- A job that was run. -/
structure Run where
  result : Except Failure Report
  tree : FileTree
  counts : List String := []
  events : List Trace.Event := []

/-- Convert all logs, each at the moment that a clock shows then. -/
def runAt (job : Job) (clock : String → Stamp) (t : FileTree) : Run :=
  match scan t job.settings.rawDir job.settings.inputExtension with
  | .error f => { result := .error f, tree := t }
  | .ok inputs =>
      let p := inputs.foldl (fun p input => job.step (clock input) p input) { tree := t }
      let report : Report := ⟨p.files.reverse, p.failures.reverse⟩
      let started : Trace.Event :=
        { level := .info, message := "batch started",
          fields := [("raw_dir", job.settings.rawDir), ("files", toString inputs.length)] }
      let finished : Trace.Event :=
        { level := .info, message := "batch finished",
          fields := [("files", toString report.files.length),
            ("failures", toString report.failures.length),
            ("rows", toString report.totals.rows), ("flagged", toString report.totals.flagged)] }
      { result := .ok report
        tree := p.tree
        counts := p.counts.reverse.flatten
        events := started :: (p.events.reverse.flatten ++ [finished]) }

/-- Convert all logs at one moment. -/
def run (job : Job) (stamp : Stamp) (t : FileTree) : Run := job.runAt (fun _ => stamp) t

end Job

end ThreatMarker.Batch
