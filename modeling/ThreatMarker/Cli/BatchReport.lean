import ThreatMarker.Batch.Job
import ThreatMarker.Cli.Palette
/-
# Report about a batch

What became of every log of a directory, and the sum over the logs that were converted.
-/

namespace ThreatMarker.Cli

set_option autoImplicit false

open Json (Value)
open Batch (FileFailure FileReport Stats)

structure BatchReport where
  rawDir : String
  sampleDir : String
  report : Batch.Report
  deriving Repr, DecidableEq

namespace BatchReport

def statsMembers (s : Stats) : List (String × Value) :=
  [("lines_read", .int s.linesRead), ("lines_skipped", .int s.linesSkipped),
    ("rows", .int s.rows), ("flagged", .int s.flagged)]

def toJson (r : BatchReport) : Value :=
  let file := fun (f : FileReport) =>
    Value.object ([("input", .string f.input), ("output", .string f.output)]
      ++ statsMembers f.stats)
  let failure := fun (f : FileFailure) =>
    Value.object [("input", .string f.input), ("reason", .string f.reason)]
  .object [("raw_dir", .string r.rawDir), ("sample_dir", .string r.sampleDir),
    ("files", .array (r.report.files.map file)),
    ("failures", .array (r.report.failures.map failure)),
    ("totals", .object (statsMembers r.report.totals))]

def columns (input lines skipped rows flagged output : String) : String :=
  left 40 input ++ " " ++ right 10 lines ++ " " ++ right 8 skipped ++ " " ++ right 10 rows ++ " "
    ++ flagged ++ "  " ++ output

def fileText (p : Palette) (f : FileReport) : String :=
  let style := if f.stats.flagged = 0 then Style.plain else .coloured .red
  columns f.input (toString f.stats.linesRead) (toString f.stats.linesSkipped)
    (toString f.stats.rows) (p.paintIn style (right 8) (toString f.stats.flagged)) f.output

def failuresText (p : Palette) (failures : List FileFailure) : List String :=
  if failures.isEmpty then []
  else
    ["", "Failures:"]
      ++ failures.map fun f => "  " ++ p.paint (.coloured .red) f.input ++ ": " ++ f.reason

def text (p : Palette) (r : BatchReport) : String :=
  let title := "Processed " ++ p.paint .strong r.rawDir ++ " -> " ++ p.paint .strong r.sampleDir
  if r.report.files.isEmpty && r.report.failures.isEmpty then
    unlines [title, "", "  No input files found."]
  else
    let names := columns "Input" "Lines" "Skipped" "Rows" (right 8 "Flagged") "Output"
    let totals := r.report.totals
    let sum := "Total: " ++ toString r.report.files.length ++ " files, " ++ toString totals.rows
      ++ " rows, " ++ p.paint .strong (toString totals.flagged) ++ " flagged"
    unlines ([title, "", names, dashes 100] ++ r.report.files.map (fileText p) ++ ["", sum]
      ++ failuresText p r.report.failures)

end BatchReport

end ThreatMarker.Cli
