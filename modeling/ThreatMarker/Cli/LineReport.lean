import ThreatMarker.Cli.Palette
import ThreatMarker.Json.Printer
import ThreatMarker.Line.Processor
/-
# Report about lines

One entry for every line, whether it was skipped or marked, and how many there are of each kind.
-/

namespace ThreatMarker.Cli

set_option autoImplicit false

open Json (Value)
open Line (Processor Verdict)

/-- What is said about one line.  Lines are counted from one. -/
structure LineEntry where
  line : Nat
  verdict : Option Verdict
  deriving Repr, DecidableEq

namespace LineEntry

/-- Whether the line was read, and not skipped. -/
def parsed (e : LineEntry) : Bool := e.verdict.isSome

/-- A value of the row of the line, which is empty if the line was skipped. -/
def valueOf (f : Row → String) (e : LineEntry) : String := (e.verdict.map fun v => f v.row).getD ""

def clientIp (e : LineEntry) : String := e.valueOf Row.clientIp

def respStatus (e : LineEntry) : String := e.valueOf Row.respStatus

def featureMarked (e : LineEntry) : String := e.valueOf fun r => r.featureMarked.text

/-- The names of the rules that matched. -/
def matchedRules (e : LineEntry) : List String :=
  (e.verdict.map fun v => v.evaluation.names).getD []

def isFlagged (e : LineEntry) : Bool := e.featureMarked == "Yes"

def toJson (e : LineEntry) : Value :=
  .object [("line", .int e.line), ("parsed", .bool e.parsed), ("client_ip", .string e.clientIp),
    ("resp_status", .string e.respStatus), ("feature_marked", .string e.featureMarked),
    ("matched_rules", .array (e.matchedRules.map .string))]

def markStyle (e : LineEntry) : Style :=
  if e.isFlagged then .strongColoured .red else .coloured .green

def text (p : Palette) (e : LineEntry) : String :=
  let number := left 6 (toString e.line) ++ " "
  if e.parsed then
    number ++ left 40 e.clientIp ++ " " ++ left 7 e.respStatus ++ " "
      ++ p.paintIn e.markStyle (left 7) e.featureMarked ++ " "
      ++ String.intercalate ", " e.matchedRules
  else number ++ p.paint (.coloured .yellow) "(unparseable, skipped)"

end LineEntry

/-- What is said about lines. -/
structure LineReport where
  entries : List LineEntry
  deriving Repr, DecidableEq

namespace LineReport

/-- The report about lines with these verdicts. -/
def ofVerdicts (verdicts : List (Option Verdict)) : LineReport :=
  ⟨verdicts.zipIdx.map fun v => ⟨v.2 + 1, v.1⟩⟩

/-- Judge lines. -/
def ofLines (p : Processor) (lines : List String) : LineReport :=
  ofVerdicts (lines.map p.judgeLine?)

def total (r : LineReport) : Nat := r.entries.length

def flagged (r : LineReport) : Nat := r.entries.countP LineEntry.isFlagged

def skipped (r : LineReport) : Nat := r.entries.countP (fun e => !e.parsed)

def toJson (r : LineReport) : Value :=
  .object [("total", .int r.total), ("flagged", .int r.flagged), ("skipped", .int r.skipped),
    ("results", .array (r.entries.map LineEntry.toJson))]

def text (p : Palette) (r : LineReport) : String :=
  let title := left 6 "Line" ++ " " ++ left 40 "Client" ++ " " ++ left 7 "Status" ++ " "
    ++ left 7 "Marked" ++ " Rules"
  let sum := toString r.total ++ " lines, " ++ p.paint .strong (toString r.flagged)
    ++ " flagged, " ++ toString r.skipped ++ " skipped"
  unlines ([title, dashes 80] ++ r.entries.map (LineEntry.text p) ++ ["", sum])

theorem total_ofVerdicts (verdicts : List (Option Verdict)) :
    (ofVerdicts verdicts).total = verdicts.length := by simp [ofVerdicts, total]

/-- The verdicts of the entries are those that were given, in their order. -/
theorem verdicts_ofVerdicts (verdicts : List (Option Verdict)) :
    (ofVerdicts verdicts).entries.map LineEntry.verdict = verdicts := by
  simp only [ofVerdicts, List.map_map, Function.comp_def]
  exact List.zipIdx_map_fst 0 verdicts

end LineReport

end ThreatMarker.Cli
