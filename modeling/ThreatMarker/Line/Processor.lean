import ThreatMarker.Line.Parser
import ThreatMarker.Rule.Engine
import ThreatMarker.Text.Quoted
import ThreatMarker.Trace.Counters
/-
# Marking lines

A processor reads a line, evaluates the record by its rules and makes the marked row.  It reports what
it counts and which records it flags.
-/

namespace ThreatMarker.Line

set_option autoImplicit false

open Rule (Engine Evaluation)

/-- A record and the rules that matched it. -/
structure Verdict where
  record : Record
  evaluation : Evaluation
  deriving Repr, DecidableEq

namespace Verdict

/-- The marked row. -/
def row (v : Verdict) : Row := .ofRecord v.record v.evaluation.mark

@[simp] theorem isFlagged_row (v : Verdict) : v.row.isFlagged = v.evaluation.isFlagged :=
  Row.isFlagged_ofRecord _ _

/-- What is counted for a record. -/
def counts (v : Verdict) : List String :=
  v.evaluation.names.map (fun name => Trace.labelled Trace.ruleMatches "rule" name)
    ++ if v.evaluation.isFlagged then [Trace.recordsFlagged] else []

/-- What is reported of a record. -/
def events (v : Verdict) : List Trace.Event :=
  if v.evaluation.isFlagged then
    [{ level := .debug, message := "record flagged",
       fields := [("client_ip", v.record.clientIp), ("path", v.record.path),
         ("rules", Text.quotedList v.evaluation.names)] }]
  else []

end Verdict

/-- What is counted for a line with this verdict. -/
def lineCounts (verdict : Option Verdict) : List String :=
  Trace.linesRead ::
    match verdict with
    | none => [Trace.linesSkipped]
    | some v => v.counts

/-- A parser and an engine. -/
structure Processor where
  parser : Parser
  engine : Engine := .empty

namespace Processor

/-- The name of the format that is read. -/
def formatName (p : Processor) : String := p.parser.name

/-- Judge a record by the rules. -/
def judge (p : Processor) (r : Record) : Verdict := ⟨r, p.engine.evaluate r⟩

/-- Judge the record of a line, unless the line is skipped. -/
def judgeLine? (p : Processor) (line : String) : Option Verdict :=
  (p.parser.read? line).map p.judge

/-- The row of a line, unless the line is skipped. -/
def row? (p : Processor) (line : String) : Option Row := (p.judgeLine? line).map Verdict.row

end Processor

namespace Parser

/-! ## Description -/

/-- A processor with this parser and without rules, as one text. -/
def describe (p : Parser) : String :=
  "LineProcessor \x7b parser: " ++ Text.quoted p.name
    ++ ", engine: RuleEngine \x7b rules: [] \x7d \x7d"

/-- A processor with this parser and without rules, one value a line. -/
def describeIndented (p : Parser) : String :=
  String.intercalate "\n" [
    "LineProcessor \x7b",
    "    parser: " ++ Text.quoted p.name ++ ",",
    "    engine: RuleEngine \x7b",
    "        rules: [],",
    "    \x7d,",
    "\x7d"]

end Parser

end ThreatMarker.Line
