import ThreatMarker.Record.Basic
/-
# Statistics

How many lines of a file were read, how many of them were skipped, how many became rows, and how many
rows were flagged.
-/

namespace ThreatMarker.Batch

set_option autoImplicit false

structure Stats where
  linesRead : Nat := 0
  linesSkipped : Nat := 0
  rows : Nat := 0
  flagged : Nat := 0
  deriving Repr, DecidableEq, Inhabited

namespace Stats

/-- The statistics of lines that became rows or were skipped. -/
def ofLines (lines : List (Option Row)) : Stats :=
  { linesRead := lines.length
    linesSkipped := lines.countP Option.isNone
    rows := lines.countP Option.isSome
    flagged := lines.countP (fun line => line.any Row.isFlagged) }

def add (a b : Stats) : Stats :=
  { linesRead := a.linesRead + b.linesRead
    linesSkipped := a.linesSkipped + b.linesSkipped
    rows := a.rows + b.rows
    flagged := a.flagged + b.flagged }

/-- The sum of statistics. -/
def total (all : List Stats) : Stats := all.foldl add {}

end Stats

end ThreatMarker.Batch
