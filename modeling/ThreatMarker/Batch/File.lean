import ThreatMarker.Batch.Pieces
import ThreatMarker.Batch.Stats
import ThreatMarker.Failure
import ThreatMarker.Line.Processor
/-
# Reading a compressed file

The lines of a compressed file become rows in their order.  A file whose stream has a fault gives no
rows, but what was counted and reported before the fault stands.
-/

namespace ThreatMarker.Batch

set_option autoImplicit false

open Files (FileTree)
open Line (Processor Verdict)

/-- Rows and statistics of a file. -/
structure FileContent where
  rows : List Row
  stats : Stats
  deriving Repr, DecidableEq

/-- The text of a line. -/
def lineText (content : Text.Bytes) : String := Text.decodeLossy content

/-- What a piece of a stream is judged to be by a judge of lines. -/
def judgePiece? (judge : String → Option Verdict) : Piece → Option Verdict
  | .line content => judge (lineText content)
  | .overlong => none

/-- The content of a file whose lines got these verdicts. -/
def contentOf (verdicts : List (Option Verdict)) : FileContent :=
  let lines := verdicts.map (fun v => v.map Verdict.row)
  ⟨lines.filterMap id, Stats.ofLines lines⟩

/-- What is reported for the piece with this verdict at a place, counted from zero. -/
def pieceEvents (p : Processor) (path : String) (place : Nat) (piece : Piece)
    (verdict : Option Verdict) : List Trace.Event :=
  match piece with
  | .overlong =>
      [{ level := .debug, message := "overlong line skipped",
         fields := [("path", path), ("line", toString (place + 1))] }]
  | .line content =>
      p.parser.events (lineText content) ++
        match verdict with
        | some v => v.events
        | none => []

/-- A file that was read: what came of it, what was counted and what was reported. -/
structure FileRun where
  result : Except Failure FileContent
  counts : List String := []
  events : List Trace.Event := []

/-- Read the lines of a stream. -/
def readStream (p : Processor) (path : String) (maxLength : Nat) (s : Gzip.Stream) : FileRun :=
  let cut := pieces maxLength s
  let verdicts := cut.map (judgePiece? p.judgeLine?)
  { result := match s.fault with
      | none => .ok (contentOf verdicts)
      | some fault => .error (.input path ("failed to decompress input: " ++ fault.message))
    counts := verdicts.flatMap Line.lineCounts
    events := ((cut.zip verdicts).zipIdx).flatMap fun e =>
      pieceEvents p path e.2 e.1.1 e.1.2 }

/-- Read a compressed file. -/
def readLog (p : Processor) (t : FileTree) (path : String) (maxLength : Nat) : FileRun :=
  match t.openFile path with
  | .error e => { result := .error (.input path ("failed to open input: " ++ e.message)) }
  | .ok node =>
      match FileTree.contentOf node with
      | .error e => { result := .error (.input path ("failed to decompress input: " ++ e.message)) }
      | .ok content => readStream p path maxLength (Gzip.decompress content)

end ThreatMarker.Batch
