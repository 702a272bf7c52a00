import ThreatMarker.Line.Entry
import ThreatMarker.Record.Basic
import ThreatMarker.Text.Cut
import ThreatMarker.Trace.Event
/-
# Parsers of lines

A parser reads a line into a record or skips the line, and reports what it met.  The combined format
skips lines that are longer than a limit; a second format has its values between bars; a router tries
several parsers in order.
-/

namespace ThreatMarker.Line

set_option autoImplicit false

/-- The limit on the bytes of a line where nothing else is said. -/
def defaultMaxLength : Nat := 65536

/-- A way to read lines: the name of the format, the record of a line, and what reading it reports. -/
structure Parser where
  name : String
  read? : String → Option Record
  events : String → List Trace.Event := fun _ => []

/-! ## The combined format -/

/-- The record of the parts of a combined line. -/
def Entry.record (e : Entry) : Record :=
  { clientIp := String.ofList e.address
    timestamp := String.ofList e.timestamp
    method := String.ofList e.method
    path := String.ofList e.path
    referer := String.ofList e.referer
    userAgent := String.ofList e.agent
    statusCode := String.ofList e.status }

/-- The record of a combined line of any length. -/
def readCombined? (line : String) : Option Record :=
  (Entry.ofChars? (Unicode.trimBlank line.toList)).map Entry.record

/-- The event of a line that is too long. -/
def tooLongEvent (maxLength : Nat) (line : String) : Trace.Event :=
  { level := .trace, message := "line exceeds max length, skipping",
    fields := [("len", toString line.utf8ByteSize), ("max", toString maxLength)] }

/-- Combined lines of at most a length. -/
def Parser.combined (maxLength : Nat) : Parser where
  name := "combined"
  read? line := if maxLength < line.utf8ByteSize then none else readCombined? line
  events line := if maxLength < line.utf8ByteSize then [tooLongEvent maxLength line] else []

/-! ## The barred format -/

/-- The record of a line whose first four values are address, method, path and status. -/
def readBarred? (line : String) : Option Record :=
  match Text.cutAt '|' line.toList with
  | address :: method :: path :: status :: _ =>
      some { clientIp := String.ofList address, method := String.ofList method,
             path := String.ofList path, statusCode := String.ofList status }
  | _ => none

namespace Parser

/-- Lines whose values stand between bars. -/
def barred : Parser where
  name := "pipe"
  read? := readBarred?

/-! ## Several formats -/

/-- The parsers that are tried on a line: those up to the first that reads it. -/
def tried (line : String) : List Parser → List Parser
  | [] => []
  | p :: rest => if (p.read? line).isSome then [p] else p :: tried line rest

/-- The first of several parsers that reads a line. -/
def router (parsers : List Parser) : Parser where
  name := "router"
  read? line := parsers.findSome? (fun p => p.read? line)
  events line := (tried line parsers).flatMap (fun p => p.events line)

/-- The router for combined lines of at most a length. -/
def limited (maxLength : Nat) : Parser := router [combined maxLength]

/-- The router for combined lines of at most the usual length. -/
def standard : Parser := limited defaultMaxLength

@[simp] theorem read?_limited (maxLength : Nat) (line : String) :
    (limited maxLength).read? line = (combined maxLength).read? line := by
  cases h : (combined maxLength).read? line <;> simp [limited, router, h]

/-- A line over the limit is skipped. -/
theorem read?_combined_of_lt {maxLength : Nat} {line : String}
    (h : maxLength < line.utf8ByteSize) : (combined maxLength).read? line = none := by
  simp [combined, h]

end Parser

end ThreatMarker.Line
