import ThreatMarker.Text.Utf8
/-
# Lines of the input

The input of a command is cut at every line feed; a carriage return before it belongs to the line
break.  Every line has to be a text.
-/

namespace ThreatMarker.Cli

set_option autoImplicit false

open Text (Bytes)

def lineFeed : UInt8 := 10

/-- Cut bytes after every line feed.  The bytes of the current line are in `current` with the last
one first, and so are the lines in `acc`. -/
def cutLines (acc : List Bytes) (current : Bytes) : Bytes → List Bytes
  | [] => (if current.isEmpty then acc else current.reverse :: acc).reverse
  | b :: rest =>
      if b = lineFeed then cutLines ((b :: current).reverse :: acc) [] rest
      else cutLines acc (b :: current) rest

/-- A line without its line break. -/
def withoutBreak (line : List Char) : List Char :=
  match line.reverse with
  | '\n' :: '\r' :: rest => rest.reverse
  | '\n' :: rest => rest.reverse
  | _ => line

/-- The text of a line. -/
def readLine (line : Bytes) : Except Text.Utf8Fault String :=
  match Text.decode line with
  | .error fault => .error fault
  | .ok text => .ok (String.ofList (withoutBreak text.toList))

/-- The lines of the input. -/
def inputLines (input : Bytes) : Except Text.Utf8Fault (List String) :=
  (cutLines [] [] input).mapM readLine

end ThreatMarker.Cli
