import ThreatMarker.Gzip.Member
import ThreatMarker.Text.Utf8
/-
# Lines of a byte stream

A stream is cut into lines without ever holding more of a line than a limit: a window of at most that
many bytes is filled up to the next line break, and if it ends before one, the rest of the line is
passed over.  Where the stream has a fault, the line that it interrupts does not count.
-/

namespace ThreatMarker.Batch

set_option autoImplicit false

open Text (Bytes)

def lineFeed : UInt8 := 10

def carriageReturn : UInt8 := 13

/-- Up to `room` bytes, at most to the next line break, which is included; and the bytes after them.
The bytes before are in `taken` with the last one first. -/
def fillWindow : Nat → Bytes → Bytes → Bytes × Bytes
  | 0, taken, bytes => (taken.reverse, bytes)
  | _ + 1, taken, [] => (taken.reverse, [])
  | room + 1, taken, b :: bytes =>
      if b = lineFeed then ((b :: taken).reverse, bytes)
      else fillWindow room (b :: taken) bytes

/-- The window never grows the stream: taken and remaining bytes are those that were there. -/
theorem fillWindow_append (room : Nat) (taken bytes : Bytes) :
    (fillWindow room taken bytes).1 ++ (fillWindow room taken bytes).2 = taken.reverse ++ bytes := by
  fun_induction fillWindow room taken bytes <;> simp_all

theorem length_fillWindow (room : Nat) (b : UInt8) (bytes : Bytes) :
    (fillWindow (room + 1) [] (b :: bytes)).2.length < (b :: bytes).length := by
  have key : ∀ (room : Nat) (taken bytes : Bytes), taken ≠ [] →
      (fillWindow room taken bytes).1 ≠ [] := by
    intro room taken bytes
    fun_induction fillWindow room taken bytes <;> simp_all
  have nonempty : (fillWindow (room + 1) [] (b :: bytes)).1 ≠ [] := by
    unfold fillWindow
    split
    · simp
    · exact key _ _ _ (by simp)
  have total := congrArg List.length (fillWindow_append (room + 1) [] (b :: bytes))
  have pos := List.length_pos_iff.2 nonempty
  simp only [List.length_append, List.length_reverse, List.length_nil] at total
  omega

/-- The bytes after the next line break. -/
def afterLine (bytes : Bytes) : Bytes := (bytes.dropWhile (· != lineFeed)).drop 1

theorem length_afterLine (bytes : Bytes) : (afterLine bytes).length ≤ bytes.length := by
  have := (List.dropWhile_suffix (l := bytes) (· != lineFeed)).length_le
  simp only [afterLine, List.length_drop]
  omega

/-- What the stream was cut into: a line, or a line of which only the beginning was held. -/
inductive Piece where
  | line (content : Bytes)
  | overlong
  deriving Repr, DecidableEq

/-- Bytes without one given byte at their end. -/
def dropLast? (b : UInt8) (bytes : Bytes) : Bytes :=
  if bytes.getLast? = some b then bytes.dropLast else bytes

/-- The content of a line. -/
def lineContent (window : Bytes) : Bytes := dropLast? carriageReturn (dropLast? lineFeed window)

/-- Cut a stream into lines; the lines so far are in `acc` with the last one first.  `broken` says
whether the stream has a fault at its end. -/
def cutStream (maxLength : Nat) (broken : Bool) (acc : List Piece) (bytes : Bytes) : List Piece :=
  match bytes with
  | [] => acc.reverse
  | b :: rest =>
      let filled := fillWindow (maxLength + 2) [] (b :: rest)
      if filled.1.getLast? = some lineFeed then
        cutStream maxLength broken (.line (lineContent filled.1) :: acc) filled.2
      else if filled.1.length = maxLength + 2 then
        if broken && !filled.2.contains lineFeed then acc.reverse
        else cutStream maxLength broken (.overlong :: acc) (afterLine filled.2)
      else if broken then acc.reverse
      else (.line (lineContent filled.1) :: acc).reverse
termination_by bytes.length
decreasing_by
  · exact length_fillWindow _ _ _
  · exact Nat.lt_of_le_of_lt (length_afterLine _) (length_fillWindow _ _ _)

/-- The lines of a stream. -/
def pieces (maxLength : Nat) (s : Gzip.Stream) : List Piece :=
  cutStream maxLength s.fault.isSome [] s.bytes

end ThreatMarker.Batch
