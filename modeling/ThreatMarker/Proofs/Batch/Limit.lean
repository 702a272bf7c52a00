import ThreatMarker.Proofs.Batch.Lines
/-
# What the window keeps out

The window of a reader has room for a line of the limit and for both bytes of a line end.  A line that is
longer by one byte fits it too, unless both bytes end it: it is left to the parser, which may have a
greater limit or none (`limit_exceeded_by_one_byte`).  Longer lines are skipped whatever the parser is.
So the limit is kept, and rows do not depend on how lines end, exactly as far as the parser skips the
lines of this one length (`limit_kept_iff`).
-/

namespace ThreatMarker.Batch

set_option autoImplicit false

open Line (Parser Processor Verdict)
open Text (Bytes)

variable {p : Processor} {maxLength : Nat} {line : Bytes}

/-! ## Rows by lines -/

/-- The row that the reader with a window makes of a line. -/
def windowRow? (p : Processor) (maxLength : Nat) (line : Bytes) : Option Row :=
  (judgePiece? p.judgeLine? (pieceOf maxLength line)).map Verdict.row

theorem windowRow?_of_overlong (long : maxLength + 2 ≤ line.length) :
    windowRow? p maxLength line = none := by
  rw [windowRow?, pieceOf, if_pos long]
  rfl

theorem windowRow?_of_held (held : line.length < maxLength + 2) :
    windowRow? p maxLength line = rowOfLine? p line := by
  rw [windowRow?, pieceOf, if_neg (Nat.not_le.2 held)]
  rfl

/-- A stream without a fault gives what its lines give, whatever the parser is. -/
theorem result_readStream (p : Processor) (path : String) (maxLength : Nat) (bytes : Bytes) :
    (readStream p path maxLength ⟨bytes, none⟩).result =
      .ok ⟨(linesOf bytes).filterMap (windowRow? p maxLength),
        Stats.ofLines ((linesOf bytes).map (windowRow? p maxLength))⟩ := by
  simp only [readStream, pieces_of_whole, contentOf, List.map_map, List.filterMap_map]
  rfl

/-! ## Ends of lines -/

theorem content_of_open (ends : line.getLast? ≠ some carriageReturn) :
    dropLast? carriageReturn line = line := if_neg ends

theorem length_content_of_closed (ends : line.getLast? = some carriageReturn) :
    (dropLast? carriageReturn line).length + 1 = line.length := by
  obtain ⟨front, rfl⟩ := List.getLast?_eq_some_iff.1 ends
  simp [dropLast?]

/-- A line has the content of the line that a carriage return ends. -/
theorem rowOfLine?_closed (p : Processor) (ends : line.getLast? ≠ some carriageReturn) :
    rowOfLine? p (line ++ [carriageReturn]) = rowOfLine? p line := by
  have content : dropLast? carriageReturn (line ++ [carriageReturn]) = line := by simp [dropLast?]
  rw [rowOfLine?, rowOfLine?, content, content_of_open ends]

/-- A line over the limit of which the reader makes a row is too long by one byte, and no carriage
return ends it. -/
theorem exceeds_iff :
    maxLength < (dropLast? carriageReturn line).length ∧ windowRow? p maxLength line ≠ none ↔
      line.length = maxLength + 1 ∧ line.getLast? ≠ some carriageReturn ∧ rowOfLine? p line ≠ none := by
  by_cases held : line.length < maxLength + 2
  · rw [windowRow?_of_held held]
    by_cases ends : line.getLast? = some carriageReturn
    · have := length_content_of_closed ends
      simp only [ends, ne_eq, not_true_eq_false, false_and, and_false, iff_false, not_and]
      omega
    · rw [content_of_open ends]
      simp only [ends, ne_eq, not_false_eq_true, true_and]
      refine and_congr_left fun _ => ?_
      omega
  · rw [windowRow?_of_overlong (Nat.not_lt.1 held)]
    simp only [ne_eq, not_true_eq_false, and_false, false_iff, not_and]
    omega

/-- Whether a carriage return stands before the line feed matters to lines that are too long by one byte
alone. -/
theorem windowRow?_closed_iff (ends : line.getLast? ≠ some carriageReturn) :
    windowRow? p maxLength (line ++ [carriageReturn]) = windowRow? p maxLength line ↔
      (line.length = maxLength + 1 → rowOfLine? p line = none) := by
  have length : (line ++ [carriageReturn]).length = line.length + 1 := by simp
  rcases Nat.lt_trichotomy line.length (maxLength + 1) with short | same | long
  · rw [windowRow?_of_held (by omega), windowRow?_of_held (by omega), rowOfLine?_closed p ends]
    simp only [true_iff]
    omega
  · rw [windowRow?_of_overlong (by omega), windowRow?_of_held (by omega), eq_comm]
    simp [same]
  · rw [windowRow?_of_overlong (by omega), windowRow?_of_overlong (by omega)]
    simp only [true_iff]
    omega

/-! ## The limit -/

/-- **The limit is kept exactly if the parser skips the lines that are too long by one byte**, those
apart that a carriage return ends.  The rows of a file are those of its lines; none of them is of a line
over the limit exactly if no line of the one length is read; and a line gives the same with a line feed
and with a carriage return before it exactly if it is not of the one length or is not read. -/
theorem limit_kept_iff (p : Processor) (maxLength : Nat) (bytes : Bytes) :
    (∀ path : String, (readStream p path maxLength ⟨bytes, none⟩).result =
      .ok ⟨(linesOf bytes).filterMap (windowRow? p maxLength),
        Stats.ofLines ((linesOf bytes).map (windowRow? p maxLength))⟩) ∧
    ((∀ line ∈ linesOf bytes, maxLength < (dropLast? carriageReturn line).length →
        windowRow? p maxLength line = none) ↔
      ∀ line ∈ linesOf bytes, line.length = maxLength + 1 → line.getLast? ≠ some carriageReturn →
        rowOfLine? p line = none) ∧
    ∀ line : Bytes, line.getLast? ≠ some carriageReturn →
      (windowRow? p maxLength (line ++ [carriageReturn]) = windowRow? p maxLength line ↔
        (line.length = maxLength + 1 → rowOfLine? p line = none)) := by
  refine ⟨fun path => result_readStream p path maxLength bytes, ?_, fun line ends =>
    windowRow?_closed_iff ends⟩
  refine forall₂_congr fun line _ => ?_
  have exceeds := not_congr (@exceeds_iff p maxLength line)
  simpa only [not_and, not_not, ne_eq] using exceeds

/-- A row of the sample line as the standard parser reads it. -/
def sampleRow : Row :=
  .ofRecord
    { clientIp := "a", timestamp := "t", method := "b", path := "c", referer := "r"
      userAgent := "u", statusCode := "1" } .no

/-- A parser with the usual limit reads a line that is over a smaller limit of the file by one byte, if a
line feed alone ends it. -/
theorem limit_exceeded_by_one_byte :
    sampleLine.length = 28 + 1 ∧
      (readStream ⟨.standard, .empty⟩ "a.gz" 28 ⟨sampleLine ++ [lineFeed], none⟩).result =
        .ok ⟨[sampleRow], ⟨1, 0, 1, 0⟩⟩ ∧
      (readStream ⟨.standard, .empty⟩ "a.gz" 28
          ⟨sampleLine ++ [carriageReturn, lineFeed], none⟩).result = .ok ⟨[], ⟨1, 1, 0, 0⟩⟩ := by
  have read := read?_limited_decodeLossy Line.defaultMaxLength sampleLine
  rw [if_neg (by decide +kernel), show Line.Entry.ofChars? (Unicode.trimBlank (Text.decodeFrom [] 0
    (dropLast? carriageReturn sampleLine))) = some ⟨['a'], ['t'], ['b'], ['c'], ['d'], ['1'], ['2'],
      ['r'], ['u'], []⟩ by decide +kernel] at read
  have row : windowRow? ⟨.standard, .empty⟩ 28 sampleLine = some sampleRow := by
    rw [windowRow?_of_held (by decide)]
    simp only [rowOfLine?, Processor.row?, Processor.judgeLine?, Parser.standard, read]
    rfl
  have skipped : windowRow? ⟨.standard, .empty⟩ 28 (sampleLine ++ [carriageReturn]) = none :=
    windowRow?_of_overlong (by decide)
  have lines : linesOf (sampleLine ++ [lineFeed]) = [sampleLine] := by decide +kernel
  have lines' : linesOf (sampleLine ++ [carriageReturn, lineFeed]) =
      [sampleLine ++ [carriageReturn]] := by decide +kernel
  refine ⟨by decide, ?_, ?_⟩
  · simp only [result_readStream, lines, List.filterMap_cons, List.filterMap_nil, List.map_cons,
      List.map_nil, row]
    rfl
  · simp only [result_readStream, lines', List.filterMap_cons, List.filterMap_nil, List.map_cons,
      List.map_nil, skipped]
    rfl

end ThreatMarker.Batch
