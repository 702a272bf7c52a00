import Mathlib.Data.List.TakeWhile
import ThreatMarker.Batch.File
import ThreatMarker.Proofs.Text.Utf8
/-
# The lines of a file

`linesOf` says what the lines of bytes are, without a window or a limit.  The reader with a window
finds the same lines in the same order (`cutStream_eq`): each is held as a whole, or, where it does not
fit the window, known to be too long.  A line that does not fit the window is longer than the limit
also when it is read as text, so a parser that skips such lines never misses one, and a file gives what
reading all of it at once gives.
-/

namespace ThreatMarker.Batch

set_option autoImplicit false

open Files (FileTree)
open Line (Parser Processor Verdict)
open Text (Bytes)

/-! ## Lines -/

/-- The lines of bytes: what stands before, between and after line feeds.  Bytes that end with a line
feed have no line after it. -/
def linesOf (bytes : Bytes) : List Bytes :=
  let cut := bytes.splitOn lineFeed
  if cut.getLast? = some [] then cut.dropLast else cut

@[simp] theorem linesOf_nil : linesOf [] = [] := rfl

theorem linesOf_last {line : Bytes} (nonempty : line ≠ []) (inline : lineFeed ∉ line) :
    linesOf line = [line] := by
  simp [linesOf, List.splitOn_eq_singleton inline, nonempty]

theorem linesOf_append {line rest : Bytes} (inline : lineFeed ∉ line) :
    linesOf (line ++ lineFeed :: rest) = line :: linesOf rest := by
  have more := List.splitOn_ne_nil lineFeed rest
  simp only [linesOf, List.splitOn_append_cons_self_of_not_mem inline]
  rw [List.getLast?_cons_of_ne_nil more, List.dropLast_cons_of_ne_nil more]
  split <;> rfl

/-- Bytes are empty, or one line without an end, or a line with its end before other bytes. -/
@[elab_as_elim]
theorem lines_induction {P : Bytes → Prop} (nil : P [])
    (last : ∀ line, line ≠ [] → lineFeed ∉ line → P line)
    (line : ∀ line rest, lineFeed ∉ line → P rest → P (line ++ lineFeed :: rest)) (bytes : Bytes) :
    P bytes := by
  by_cases ends : lineFeed ∈ bytes
  · obtain ⟨front, rest, cut, inline⟩ := List.eq_append_cons_of_mem ends
    have shorter : rest.length < bytes.length := by simp [cut]; omega
    exact cut ▸ line front rest inline (lines_induction nil last line rest)
  · by_cases empty : bytes = []
    · exact empty ▸ nil
    · exact last bytes empty ends
termination_by bytes.length

/-! ## The window -/

/-- A line that fits the window with its end fills it with nothing else. -/
theorem fillWindow_line (room : Nat) (taken line rest : Bytes) (inline : lineFeed ∉ line)
    (fits : line.length < room) :
    fillWindow room taken (line ++ lineFeed :: rest) = (taken.reverse ++ line ++ [lineFeed], rest) := by
  induction line generalizing room taken with
  | nil =>
      obtain ⟨room, rfl⟩ := Nat.exists_eq_add_of_lt fits
      simp [fillWindow]
  | cons b line ih =>
      simp only [List.mem_cons, not_or, List.length_cons] at inline fits
      obtain ⟨room, rfl⟩ : ∃ r, room = r + 1 := ⟨room - 1, by omega⟩
      rw [List.cons_append, fillWindow, if_neg (Ne.symm inline.1), ih _ _ inline.2 (by omega)]
      simp

/-- Without a line feed the window takes what it has room for. -/
theorem fillWindow_inline (room : Nat) (taken line rest : Bytes) (inline : lineFeed ∉ line)
    (full : rest = [] ∨ room ≤ line.length) :
    fillWindow room taken (line ++ rest) =
      (taken.reverse ++ line.take room, line.drop room ++ rest) := by
  induction line generalizing room taken with
  | nil =>
      rcases full with rfl | full
      · cases room <;> simp [fillWindow]
      · obtain rfl : room = 0 := by simpa using full
        simp [fillWindow]
  | cons b line ih =>
      simp only [List.mem_cons, not_or, List.length_cons] at inline full
      cases room with
      | zero => simp [fillWindow]
      | succ room =>
          rw [List.cons_append, fillWindow, if_neg (Ne.symm inline.1),
            ih _ _ inline.2 (full.imp_right (by omega))]
          simp

/-! ## The end of a line -/

theorem afterLine_line {line : Bytes} (rest : Bytes) (inline : lineFeed ∉ line) :
    afterLine (line ++ lineFeed :: rest) = rest := by
  have skipped : ∀ b ∈ line, (b != lineFeed) = true :=
    fun b member => bne_iff_ne.2 fun same => inline (same ▸ member)
  simp [afterLine, List.dropWhile_append_of_pos skipped]

theorem afterLine_last {line : Bytes} (inline : lineFeed ∉ line) : afterLine line = [] := by
  have skipped : ∀ b ∈ line, (b != lineFeed) = true :=
    fun b member => bne_iff_ne.2 fun same => inline (same ▸ member)
  simp [afterLine, List.dropWhile_eq_nil_iff.2 skipped]

theorem getLast?_ne_lineFeed {line : Bytes} (inline : lineFeed ∉ line) :
    line.getLast? ≠ some lineFeed :=
  fun last => inline (List.mem_of_getLast? last)

theorem lineContent_line (line : Bytes) :
    lineContent (line ++ [lineFeed]) = dropLast? carriageReturn line := by
  simp [lineContent, dropLast?]

theorem lineContent_last {line : Bytes} (inline : lineFeed ∉ line) :
    lineContent line = dropLast? carriageReturn line := by
  simp [lineContent, dropLast?, getLast?_ne_lineFeed inline]

/-! ## The reader with a window -/

/-- What the reader makes of a line. -/
def pieceOf (maxLength : Nat) (line : Bytes) : Piece :=
  if maxLength + 2 ≤ line.length then .overlong else .line (dropLast? carriageReturn line)

theorem cutStream_nil (maxLength : Nat) (broken : Bool) (acc : List Piece) :
    cutStream maxLength broken acc [] = acc.reverse := by
  rw [cutStream]

/-- One line is cut off with its end. -/
theorem cutStream_line (maxLength : Nat) (acc : List Piece) (line rest : Bytes)
    (inline : lineFeed ∉ line) :
    cutStream maxLength false acc (line ++ lineFeed :: rest) =
      cutStream maxLength false (pieceOf maxLength line :: acc) rest := by
  obtain ⟨b, more, same⟩ : ∃ b more, line ++ lineFeed :: rest = b :: more :=
    List.exists_cons_of_ne_nil (by simp)
  rw [same, cutStream, ← same]
  by_cases long : maxLength + 2 ≤ line.length
  · have held : lineFeed ∉ line.take (maxLength + 2) := fun h => inline (List.mem_of_mem_take h)
    have passed : lineFeed ∉ line.drop (maxLength + 2) := fun h => inline (List.mem_of_mem_drop h)
    simp [fillWindow_inline _ _ _ _ inline (.inr long), getLast?_ne_lineFeed held, long,
      afterLine_line rest passed, pieceOf]
  · simp [fillWindow_line _ _ _ _ inline (show line.length < maxLength + 2 by omega),
      lineContent_line, long, pieceOf]

/-- The last line may have no end. -/
theorem cutStream_last (maxLength : Nat) (acc : List Piece) (line : Bytes) (nonempty : line ≠ [])
    (inline : lineFeed ∉ line) :
    cutStream maxLength false acc line = (pieceOf maxLength line :: acc).reverse := by
  obtain ⟨b, more, same⟩ := List.exists_cons_of_ne_nil nonempty
  have window := fillWindow_inline (maxLength + 2) [] line [] inline (.inl rfl)
  have held : lineFeed ∉ line.take (maxLength + 2) := fun h => inline (List.mem_of_mem_take h)
  have passed : lineFeed ∉ line.drop (maxLength + 2) := fun h => inline (List.mem_of_mem_drop h)
  simp only [List.append_nil, List.reverse_nil, List.nil_append] at window
  rw [same, cutStream, ← same]
  simp only [window, getLast?_ne_lineFeed held, if_false]
  by_cases long : maxLength + 2 ≤ line.length
  · simp [long, afterLine_last passed, cutStream_nil, pieceOf]
  · have short : line.take (maxLength + 2) = line := List.take_of_length_le (by omega)
    have open_ : ¬ line.length = maxLength + 2 := by omega
    simp [short, open_, long, lineContent_last inline, pieceOf]

/-- **The reader with a window finds the lines of the bytes**, in order, none lost, joined or cut. -/
theorem cutStream_eq (maxLength : Nat) (acc : List Piece) (bytes : Bytes) :
    cutStream maxLength false acc bytes =
      acc.reverse ++ (linesOf bytes).map (pieceOf maxLength) := by
  induction bytes using lines_induction generalizing acc with
  | nil => simp [cutStream_nil]
  | last line nonempty inline =>
      simp [cutStream_last maxLength acc line nonempty inline, linesOf_last nonempty inline]
  | line line rest inline ih =>
      simp [cutStream_line maxLength acc line rest inline, linesOf_append inline, ih]

/-- A stream without a fault is cut into its lines. -/
theorem pieces_of_whole (maxLength : Nat) {s : Gzip.Stream} (whole : s.fault = none) :
    pieces maxLength s = (linesOf s.bytes).map (pieceOf maxLength) := by
  rw [pieces, whole, Option.isSome_none, cutStream_eq, List.reverse_nil, List.nil_append]

/-! ## A file at once -/

/-- The row of a line, without the mark at its end. -/
def rowOfLine? (p : Processor) (line : Bytes) : Option Row :=
  p.row? (Text.decodeLossy (dropLast? carriageReturn line))

/-- What comes of bytes of which every line is held and read. -/
def readAll (p : Processor) (bytes : Bytes) : FileContent :=
  let results := (linesOf bytes).map (rowOfLine? p)
  let rows := results.filterMap id
  { rows := rows
    stats :=
      { linesRead := (linesOf bytes).length
        linesSkipped := results.countP Option.isNone
        rows := results.countP Option.isSome
        flagged := rows.countP Row.isFlagged } }

theorem length_dropLast? (b : UInt8) (bytes : Bytes) :
    bytes.length ≤ (dropLast? b bytes).length + 1 := by
  unfold dropLast?
  split <;> simp; omega

/-- A line that does not fit the window is too long as a text, whatever its end was. -/
theorem lt_utf8ByteSize_of_overlong {maxLength : Nat} {line : Bytes}
    (long : maxLength + 2 ≤ line.length) :
    maxLength < (Text.decodeLossy (dropLast? carriageReturn line)).utf8ByteSize := by
  have kept := length_dropLast? carriageReturn line
  have grown := Text.length_le_decodeLossy (dropLast? carriageReturn line)
  omega

/-- What the limited parser makes of the text of a line. -/
theorem read?_limited_decodeLossy (maxLength : Nat) (line : Bytes) :
    (Parser.limited maxLength).read? (Text.decodeLossy (dropLast? carriageReturn line)) =
      if maxLength < Text.encodedSize (Text.decodeFrom [] 0 (dropLast? carriageReturn line)) then none
      else (Line.Entry.ofChars? (Unicode.trimBlank
        (Text.decodeFrom [] 0 (dropLast? carriageReturn line)))).map Line.Entry.record := by
  simp [Parser.combined, Text.decodeLossy, Text.utf8ByteSize_ofList, Line.readCombined?]

/-- What the reader judges a line to be is what the line is judged to be. -/
theorem judgePiece?_pieceOf {p : Processor} {maxLength : Nat}
    (limited : ∀ line : String, maxLength < line.utf8ByteSize → p.parser.read? line = none)
    (line : Bytes) :
    (judgePiece? p.judgeLine? (pieceOf maxLength line)).map Verdict.row = rowOfLine? p line := by
  unfold pieceOf
  split
  · rename_i long
    have skipped := limited _ (lt_utf8ByteSize_of_overlong long)
    simp [judgePiece?, rowOfLine?, Processor.row?, Processor.judgeLine?, skipped]
  · rfl

theorem contentOf_pieces {p : Processor} {maxLength : Nat}
    (limited : ∀ line : String, maxLength < line.utf8ByteSize → p.parser.read? line = none)
    (bytes : Bytes) :
    contentOf (((linesOf bytes).map (pieceOf maxLength)).map (judgePiece? p.judgeLine?)) =
      readAll p bytes := by
  have judged : ((linesOf bytes).map (pieceOf maxLength)).map
      (fun piece => (judgePiece? p.judgeLine? piece).map Verdict.row) =
        (linesOf bytes).map (rowOfLine? p) := by
    simp [Function.comp_def, judgePiece?_pieceOf limited]
  have flagged : ∀ results : List (Option Row),
      results.countP (fun result => result.any Row.isFlagged) =
        (results.filterMap id).countP Row.isFlagged := by
    intro results
    rw [List.countP_filterMap]
    congr 1
    funext result
    cases result <;> rfl
  simp only [contentOf, List.map_map, Function.comp_def] at judged ⊢
  rw [judged]
  simp [readAll, Stats.ofLines, flagged]

/-- A stream that is read in a window gives what reading it at once gives, unless it has a fault. -/
theorem readStream_eq_ok_iff {p : Processor} {maxLength : Nat}
    (limited : ∀ line : String, maxLength < line.utf8ByteSize → p.parser.read? line = none)
    (path : String) (s : Gzip.Stream) (content : FileContent) :
    (readStream p path maxLength s).result = .ok content ↔
      s.fault = none ∧ content = readAll p s.bytes := by
  obtain ⟨bytes, fault⟩ := s
  cases fault with
  | some fault => simp [readStream]
  | none =>
      simp only [readStream, pieces_of_whole, contentOf_pieces limited, true_and, Except.ok.injEq]
      exact eq_comm

/-- A file is read by what its stream delivers. -/
theorem readLog_of_read {t : FileTree} {path : String} {data : ByteArray}
    (found : t.read path = .ok data) (p : Processor) (maxLength : Nat) :
    readLog p t path maxLength = readStream p path maxLength (Gzip.decompress data) := by
  unfold FileTree.read at found
  cases opened : t.openFile path with
  | error e => simp [opened] at found
  | ok node =>
      rw [opened] at found
      simp only [readLog, opened, show FileTree.contentOf node = .ok data from found]

/-- The limited parser skips the lines that are longer than its limit. -/
theorem limited_skips_overlong (maxLength : Nat) (line : String)
    (long : maxLength < line.utf8ByteSize) : (Parser.limited maxLength).read? line = none := by
  rw [Parser.read?_limited, Parser.read?_combined_of_lt long]

/-- **Bytes that are read in a window give what reading them at once gives**, if the parser skips the
lines that are longer than the limit: whatever bytes a stream without a fault delivers, and whatever
file it is, which is read without a fault exactly if it is there and is decompressed without one. -/
theorem window_reads_all {p : Processor} {maxLength : Nat}
    (limited : ∀ line : String, maxLength < line.utf8ByteSize → p.parser.read? line = none) :
    (∀ (path : String) (bytes : Bytes),
      (readStream p path maxLength ⟨bytes, none⟩).result = .ok (readAll p bytes)) ∧
    ∀ (t : FileTree) (path : String) (content : FileContent),
      (readLog p t path maxLength).result = .ok content ↔
        ∃ data, t.read path = .ok data ∧ (Gzip.decompress data).fault = none ∧
          content = readAll p (Gzip.decompress data).bytes := by
  constructor
  · intro path bytes
    exact (readStream_eq_ok_iff limited path ⟨bytes, none⟩ _).2 ⟨rfl, rfl⟩
  · intro t path content
    unfold readLog FileTree.read
    cases opened : t.openFile path with
    | error e => simp
    | ok node =>
        cases read : FileTree.contentOf node with
        | error e => simp [read]
        | ok data => simp [read, readStream_eq_ok_iff limited]

/-- A line of the combined format, of twenty-nine bytes. -/
def sampleLine : Bytes :=
  [97, 32, 45, 32, 45, 32, 91, 116, 93, 32, 34, 98, 32, 99, 32, 100, 34, 32, 49, 32, 50, 32, 34,
    114, 34, 32, 34, 117, 34]

/-- A compressed file of three lines: one that does not fit a window for lines of twenty-nine bytes,
the line of the combined format with both marks at its end, and one without an end. -/
def sampleFile : ByteArray :=
  ⟨#[31, 139, 8, 0, 0, 0, 0, 0, 0, 255, 1, 64, 0, 191, 255, 120, 120, 120, 120, 120, 120, 120, 120,
    120, 120, 120, 120, 120, 120, 120, 120, 120, 120, 120, 120, 120, 120, 120, 120, 120, 120, 120,
    120, 120, 120, 120, 10, 97, 32, 45, 32, 45, 32, 91, 116, 93, 32, 34, 98, 32, 99, 32, 100, 34,
    32, 49, 32, 50, 32, 34, 114, 34, 32, 34, 117, 34, 13, 10, 63, 124, 16, 118, 76, 64, 0, 0, 0]⟩

theorem read_sampleFile :
    (FileTree.empty.put ⟨false, ["a.gz"]⟩ (.file sampleFile)).read "a.gz" = .ok sampleFile := by
  have names : (Files.Path.pieces "a.gz").filter (· ≠ "") = ["a.gz"] := by decide +kernel
  have differ : Files.Place.key ⟨false, ["a.gz"]⟩ ≠ Files.Place.workingDirectory.key := by
    decide +kernel
  have located : (FileTree.empty.put ⟨false, ["a.gz"]⟩ (.file sampleFile)).locate "a.gz" =
      .ok ⟨false, ["a.gz"]⟩ := by
    unfold FileTree.locate
    rw [names]
    simp [FileTree.walk, FileTree.step, FileTree.node?_put, FileTree.node?_empty, differ,
      Files.Node.isDirectory]
    rfl
  simp [FileTree.read, FileTree.openFile, FileTree.lookup, located, FileTree.node?_put,
    FileTree.asksForDirectory, FileTree.contentOf, Except.map]

theorem window_reads_sampleFile :
    (∀ line : String, 29 < line.utf8ByteSize → (Parser.limited 29).read? line = none) ∧
      (readLog ⟨.limited 29, .empty⟩ (FileTree.empty.put ⟨false, ["a.gz"]⟩ (.file sampleFile))
        "a.gz" 29).result =
          .ok ⟨[.ofRecord
            { clientIp := "a", timestamp := "t", method := "b", path := "c", referer := "r",
              userAgent := "u", statusCode := "1" } .no], ⟨3, 2, 1, 0⟩⟩ := by
  have limited := limited_skips_overlong 29
  have stream : Gzip.decompress sampleFile =
      ⟨List.replicate 31 120 ++ lineFeed :: (sampleLine ++ [carriageReturn, lineFeed, 63]), none⟩ := by
    decide +kernel
  have lines : linesOf (Gzip.decompress sampleFile).bytes =
      [List.replicate 31 120, sampleLine ++ [carriageReturn], [63]] := by
    rw [stream]; decide +kernel
  have long := read?_limited_decodeLossy 29 (List.replicate 31 120)
  have marked := read?_limited_decodeLossy 29 (sampleLine ++ [carriageReturn])
  have other := read?_limited_decodeLossy 29 [63]
  rw [if_pos (by decide +kernel)] at long
  rw [if_neg (by decide +kernel), show Line.Entry.ofChars? (Unicode.trimBlank (Text.decodeFrom [] 0
    (dropLast? carriageReturn (sampleLine ++ [carriageReturn])))) = some ⟨['a'], ['t'], ['b'], ['c'],
      ['d'], ['1'], ['2'], ['r'], ['u'], []⟩ by decide +kernel] at marked
  rw [if_neg (by decide +kernel), show Line.Entry.ofChars? (Unicode.trimBlank (Text.decodeFrom [] 0
    (dropLast? carriageReturn [63]))) = none by decide +kernel] at other
  refine ⟨limited, (window_reads_all limited).2 _ _ _ |>.2
    ⟨sampleFile, read_sampleFile, congrArg Gzip.Stream.fault stream, ?_⟩⟩
  simp only [readAll, lines, List.map_cons, List.map_nil, rowOfLine?, Processor.row?,
    Processor.judgeLine?, long, marked, other]
  rfl

end ThreatMarker.Batch
