import ThreatMarker.Batch.Output
/-
# Reading the output back

A reader of comma-separated text goes through it character by character (`Reader.step`).  A comma ends a
field and a line feed ends a record, unless they stand between quotes, where a quote is written twice.
The reader is strict: outside of quotes it takes neither a quote nor a carriage return, and after a
closing quote nothing but the end of the field.

What is written for a field takes the reader from the beginning of the field to its end
(`foldlM_writeField`), whatever the characters of the field are, so records are read back as they were
written (`read?_writeRecords`), and rows with them.
-/

namespace ThreatMarker.Csv

set_option autoImplicit false

open Files (FileTree Place)

/-! ## The reader -/

/-- Where in a field a reader stands. -/
inductive Mode where
  | start
  | bare
  | quoted
  /-- After a quote between quotes: the field ends, or the quote is the first of two. -/
  | closed
  deriving DecidableEq

/-- What a reader has seen: the field that it is in, the fields of the record before it, and the records
before that one, all with the last one first. -/
structure Reader where
  mode : Mode := .start
  field : List Char := []
  record : List String := []
  records : List (List String) := []

namespace Reader

def push (r : Reader) (mode : Mode) (c : Char) : Reader := { r with mode, field := c :: r.field }

def endField (r : Reader) : Reader :=
  { r with mode := .start, field := [], record := String.ofList r.field.reverse :: r.record }

def endRecord (r : Reader) : Reader :=
  { records := (String.ofList r.field.reverse :: r.record).reverse :: r.records }

/-- The next character of a field without quotes. -/
def stepBare (r : Reader) (c : Char) : Option Reader :=
  if c = ',' then some r.endField
  else if c = '\n' then some r.endRecord
  else if c = '"' ∨ c = '\r' then none
  else some (r.push .bare c)

/-- The next character. -/
def step (r : Reader) (c : Char) : Option Reader :=
  match r.mode with
  | .start => if c = '"' then some { r with mode := .quoted } else r.stepBare c
  | .bare => r.stepBare c
  | .quoted => some (if c = '"' then { r with mode := .closed } else r.push .quoted c)
  | .closed =>
      if c = '"' then some (r.push .quoted c)
      else if c = ',' then some r.endField
      else if c = '\n' then some r.endRecord
      else none

/-- The records at the end of the text.  The last one may lack its line feed. -/
def finish (r : Reader) : Option (List (List String)) :=
  if r.mode = .quoted then none
  else if r.mode = .start ∧ r.record = [] then some r.records.reverse
  else some r.endRecord.records.reverse

end Reader

/-- The records of a text. -/
def read? (text : String) : Option (List (List String)) :=
  (text.toList.foldlM Reader.step {}).bind Reader.finish

/-- The records of a file. -/
def readFile? (content : ByteArray) : Option (List (List String)) :=
  (String.fromUTF8? content).bind read?

/-! ## One field -/

theorem isSpecial_eq_false_iff {c : Char} :
    isSpecial c = false ↔ c ≠ ',' ∧ c ≠ '"' ∧ c ≠ '\n' ∧ c ≠ '\r' := by
  simp [isSpecial, and_assoc]

theorem step_comma {r : Reader} (outside : r.mode ≠ .quoted) : r.step ',' = some r.endField := by
  unfold Reader.step
  cases mode : r.mode with
  | quoted => exact absurd mode outside
  | _ => simp [Reader.stepBare]

theorem step_lineFeed {r : Reader} (outside : r.mode ≠ .quoted) : r.step '\n' = some r.endRecord := by
  unfold Reader.step
  cases mode : r.mode with
  | quoted => exact absurd mode outside
  | _ => simp [Reader.stepBare]

/-- Between quotes every character is read as itself. -/
theorem foldlM_quotedChar (r : Reader) (inside : r.mode = .quoted) (field : List Char) :
    (field.flatMap quotedChar).foldlM Reader.step r =
      some { r with field := field.reverse ++ r.field } := by
  induction field generalizing r with
  | nil => rfl
  | cons c field ih =>
      have one : (quotedChar c).foldlM Reader.step r = some (r.push .quoted c) := by
        by_cases quote : c = '"'
        · simp [quotedChar, quote, Reader.step, inside, Reader.push]
        · simp [quotedChar, quote, Reader.step, inside]
      rw [List.flatMap_cons, List.foldlM_append, one]
      simp only [Option.bind_eq_bind, Option.bind_some, ih (r.push .quoted c) rfl]
      simp [Reader.push, inside]

/-- Without quotes every character that is not special is read as itself. -/
theorem foldlM_bare (r : Reader) (outside : r.mode = .start ∨ r.mode = .bare) (field : List Char)
    (plain : ∀ c ∈ field, isSpecial c = false) :
    ∃ mode, mode ≠ .quoted ∧
      field.foldlM Reader.step r = some { r with mode, field := field.reverse ++ r.field } := by
  induction field generalizing r with
  | nil =>
      refine ⟨r.mode, ?_, rfl⟩
      rcases outside with mode | mode <;> simp [mode]
  | cons c field ih =>
      obtain ⟨first, plain⟩ := List.forall_mem_cons.1 plain
      obtain ⟨comma, quote, feed, ret⟩ := isSpecial_eq_false_iff.1 first
      have one : r.step c = some (r.push .bare c) := by
        rcases outside with mode | mode <;>
          simp [Reader.step, mode, Reader.stepBare, comma, quote, feed, ret]
      obtain ⟨mode, left, rest⟩ := ih (r.push .bare c) (.inr rfl) plain
      refine ⟨mode, left, ?_⟩
      rw [List.foldlM_cons, one]
      simp only [Option.bind_eq_bind, Option.bind_some, rest]
      simp [Reader.push]

/-- **What is written for a field is read as the field**, and the reader is then where the field may
end. -/
theorem foldlM_writeField (record : List String) (records : List (List String)) (field : List Char) :
    ∃ mode, mode ≠ .quoted ∧
      (writeField field).foldlM Reader.step ⟨.start, [], record, records⟩ =
        some ⟨mode, field.reverse, record, records⟩ := by
  unfold writeField
  split
  · refine ⟨.closed, by decide, ?_⟩
    rw [quoted, List.foldlM_cons]
    simp only [Reader.step, if_true, Option.bind_eq_bind, Option.bind_some, List.foldlM_append]
    rw [foldlM_quotedChar _ rfl]
    simp [Reader.step]
  · rename_i plain
    obtain ⟨mode, left, read⟩ := foldlM_bare ⟨.start, [], record, records⟩ (.inl rfl) field
      (by simpa using plain)
    exact ⟨mode, left, by simpa using read⟩

/-! ## Records -/

/-- Fields between commas are read as the fields of a record. -/
theorem foldlM_writeFields (record : List String) (records : List (List String))
    {fields : List (List Char)} (nonempty : fields ≠ []) :
    (writeFields fields ++ ['\n']).foldlM Reader.step ⟨.start, [], record, records⟩ =
      some { records := (record.reverse ++ fields.map String.ofList) :: records } := by
  induction fields generalizing record with
  | nil => exact absurd rfl nonempty
  | cons field fields ih =>
      obtain ⟨mode, outside, read⟩ := foldlM_writeField record records field
      cases fields with
      | nil =>
          rw [writeFields, List.foldlM_append, read]
          simp [step_lineFeed (r := ⟨mode, field.reverse, record, records⟩) outside, Reader.endRecord]
      | cons next fields =>
          have later := ih (String.ofList field :: record) (by simp)
          have comma : writeFields (field :: next :: fields) =
              writeField field ++ ',' :: writeFields (next :: fields) := rfl
          rw [comma, List.append_assoc, List.foldlM_append, read]
          simp only [List.cons_append, List.foldlM_cons, Option.bind_eq_bind, Option.bind_some,
            step_comma (r := ⟨mode, field.reverse, record, records⟩) outside, Reader.endField,
            List.reverse_reverse, later]
          simp

/-- A record is read with its line break, also if all that it has is an empty field. -/
theorem foldlM_writeRecord (records : List (List String)) {fields : List (List Char)}
    (nonempty : fields ≠ []) :
    (writeRecord fields).foldlM Reader.step { records } =
      some { records := fields.map String.ofList :: records } := by
  unfold writeRecord
  split
  · rename_i empty
    subst empty
    rfl
  · exact foldlM_writeFields [] records nonempty

/-- **Records are read as they were written.** -/
theorem foldlM_writeRecords (records : List (List String)) {written : List (List (List Char))}
    (nonempty : ∀ fields ∈ written, fields ≠ []) :
    (written.flatMap writeRecord).foldlM Reader.step { records } =
      some { records := (written.map (List.map String.ofList)).reverse ++ records } := by
  induction written generalizing records with
  | nil => rfl
  | cons fields written ih =>
      obtain ⟨first, nonempty⟩ := List.forall_mem_cons.1 nonempty
      rw [List.flatMap_cons, List.foldlM_append, foldlM_writeRecord records first]
      simp [ih _ nonempty]

theorem read?_writeRecords {written : List (List (List Char))}
    (nonempty : ∀ fields ∈ written, fields ≠ []) :
    read? (String.ofList (written.flatMap writeRecord)) =
      some (written.map (List.map String.ofList)) := by
  rw [read?, String.toList_ofList]
  rw [foldlM_writeRecords [] nonempty]
  simp [Reader.finish]

/-! ## Rows -/

theorem read?_ofRows (rows : List Row) :
    read? (ofRows rows) = some (Row.columns :: rows.map Row.cells) := by
  have chars : (Row.columns :: rows.map Row.cells).flatMap
      (fun fields => writeRecord (fields.map String.toList)) =
        ((Row.columns :: rows.map Row.cells).map (List.map String.toList)).flatMap writeRecord := by
    rw [List.flatMap_map]
  rw [ofRows, chars, read?_writeRecords]
  · simp
  · simp [Row.columns, Row.cells]

/-- The cells of a row are its seven fields, the last of them as a word. -/
theorem cells_eq (row : Row) :
    row.cells = [row.clientIp, row.reqHeaders, row.reqBody, row.respHeaders, row.respBody,
      row.respStatus, if row.featureMarked = .yes then "Yes" else "No"] := by
  cases mark : row.featureMarked <;> simp [Row.cells, Mark.text, mark]

theorem cells_injective : Function.Injective Row.cells := by
  rintro ⟨ip, reqHeaders, reqBody, respHeaders, respBody, status, mark⟩
    ⟨ip', reqHeaders', reqBody', respHeaders', respBody', status', mark'⟩ same
  cases mark <;> cases mark' <;> simp_all [Row.cells, Mark.text]

theorem ofRows_injective : Function.Injective ofRows := by
  intro rows rows' same
  have records : some (Row.columns :: rows.map Row.cells) = some (Row.columns :: rows'.map Row.cells) := by
    rw [← read?_ofRows, ← read?_ofRows, same]
  exact (List.map_inj_right fun _ _ cells => cells_injective cells).1
    (List.cons.inj (Option.some.inj records)).2

/-! ## Columns -/

/-- The values under a name.  The first of the records has the names of the columns. -/
def column (name : String) : List (List String) → List (Option String)
  | [] => []
  | columns :: records => records.map fun fields => (columns.zip fields).lookup name

/-- In the records of rows, the values under a name are the cells that stand there. -/
theorem column_cells (name : String) (rows : List Row) :
    column name (Row.columns :: rows.map Row.cells) =
      rows.map fun row => (Row.columns.zip row.cells).lookup name := by
  rw [column, List.map_map]
  rfl

/-! ## Files -/

theorem readFile?_toUTF8 (text : String) : readFile? text.toUTF8 = read? text := by
  have valid : text.toUTF8.IsValidUTF8 := text.isValidUTF8
  simp only [readFile?, String.fromUTF8?, dif_pos valid]
  rfl

/-- What a file holds to which rows were written. -/
theorem readFile?_ofRows (rows : List Row) :
    readFile? (ofRows rows).toUTF8 = some (Row.columns :: rows.map fun row =>
      [row.clientIp, row.reqHeaders, row.reqBody, row.respHeaders, row.respBody, row.respStatus,
        if row.featureMarked = .yes then "Yes" else "No"]) := by
  rw [readFile?_toUTF8, read?_ofRows]
  simp only [← cells_eq]

theorem toUTF8_injective : Function.Injective String.toUTF8 := by
  intro text text' same
  exact String.toByteArray_inj.1 same

/-- **Rows are read back from what is written of them.**  Whatever the values of the rows are, the text
has the record of the columns and after it a record of seven fields for each row, in their order; it is
what a file holds to which the rows were written; and other rows give a file with other bytes. -/
theorem written_rows_read_back :
    (∀ rows : List Row, read? (ofRows rows) = some (Row.columns :: rows.map fun row =>
      [row.clientIp, row.reqHeaders, row.reqBody, row.respHeaders, row.respBody, row.respStatus,
        if row.featureMarked = .yes then "Yes" else "No"])) ∧
    (∀ (t : FileTree) (place : Place) (old : ByteArray) (rows : List Row),
      t.node? place = some (.file old) → ∃ t' content, Batch.writeRows t place rows = .ok t' ∧
        t'.node? place = some (.file content) ∧ readFile? content = read? (ofRows rows)) ∧
    ∀ rows rows' : List Row, rows ≠ rows' → (ofRows rows).toUTF8 ≠ (ofRows rows').toUTF8 := by
  refine ⟨fun rows => ?_, fun t place old rows there => ?_, fun rows rows' differ same => ?_⟩
  · rw [← readFile?_toUTF8, readFile?_ofRows]
  · refine ⟨t.put place (.file (ofRows rows).toUTF8), _, ?_, ?_, readFile?_toUTF8 _⟩
    · simp only [Batch.writeRows, FileTree.write, there]
    · rw [FileTree.node?_put, if_pos rfl]
  · exact differ (ofRows_injective (toUTF8_injective same))

/-- A row whose values have every special character. -/
def sampleRow : Row :=
  { clientIp := "1.2.3.4", reqHeaders := "method=GET;path=/a,b;referer=\"x\"\r\n;user_agent=",
    respStatus := "200", featureMarked := .yes }

theorem written_sampleRow_reads_back :
    (FileTree.empty.put ⟨false, ["a.csv"]⟩ (.file .empty)).node? ⟨false, ["a.csv"]⟩ =
        some (.file .empty) ∧
      ∃ t' content, Batch.writeRows (FileTree.empty.put ⟨false, ["a.csv"]⟩ (.file .empty))
          ⟨false, ["a.csv"]⟩ [sampleRow] = .ok t' ∧
        t'.node? ⟨false, ["a.csv"]⟩ = some (.file content) ∧
        readFile? content = some [
          ["client_ip", "req_headers", "req_body", "resp_headers", "resp_body", "resp_status",
            "feature_marked"],
          ["1.2.3.4", "method=GET;path=/a,b;referer=\"x\"\r\n;user_agent=", "", "", "", "200",
            "Yes"]] := by
  have there : (FileTree.empty.put ⟨false, ["a.csv"]⟩ (.file .empty)).node? ⟨false, ["a.csv"]⟩ =
      some (.file .empty) := by
    rw [FileTree.node?_put, if_pos rfl]
  obtain ⟨t', content, written, holds, read⟩ :=
    written_rows_read_back.2.1 _ _ _ [sampleRow] there
  exact ⟨there, t', content, written, holds, read.trans (written_rows_read_back.1 [sampleRow])⟩

end ThreatMarker.Csv
