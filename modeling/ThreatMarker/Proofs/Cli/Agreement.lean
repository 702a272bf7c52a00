import ThreatMarker.Cli.Run
import ThreatMarker.Proofs.Batch.Run
import ThreatMarker.Proofs.Rule.Builtin
/-
# Checking lines and converting files agree

A text that comes as input is cut by a reader that holds whole lines, a compressed text by one that
holds a window of them.  For a text that does not end with a carriage return both find the same lines
(`inputLines_encodeChars`), so a check of the input counts what the conversion of the file counts, and the
entries of the lines that it reads have the values of the rows that the conversion writes (`AgreesWith`).
-/

namespace ThreatMarker.Cli

set_option autoImplicit false

open Batch (dropLast? linesOf readAll rowOfLine?)
open Files (Enumerates FileTree Node)
open Line (Parser Processor Verdict)
open Text (Bytes encodeChars)

/-! ## Lines of a text -/

/-- A line without a carriage return at its end. -/
def withoutReturn (line : List Char) : List Char :=
  if line.getLast? = some '\r' then line.dropLast else line

theorem withoutBreak_line (line : List Char) : withoutBreak (line ++ ['\n']) = withoutReturn line := by
  rcases List.eq_nil_or_concat line with rfl | ⟨front, c, rfl⟩
  · rfl
  · rw [List.concat_eq_append, withoutReturn, List.getLast?_concat, List.dropLast_concat]
    by_cases last : c = '\r'
    · simp [withoutBreak, last]
    · rw [if_neg (by simpa using last), withoutBreak]
      simp only [List.reverse_append, List.reverse_cons, List.reverse_nil, List.nil_append,
        List.cons_append]
      split
      · rename_i same
        simp [last] at same
      · rename_i same
        rw [← (List.cons.inj same).2]
        simp
      · rename_i other
        exact absurd rfl (other _)

theorem withoutBreak_last {line : List Char} (inline : '\n' ∉ line) : withoutBreak line = line := by
  have first : line.reverse.head? ≠ some '\n' := fun first =>
    inline (List.mem_reverse.1 (List.mem_of_mem_head? first))
  unfold withoutBreak
  split
  · rename_i same
    simp [same] at first
  · rename_i same
    simp [same] at first
  · rfl

theorem dropLast?_encodeChars (line : List Char) :
    dropLast? Batch.carriageReturn (encodeChars line) = encodeChars (withoutReturn line) := by
  have ends := @Text.getLast?_encodeChars_iff Batch.carriageReturn (by decide) '\r' (by decide) line
  unfold dropLast? withoutReturn
  by_cases last : line.getLast? = some '\r'
  · obtain ⟨front, rfl⟩ := List.getLast?_eq_some_iff.1 last
    rw [if_pos (ends.2 last), if_pos last, Text.encodeChars_append,
      show encodeChars ['\r'] = [Batch.carriageReturn] by decide, List.dropLast_concat,
      List.dropLast_concat]
  · rw [if_neg (ends.not.2 last), if_neg last]

/-- The text of a line of a file. -/
def textOf (line : Bytes) : String := Text.decodeLossy (dropLast? Batch.carriageReturn line)

theorem textOf_encodeChars (line : List Char) :
    textOf (encodeChars line) = String.ofList (withoutReturn line) := by
  rw [textOf, dropLast?_encodeChars, Text.decodeLossy_encodeChars]

/-- Lines that were cut stand before those that are cut. -/
theorem cutLines_eq (acc : List Bytes) (current bytes : Bytes) :
    cutLines acc current bytes = acc.reverse ++ cutLines [] current bytes := by
  induction bytes generalizing acc current with
  | nil => simp only [cutLines]; split <;> simp
  | cons b bytes ih =>
      simp only [cutLines]
      split
      · rw [ih ((b :: current).reverse :: acc), ih [(b :: current).reverse]]
        simp
      · exact ih acc (b :: current)

theorem cutLines_line {line : Bytes} (inline : lineFeed ∉ line) (current rest : Bytes) :
    cutLines [] current (line ++ lineFeed :: rest) =
      (current.reverse ++ line ++ [lineFeed]) :: cutLines [] [] rest := by
  induction line generalizing current with
  | nil =>
      rw [List.nil_append, cutLines, if_pos rfl, cutLines_eq]
      simp
  | cons b line ih =>
      simp only [List.mem_cons, not_or] at inline
      rw [List.cons_append, cutLines, if_neg (Ne.symm inline.1), ih inline.2]
      simp

theorem cutLines_last {line : Bytes} (inline : lineFeed ∉ line) {current : Bytes}
    (nonempty : current.reverse ++ line ≠ []) :
    cutLines [] current line = [current.reverse ++ line] := by
  induction line generalizing current with
  | nil =>
      have given : current.isEmpty = false := by simpa using nonempty
      simp [cutLines, given]
  | cons b line ih =>
      simp only [List.mem_cons, not_or] at inline
      rw [cutLines, if_neg (Ne.symm inline.1), ih inline.2 (by simp)]
      simp

theorem readLine_encodeChars (chars : List Char) :
    readLine (encodeChars chars) = .ok (String.ofList (withoutBreak chars)) := by
  simp only [readLine, Text.decode_encodeChars, String.toList_ofList]

/-- A line is read without its break. -/
theorem readLine_line (line : List Char) :
    readLine (encodeChars line ++ [lineFeed]) = .ok (textOf (encodeChars line)) := by
  have whole : encodeChars line ++ [lineFeed] = encodeChars (line ++ ['\n']) := by
    rw [Text.encodeChars_append]
    rfl
  rw [whole, readLine_encodeChars, withoutBreak_line, textOf_encodeChars]

/-- **The lines of a text that comes as input are those of a file with the text**, if it does not end
with a carriage return. -/
theorem inputLines_encodeChars (cs : List Char) (ended : cs.getLast? ≠ some '\r') :
    inputLines (encodeChars cs) = .ok ((linesOf (encodeChars cs)).map textOf) := by
  have feeds (cs : List Char) : lineFeed ∈ encodeChars cs ↔ '\n' ∈ cs :=
    Text.mem_encodeChars_iff (by decide) (by decide)
  by_cases more : '\n' ∈ cs
  · obtain ⟨line, rest, rfl, inline⟩ := List.eq_append_cons_of_mem more
    have shorter : rest.length < (line ++ '\n' :: rest).length := by simp; omega
    have later : rest.getLast? ≠ some '\r' := fun last => by
      obtain ⟨front, rfl⟩ := List.getLast?_eq_some_iff.1 last
      exact ended (List.getLast?_eq_some_iff.2 ⟨line ++ '\n' :: front, by simp⟩)
    have bytes : encodeChars (line ++ '\n' :: rest) = encodeChars line ++ lineFeed :: encodeChars rest := by
      rw [Text.encodeChars_append, Text.encodeChars_cons]
      rfl
    have lines : linesOf (encodeChars line ++ lineFeed :: encodeChars rest) =
        encodeChars line :: linesOf (encodeChars rest) :=
      Batch.linesOf_append ((feeds line).not.2 inline)
    have ih := inputLines_encodeChars rest later
    rw [inputLines] at ih
    rw [inputLines, bytes, cutLines_line ((feeds line).not.2 inline), lines, List.reverse_nil,
      List.nil_append, List.mapM_cons, readLine_line, ih]
    rfl
  · by_cases empty : cs = []
    · subst empty
      rfl
    · have nonempty : encodeChars cs ≠ [] := Text.encodeChars_eq_nil_iff.not.2 empty
      have whole : withoutReturn cs = cs := if_neg ended
      rw [inputLines, cutLines_last ((feeds cs).not.2 more) (by simpa using nonempty),
        Batch.linesOf_last nonempty ((feeds cs).not.2 more)]
      simp only [List.reverse_nil, List.nil_append, List.mapM_cons, List.mapM_nil, readLine_encodeChars,
        withoutBreak_last more, List.map_cons, List.map_nil, textOf_encodeChars, whole]
      rfl
termination_by cs.length

/-! ## Reports -/

/-- An entry that says `Yes` is that of a flagged row. -/
theorem LineEntry.isFlagged_eq (e : LineEntry) :
    e.isFlagged = e.verdict.any fun v => v.row.isFlagged := by
  unfold LineEntry.isFlagged LineEntry.featureMarked LineEntry.valueOf
  cases e.verdict with
  | none => rfl
  | some v => cases mark : v.row.featureMarked <;> simp [Row.isFlagged, Mark.text, mark]

namespace LineReport

theorem skipped_ofVerdicts (verdicts : List (Option Verdict)) :
    (ofVerdicts verdicts).skipped = verdicts.countP Option.isNone := by
  conv => rhs; rw [← verdicts_ofVerdicts verdicts, List.countP_map]
  exact List.countP_congr fun e _ => by simp [LineEntry.parsed]

theorem flagged_ofVerdicts (verdicts : List (Option Verdict)) :
    (ofVerdicts verdicts).flagged = verdicts.countP (fun v => v.any fun v => v.row.isFlagged) := by
  conv => rhs; rw [← verdicts_ofVerdicts verdicts, List.countP_map]
  refine List.countP_congr fun e _ => ?_
  rw [Function.comp_apply, ← LineEntry.isFlagged_eq]

/-- The lines that were marked, in their order. -/
def marked (r : LineReport) : List Verdict := r.entries.filterMap LineEntry.verdict

theorem marked_ofVerdicts (verdicts : List (Option Verdict)) :
    (ofVerdicts verdicts).marked = verdicts.filterMap id := by
  conv => rhs; rw [← verdicts_ofVerdicts verdicts, List.filterMap_map]
  rfl

/-- The entries of the lines that were read, in their order. -/
def parsed (r : LineReport) : List LineEntry := r.entries.filter LineEntry.parsed

/-- These entries have the values of the rows of the marked lines. -/
theorem map_valueOf_parsed (f : Row → String) (r : LineReport) :
    r.parsed.map (LineEntry.valueOf f) = (r.marked.map Verdict.row).map f := by
  obtain ⟨entries⟩ := r
  simp only [parsed, marked]
  induction entries with
  | nil => rfl
  | cons e entries ih =>
      cases verdict : e.verdict with
      | none => simpa [LineEntry.parsed, verdict] using ih
      | some v => simpa [LineEntry.parsed, LineEntry.valueOf, verdict] using ih

/-- What is said about lines agrees with the statistics of a file and with the records of its output.  As
many lines were read, skipped and flagged, and the entries of the lines that were read have the values
that stand in the columns of the output, in the same order; so have the objects that are printed for
these entries, under the names of the columns. -/
structure AgreesWith (r : LineReport) (stats : Batch.Stats) (records : List (List String)) : Prop where
  total : r.total = stats.linesRead
  skipped : r.skipped = stats.linesSkipped
  flagged : r.flagged = stats.flagged
  clientIp : r.parsed.map (fun e => some e.clientIp) = Csv.column "client_ip" records
  respStatus : r.parsed.map (fun e => some e.respStatus) = Csv.column "resp_status" records
  featureMarked : r.parsed.map (fun e => some e.featureMarked) = Csv.column "feature_marked" records
  printed : ∀ name ∈ ["client_ip", "resp_status", "feature_marked"],
    r.parsed.map (fun e => e.toJson.get? name) = (Csv.column name records).map (Option.map .string)

/-- The value that stands in a column is the value of the entries, in their order. -/
theorem values_eq_column {name : String} {f : Row → String}
    (cell : ∀ row : Row, (Row.columns.zip row.cells).lookup name = some (f row)) (r : LineReport) :
    r.parsed.map (fun e => some (e.valueOf f)) =
      Csv.column name (Row.columns :: (r.marked.map Verdict.row).map Row.cells) := by
  rw [Csv.column_cells, List.map_congr_left fun row _ => cell row]
  simpa only [List.map_map, Function.comp_def] using congrArg (List.map some) (map_valueOf_parsed f r)

/-- A report agrees with the rows of its marked lines, if it counts as the statistics do. -/
theorem agreesWith_rows {r : LineReport} {stats : Batch.Stats} (total : r.total = stats.linesRead)
    (skipped : r.skipped = stats.linesSkipped) (flagged : r.flagged = stats.flagged) :
    r.AgreesWith stats (Row.columns :: (r.marked.map Verdict.row).map Row.cells) := by
  have clientIp := @values_eq_column "client_ip" Row.clientIp (fun _ => rfl) r
  have respStatus := @values_eq_column "resp_status" Row.respStatus (fun _ => rfl) r
  have featureMarked :=
    @values_eq_column "feature_marked" (fun row => row.featureMarked.text) (fun _ => rfl) r
  refine ⟨total, skipped, flagged, clientIp, respStatus, featureMarked, fun name member => ?_⟩
  simp only [List.mem_cons, List.not_mem_nil, or_false] at member
  rcases member with rfl | rfl | rfl
  · rw [← clientIp, List.map_map]
    rfl
  · rw [← respStatus, List.map_map]
    rfl
  · rw [← featureMarked, List.map_map]
    rfl

/-- **What is said about lines is what comes of a file of them.** -/
theorem ofLines_eq_readAll (p : Processor) (bytes : Bytes) :
    let report := ofLines p ((linesOf bytes).map textOf)
    report.total = (readAll p bytes).stats.linesRead ∧
      report.skipped = (readAll p bytes).stats.linesSkipped ∧
      report.flagged = (readAll p bytes).stats.flagged ∧
      report.marked.map Verdict.row = (readAll p bytes).rows := by
  intro report
  have rows : (linesOf bytes).map (rowOfLine? p) =
      (((linesOf bytes).map textOf).map p.judgeLine?).map (Option.map Verdict.row) := by
    simp only [List.map_map]
    rfl
  have count : (linesOf bytes).length = (((linesOf bytes).map textOf).map p.judgeLine?).length := by
    simp
  simp only [report, ofLines, readAll, rows, count, total_ofVerdicts, skipped_ofVerdicts,
    flagged_ofVerdicts, marked_ofVerdicts, true_and]
  generalize ((linesOf bytes).map textOf).map p.judgeLine? = verdicts
  refine ⟨?_, ?_, ?_⟩
  · rw [List.countP_map]
    refine List.countP_congr fun v _ => ?_
    cases v <;> rfl
  · rw [List.countP_filterMap, List.countP_map]
    refine List.countP_congr fun v _ => ?_
    cases v <;> rfl
  · rw [List.map_filterMap, List.filterMap_map]
    rfl

end LineReport

/-! ## Commands -/

section Commands

variable {s : Surroundings} {config : String} {c : Config} {rawDir sampleDir rulesDir : Option String}

theorem withConfig_of_loaded
    (loaded : (Config.loadOrDefault s.files s.environment config).result = .ok c)
    (before : List Trace.Event) (next : Config → List Trace.Event → Outcome) :
    s.withConfig config before next =
      next c (before ++ (Config.loadOrDefault s.files s.environment config).events) := by
  unfold Surroundings.withConfig
  generalize Config.loadOrDefault s.files s.environment config = reported at loaded ⊢
  obtain ⟨result, events⟩ := reported
  obtain rfl : result = .ok c := loaded
  rfl

theorem goOn_of_ok {prepared : Rule.Reported (Nat × Rule.Engine)} {count : Nat} {e : Rule.Engine}
    (ok : prepared.result = .ok (count, e)) (before : List Trace.Event)
    (next : Rule.Engine → List Trace.Event → Outcome) :
    s.goOn prepared before next = next e (before ++ prepared.events) := by
  simp only [Surroundings.goOn, ok]

theorem withEngine_of_prepared {dir : Option String} {count : Nat} {e : Rule.Engine}
    (prepared : (Rule.Engine.prepare s.files dir).result = .ok (count, e)) (before : List Trace.Event)
    (next : Rule.Engine → List Trace.Event → Outcome) :
    s.withEngine dir before next =
      next e (before ++ (Rule.Engine.prepare s.files dir).events) := goOn_of_ok prepared before next

/-- What a check reports of the lines of the input. -/
theorem report_check {count : Nat} {e : Rule.Engine} {texts : List String}
    (loaded : (Config.loadOrDefault s.files s.environment config).result = .ok c)
    (prepared : (Rule.Engine.prepare s.files (rulesDirOf rulesDir c)).result = .ok (count, e))
    (read : inputLines s.input = .ok texts) :
    (check s config [] rulesDir).report =
      some (.lines (.ofLines ⟨.limited c.etl.maxLineLength, e⟩ texts)) := by
  have lines : linesToCheck s [] = .ok texts := by
    simp only [linesToCheck, List.isEmpty_nil, if_true, read]
  rw [check, withConfig_of_loaded loaded, withEngine_of_prepared prepared, lines]
  rfl

/-- A job that was prepared is run, and what comes of it is reported. -/
theorem process_of_prepared {job : Batch.Job}
    (loaded : (Config.loadOrDefault s.files s.environment config).result = .ok c)
    (prepared : (Batch.Job.prepare s.files (batchSettings c rawDir sampleDir rulesDir) none).result =
      .ok job) :
    let settings := batchSettings c rawDir sampleDir rulesDir
    let o := process s config rawDir sampleDir rulesDir
    let run := job.run s.now s.files
    o.files = run.tree ∧ o.counts = run.counts ∧
      (∀ f, run.result = .error f → o.report = none ∧ o.failure = some (.ofPipeline f)) ∧
      ∀ report, run.result = .ok report →
        o.report = some (.batch ⟨settings.rawDir, settings.sampleDir, report⟩) ∧
          (o.failure = none ↔ report.isClean = true) := by
  rw [process, withConfig_of_loaded loaded]
  simp only [prepared]
  -- what the command makes of a run does not depend on how the run came about
  generalize job.run s.now s.files = run
  obtain ⟨result, tree, counts, events⟩ := run
  cases result with
  | error f =>
      refine ⟨rfl, rfl, ?_, ?_⟩
      · rintro f ⟨⟩
        exact ⟨rfl, rfl⟩
      · rintro report ⟨⟩
  | ok report =>
      refine ⟨rfl, rfl, ?_, ?_⟩
      · rintro f ⟨⟩
      · rintro report ⟨⟩
        exact ⟨rfl, by simp⟩

/-- What converting a directory reports, and the files after it. -/
theorem report_process {job : Batch.Job} {report : Batch.Report}
    (loaded : (Config.loadOrDefault s.files s.environment config).result = .ok c)
    (prepared : (Batch.Job.prepare s.files (batchSettings c rawDir sampleDir rulesDir) none).result =
      .ok job)
    (ran : (job.run s.now s.files).result = .ok report) :
    (process s config rawDir sampleDir rulesDir).report =
        some (.batch ⟨(batchSettings c rawDir sampleDir rulesDir).rawDir,
          (batchSettings c rawDir sampleDir rulesDir).sampleDir, report⟩) ∧
      (process s config rawDir sampleDir rulesDir).files = (job.run s.now s.files).tree := by
  obtain ⟨files, -, -, reported⟩ := process_of_prepared loaded prepared
  exact ⟨(reported report ran).1, files⟩

/-- **A check of a text and the conversion of a compressed file with it agree.**  In any surroundings in
which both commands get past their set-up, if the input is a text that does not end with a carriage
return, and there is a log that is decompressed to the text among the logs that are converted, then both
commands report: the batch lists the log once, and what the check says about the lines agrees with the
statistics that are listed and with the records of the log's output file, which has the rows of the lines
that the check marked. -/
theorem check_agrees_with_process {job : Batch.Job} {entries : List (String × Node)} {text file : String}
    {data : ByteArray}
    (loaded : (Config.loadOrDefault s.files s.environment config).result = .ok c)
    (prepared : (Batch.Job.prepare s.files (batchSettings c rawDir sampleDir rulesDir) none).result =
      .ok job)
    (enumerated : Enumerates s.files job.settings.rawDir entries)
    (room : job.HasRoom (fun _ => s.now) s.files (job.logs entries))
    (listed : file ∈ job.logs entries) (read : s.files.read file = .ok data)
    (compressed : Gzip.decompress data = ⟨Text.encode text, none⟩)
    (given : s.input = Text.encode text) (ended : text.toList.getLast? ≠ some '\r') :
    ∃ lines batch, (check s config [] rulesDir).report = some (.lines lines) ∧
      (process s config rawDir sampleDir rulesDir).report = some (.batch batch) ∧
      ∃ f ∈ batch.report.files, f.input = file ∧
        (∀ g ∈ batch.report.files, g.input = file → g = f) ∧ ∃ output records,
          (process s config rawDir sampleDir rulesDir).files.read f.output = .ok output ∧
          output = (Csv.ofRows (lines.marked.map Verdict.row)).toUTF8 ∧
          Csv.readFile? output = some records ∧ lines.AgreesWith f.stats records := by
  obtain ⟨-, count, e, rules, rfl⟩ := Batch.Job.prepare_eq_ok_iff.1 prepared
  let p : Processor := ⟨.limited c.etl.maxLineLength, e⟩
  let job : Batch.Job := ⟨batchSettings c rawDir sampleDir rulesDir, p⟩
  -- the file alone is read as its lines say
  have alone : job.alone s.files file = .ok (readAll p (Text.encode text)) := by
    rw [Batch.Job.alone_of_read read, compressed]
    exact (Batch.readStream_eq_ok_iff (Batch.limited_skips_overlong _) _ _ _).2 ⟨rfl, rfl⟩
  have outcome : job.outcomeOf s.files file = .ok ((readAll p (Text.encode text)).stats,
      (Csv.ofRows (readAll p (Text.encode text)).rows).toUTF8) := by
    rw [Batch.Job.outcomeOf, alone]
  obtain ⟨report, ran, f, reported, named, stats, written⟩ := Batch.Job.Run.gives_ok_iff.1
    ((Batch.Job.gives_iff enumerated room listed _).2 outcome.symm)
  have once := Batch.Job.nodup_inputs_of_runAt enumerated room ran
  obtain ⟨batch, files⟩ := report_process loaded prepared ran
  have lines : inputLines s.input = .ok ((linesOf (Text.encode text)).map textOf) := by
    rw [given, Text.encode_eq, inputLines_encodeChars _ ended]
  obtain ⟨total, skipped, flagged, rows⟩ := LineReport.ofLines_eq_readAll p (Text.encode text)
  refine ⟨_, _, report_check loaded rules lines, batch, f, reported, named, fun g listed same => ?_, ?_⟩
  · exact List.inj_on_of_nodup_map once listed reported (same.trans named.symm)
  · rw [← rows] at written
    refine ⟨_, _, files ▸ written, rfl, ?_, stats ▸ LineReport.agreesWith_rows total skipped flagged⟩
    rw [Csv.readFile?_toUTF8, Csv.read?_ofRows]

end Commands

/-- Three lines, which also come as a compressed log: one that is skipped, one with an attack in its path
and one without. -/
def sampleText : String :=
  "x\nb - - [t] \"c 'or1=1 d\" 2 3 \"\" \"\"\na - - [t] \"b c d\" 1 2 \"r\" \"u\""

/-- The compressed log. -/
def sampleLog : ByteArray :=
  ⟨#[31, 139, 8, 0, 0, 0, 0, 0, 0, 255, 1, 64, 0, 191, 255, 120, 10, 98, 32, 45, 32, 45, 32, 91, 116,
    93, 32, 34, 99, 32, 39, 111, 114, 49, 61, 49, 32, 100, 34, 32, 50, 32, 51, 32, 34, 34, 32, 34, 34,
    10, 97, 32, 45, 32, 45, 32, 91, 116, 93, 32, 34, 98, 32, 99, 32, 100, 34, 32, 49, 32, 50, 32, 34,
    114, 34, 32, 34, 117, 34, 118, 244, 14, 205, 64, 0, 0, 0]⟩

theorem decompress_sampleLog : Gzip.decompress sampleLog = ⟨Text.encode sampleText, none⟩ := by
  decide +kernel

theorem inputLines_sampleText : inputLines (Text.encode sampleText) =
    .ok ["x", "b - - [t] \"c 'or1=1 d\" 2 3 \"\" \"\"", "a - - [t] \"b c d\" 1 2 \"r\" \"u\""] := by
  rw [Text.encode_eq, inputLines_encodeChars _ (by decide)]
  exact congrArg Except.ok (by decide +kernel)

/-- The record of the line with an attack. -/
def attackRecord : Record :=
  { clientIp := "b", timestamp := "t", method := "c", path := "'or1=1", statusCode := "2" }

/-- The record of the line without. -/
def harmlessRecord : Record :=
  { clientIp := "a", timestamp := "t", method := "b", path := "c", referer := "r", userAgent := "u",
    statusCode := "1" }

/-- What the built-in rules find on the lines. -/
def sampleVerdicts : List (Option Verdict) :=
  [none, some ⟨attackRecord, ⟨[⟨"SQL_Injection", 2⟩]⟩⟩, some ⟨harmlessRecord, ⟨[]⟩⟩]

theorem judge_sampleText {e : Rule.Engine} (made : Rule.Engine.ofRules Rule.builtin = .ok e) :
    ["x", "b - - [t] \"c 'or1=1 d\" 2 3 \"\" \"\"", "a - - [t] \"b c d\" 1 2 \"r\" \"u\""].map
      (Processor.judgeLine? ⟨.limited 65536, e⟩) = sampleVerdicts := by
  have judge : Processor.judge ⟨.limited 65536, e⟩ = fun r => ⟨r, ⟨Rule.matching Rule.builtin r⟩⟩ :=
    funext fun r => congrArg (Verdict.mk r) (Rule.evaluate_of_ofRules made r)
  unfold Processor.judgeLine?
  rw [judge]
  dsimp only
  decide +kernel

/-- The files with the compressed log. -/
def sampleFiles : FileTree := Files.oneDirectory "raw" [("b.gz", sampleLog)]

theorem lookup_sampleFiles : sampleFiles.lookup "raw" = .ok (Files.placeOf "raw", .directory) :=
  Files.lookup_oneDirectory (by decide) (by decide) (by decide)

/-- Surroundings in which the lines are the input and a log. -/
def sampleSurroundings : Surroundings :=
  { files := sampleFiles, input := Text.encode sampleText, now := Batch.Job.sampleStamp }

/-- Without a file the settings are the usual ones. -/
theorem loaded_sampleFiles : (Config.loadOrDefault sampleFiles [] "raw/c.toml").result = .ok {} := by
  have missing : sampleFiles.lookup "raw/c.toml" = .error .noEntry := by
    rw [show "raw/c.toml" = Files.Path.join "raw" "c.toml" by decide]
    exact Files.lookup_join_of_missing lookup_sampleFiles (by decide) (by decide) rfl
  have absent : Config.ofFile sampleFiles "raw/c.toml" = .error (.configNotFound "raw/c.toml") := by
    simp only [Config.ofFile, FileTree.readText, FileTree.read, FileTree.openFile, missing, Except.map]
  rw [Config.loadOrDefault, absent]
  decide

/-- The usual settings of a batch that leaves its files where the log is. -/
def sampleSettings : Batch.Settings := batchSettings {} none (some "raw") none

theorem logs_sampleFiles (p : Processor) :
    Batch.Job.logs ⟨sampleSettings, p⟩ [("b.gz", .file sampleLog)] = ["raw/b.gz"] := by
  have alone : Files.byBytes [("b.gz", Node.file sampleLog)] = [("b.gz", .file sampleLog)] :=
    List.mergeSort_singleton _
  rw [Batch.Job.logs, alone]
  show ((_ : List (String × Node)).filter (Batch.isLog sampleSettings.inputExtension)).map
    (fun e => Files.Path.join sampleSettings.rawDir e.1) = _
  decide

theorem hasRoom_sampleFiles (p : Processor) :
    Batch.Job.HasRoom ⟨sampleSettings, p⟩ (fun _ => Batch.Job.sampleStamp) sampleFiles ["raw/b.gz"] := by
  rintro done input rest cut -
  obtain rfl : done = [] := by
    cases done with
    | nil => rfl
    | cons first done => simp at cut
  show ∃ file, (Batch.createOutput sampleFiles sampleSettings.sampleDir sampleSettings.outputPrefix
    Batch.Job.sampleStamp).1 = .ok file
  refine Batch.createOutput_of_free lookup_sampleFiles (by decide) (by decide) ?_
  rw [sampleFiles, Files.node?_oneDirectory, Option.map_eq_none_iff]
  decide

theorem check_agrees_with_process_sampleText :
    ∃ lines batch,
      (check sampleSurroundings "raw/c.toml" [] none).report = some (.lines lines) ∧
      lines.total = 3 ∧ lines.skipped = 1 ∧ lines.flagged = 1 ∧
      lines.parsed.map (fun e => (e.clientIp, e.respStatus, e.featureMarked)) =
        [("b", "2", "Yes"), ("a", "1", "No")] ∧
      (process sampleSurroundings "raw/c.toml" none (some "raw") none).report = some (.batch batch) ∧
      ∃ f ∈ batch.report.files, f.input = "raw/b.gz" ∧
        f.stats.linesRead = 3 ∧ f.stats.linesSkipped = 1 ∧ f.stats.flagged = 1 ∧
        ∃ output,
          (process sampleSurroundings "raw/c.toml" none (some "raw") none).files.read f.output =
            .ok output ∧
          Csv.readFile? output = some [
            ["client_ip", "req_headers", "req_body", "resp_headers", "resp_body", "resp_status",
              "feature_marked"],
            ["b", "method=c;path='or1=1;referer=;user_agent=", "", "", "", "2", "Yes"],
            ["a", "method=b;path=c;referer=r;user_agent=u", "", "", "", "1", "No"]] := by
  obtain ⟨e, made⟩ := Rule.exists_ofRules_builtin
  have rules : (Rule.Engine.prepare sampleFiles none).result = .ok (0, e) := by
    rw [Rule.Engine.prepare, made]
    rfl
  have prepared : (Batch.Job.prepare sampleFiles sampleSettings none).result =
      .ok ⟨sampleSettings, ⟨.limited 65536, e⟩⟩ :=
    Batch.Job.prepare_eq_ok_iff.2 ⟨by decide, 0, e, rules, rfl⟩
  have enumerated : Enumerates sampleFiles "raw" [("b.gz", .file sampleLog)] :=
    Files.enumerates_oneDirectory lookup_sampleFiles (by decide) (by decide)
  have read : sampleFiles.read "raw/b.gz" = .ok sampleLog := by
    rw [show "raw/b.gz" = Files.Path.join "raw" "b.gz" by decide]
    exact Files.read_join_oneDirectory lookup_sampleFiles (by decide) (by decide) rfl
  have logs := logs_sampleFiles ⟨.limited 65536, e⟩
  obtain ⟨lines, batch, checked, processed, f, listed, named, -, output, records, found, written, -,
      agrees⟩ :=
    @check_agrees_with_process sampleSurroundings "raw/c.toml" {} none (some "raw") none _ _ sampleText
      "raw/b.gz" _ loaded_sampleFiles prepared enumerated (logs ▸ hasRoom_sampleFiles _)
      (logs ▸ List.mem_singleton_self _) read decompress_sampleLog rfl (by decide)
  have reported := @report_check sampleSurroundings "raw/c.toml" {} none _ _ _ loaded_sampleFiles rules
    inputLines_sampleText
  rw [LineReport.ofLines, judge_sampleText made, checked, Option.some.injEq, Report.lines.injEq]
    at reported
  subst reported
  have total : (LineReport.ofVerdicts sampleVerdicts).total = 3 := rfl
  have skipped : (LineReport.ofVerdicts sampleVerdicts).skipped = 1 := rfl
  have flagged : (LineReport.ofVerdicts sampleVerdicts).flagged = 1 := by decide
  refine ⟨_, batch, checked, total, skipped, flagged, by decide, processed, f, listed, named,
    agrees.total ▸ total, agrees.skipped ▸ skipped, agrees.flagged ▸ flagged, output, found, ?_⟩
  rw [written, LineReport.marked_ofVerdicts, Csv.readFile?_ofRows]
  decide

end ThreatMarker.Cli
