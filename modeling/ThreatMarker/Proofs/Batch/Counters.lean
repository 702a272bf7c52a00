import Mathlib.Data.List.Count
import Mathlib.Data.List.Induction
import Mathlib.Data.List.Nodup
import ThreatMarker.Batch.Job
import ThreatMarker.Proofs.Batch.Lines
/-
# Counters and statistics

What is counted and what is reported of a file are kept apart: the processor counts the lines that it
is given, the reader counts the lines that do not fit its window by hand, and the statistics are the
reader's own.  `Reading` is what the reader holds between two pieces of a stream, and `Agrees` says that
both sides tell the same.  One piece keeps it (`Agrees.step`), so a stream does (`Agrees.whole`), and a
file that is read is counted as its statistics say.  A run counts each of its logs once more, by what
came of it (`Counted.step`), and what a run without failures counts of lines is what its report adds up
to.
-/

namespace ThreatMarker.Batch

set_option autoImplicit false

open Files (FileTree)
open Line (Parser Processor Verdict lineCounts)
open Trace (Counters labelled)

/-! ## Counters -/

/-- Whatever a counter was at, it rises by a number. -/
def Rises (counts : List String) (key : String) (n : Nat) : Prop :=
  ∀ start : Counters, (start.bumpAll counts).count key = start.count key + n

theorem rises_iff {counts : List String} {key : String} {n : Nat} :
    Rises counts key n ↔ counts.count key = n := by
  simp only [Rises, Counters.count_bumpAll, Nat.add_left_cancel_iff]
  exact ⟨fun all => all [], fun same _ => same⟩

section Labels

variable {name label value : String}

/-- A counter with a label is not one without. -/
theorem labelled_ne (key : String) (plain : '\x7b' ∉ key.toList) : labelled name label value ≠ key := by
  rintro rfl
  simp [labelled] at plain

theorem labelled_inj {value' : String} :
    labelled name label value = labelled name label value' ↔ value = value' := by
  simp [labelled, ← String.toList_inj]

/-- Counters of different names are different, whatever their labels are. -/
theorem name_of_labelled (plain : '\x7b' ∉ name.toList) :
    (labelled name label value).toList.takeWhile (· != '\x7b') = name.toList := by
  have before : ∀ c ∈ name.toList, (c != '\x7b') = true :=
    fun c member => bne_iff_ne.2 fun same => plain (same ▸ member)
  simp [labelled, List.takeWhile_append_of_pos before]

theorem labelled_ne_of_name {name' label' value' : String} (plain : '\x7b' ∉ name.toList)
    (plain' : '\x7b' ∉ name'.toList) (other : name ≠ name') :
    labelled name label value ≠ labelled name' label' value' := by
  intro same
  have names := congrArg (fun key : String => key.toList.takeWhile (· != '\x7b')) same
  simp only [name_of_labelled plain, name_of_labelled plain'] at names
  exact other (String.toList_inj.1 names)

end Labels

/-! ## One record -/

section Verdict

variable (v : Verdict)

/-- A record counts for the rules that match it and for its mark. -/
theorem count_counts (key : String) :
    v.counts.count key = (v.evaluation.names.map (labelled Trace.ruleMatches "rule")).count key +
      if v.evaluation.isFlagged = true ∧ Trace.recordsFlagged = key then 1 else 0 := by
  rw [Verdict.counts, List.count_append]
  by_cases flagged : v.evaluation.isFlagged = true
  · simp [flagged, List.count_singleton]
  · simp [flagged]

theorem count_rules_eq_zero {key : String}
    (other : ∀ rule, labelled Trace.ruleMatches "rule" rule ≠ key) (names : List String) :
    (names.map (labelled Trace.ruleMatches "rule")).count key = 0 := by
  rw [List.count_eq_zero, List.mem_map]
  rintro ⟨name, -, same⟩
  exact other name same

/-- It counts for nothing else. -/
theorem count_counts_eq_zero {key : String}
    (rules : ∀ rule, labelled Trace.ruleMatches "rule" rule ≠ key) (mark : Trace.recordsFlagged ≠ key) :
    v.counts.count key = 0 := by
  rw [count_counts, count_rules_eq_zero rules, if_neg fun both => mark both.2]

theorem count_counts_flagged :
    v.counts.count Trace.recordsFlagged = if v.evaluation.isFlagged then 1 else 0 := by
  rw [count_counts, count_rules_eq_zero fun rule => labelled_ne _ (by decide)]
  simp

theorem count_counts_rule (rule : String) :
    v.counts.count (labelled Trace.ruleMatches "rule" rule) = v.evaluation.names.count rule := by
  have mark : labelled Trace.ruleMatches "rule" rule ≠ Trace.recordsFlagged := labelled_ne _ (by decide)
  rw [count_counts, if_neg fun both => mark both.2.symm, Nat.add_zero]
  exact List.count_map_of_injective _ _ (fun _ _ same => labelled_inj.1 same) _

theorem count_counts_files (result : String) :
    v.counts.count (labelled Trace.filesProcessed "result" result) = 0 :=
  count_counts_eq_zero v (fun rule => labelled_ne_of_name (by decide) (by decide) (by decide))
    (labelled_ne Trace.recordsFlagged (by decide)).symm

end Verdict

/-- A line that is skipped counts for no counter with a label. -/
theorem count_skipped_labelled (name label value : String) :
    [Trace.linesRead, Trace.linesSkipped].count (labelled name label value) = 0 := by
  rw [List.count_eq_zero]
  simp [labelled_ne Trace.linesRead (by decide), labelled_ne Trace.linesSkipped (by decide)]

theorem count_lineCounts_labelled (v : Verdict) (name label value : String) :
    (lineCounts (some v)).count (labelled name label value) =
      v.counts.count (labelled name label value) :=
  List.count_cons_of_ne (labelled_ne Trace.linesRead (by decide)).symm

/-! ## The reader -/

/-- What the reader holds between two pieces. -/
structure Reading where
  rows : List Row := []
  stats : Stats := {}
  counts : List String := []

namespace Reading

/-- A line is skipped, and some keys are counted for it. -/
def skip (s : Reading) (counts : List String) : Reading where
  rows := s.rows
  stats := { s.stats with
    linesRead := s.stats.linesRead + 1
    linesSkipped := s.stats.linesSkipped + 1 }
  counts := s.counts ++ counts

/-- A line becomes a row, and some keys are counted for it. -/
def mark (s : Reading) (v : Verdict) (counts : List String) : Reading where
  rows := s.rows ++ [v.row]
  stats := { s.stats with
    linesRead := s.stats.linesRead + 1
    rows := s.stats.rows + 1
    flagged := s.stats.flagged + if v.row.isFlagged then 1 else 0 }
  counts := s.counts ++ counts

/-- Take one more piece.  The processor counts for the lines that it is given; for a line that does not
fit the window the reader has to. -/
def step (p : Processor) (s : Reading) : Piece → Reading
  | .overlong => s.skip [Trace.linesRead, Trace.linesSkipped]
  | .line content =>
      match p.judgeLine? (lineText content) with
      | none => s.skip (lineCounts none)
      | some v => s.mark v (lineCounts (some v))

/-- Take pieces one after the other. -/
def read (p : Processor) (cut : List Piece) : Reading := cut.foldl (step p) {}

theorem step_eq (p : Processor) (verdicts : List (Option Verdict)) (piece : Piece) :
    step p ⟨(contentOf verdicts).rows, (contentOf verdicts).stats, verdicts.flatMap lineCounts⟩ piece =
      let more := verdicts ++ [judgePiece? p.judgeLine? piece]
      ⟨(contentOf more).rows, (contentOf more).stats, more.flatMap lineCounts⟩ := by
  cases piece with
  | overlong =>
      simp [step, skip, judgePiece?, contentOf, Stats.ofLines, lineCounts]
  | line content =>
      cases judged : p.judgeLine? (lineText content) with
      | none => simp [step, skip, judgePiece?, judged, contentOf, Stats.ofLines, lineCounts]
      | some v => simp [step, mark, judgePiece?, judged, contentOf, Stats.ofLines, lineCounts]

/-- What the reader holds in the end is what a stream is said to give. -/
theorem read_eq (p : Processor) (cut : List Piece) :
    read p cut =
      let verdicts := cut.map (judgePiece? p.judgeLine?)
      ⟨(contentOf verdicts).rows, (contentOf verdicts).stats, verdicts.flatMap lineCounts⟩ := by
  induction cut using List.reverseRecOn with
  | nil => rfl
  | append_singleton cut piece ih =>
      have last : read p (cut ++ [piece]) = step p (read p cut) piece := by simp [read]
      rw [last, ih, step_eq]
      simp

end Reading

/-! ## Counters and statistics agree -/

/-- The record of a piece, unless the piece is skipped. -/
def recordOf? (parser : Parser) : Piece → Option Record
  | .overlong => none
  | .line content => parser.read? (lineText content)

/-- The records of a stream. -/
def recordsOf (parser : Parser) (maxLength : Nat) (s : Gzip.Stream) : List Record :=
  (pieces maxLength s).filterMap (recordOf? parser)

/-- What was counted, the statistics and the rows tell the same of the records so far. -/
structure Agrees (p : Processor) (records : List Record) (s : Reading) : Prop where
  read : s.counts.count Trace.linesRead = s.stats.linesRead
  skipped : s.counts.count Trace.linesSkipped = s.stats.linesSkipped
  flagged : s.counts.count Trace.recordsFlagged = s.stats.flagged
  matched : ∀ rule, s.counts.count (labelled Trace.ruleMatches "rule" rule) =
    (records.flatMap fun r => (p.engine.evaluate r).names).count rule
  files : ∀ result, s.counts.count (labelled Trace.filesProcessed "result" result) = 0
  balance : s.stats.linesRead = s.stats.linesSkipped + s.stats.rows
  rows : s.rows = records.map fun r => (p.judge r).row
  number : s.stats.rows = s.rows.length
  marked : s.stats.flagged = s.rows.countP Row.isFlagged

namespace Agrees

variable {p : Processor} {records : List Record} {s : Reading}

theorem start (p : Processor) : Agrees p [] {} := by
  constructor <;> simp

/-- A line that is skipped is counted as one that was read and skipped, whoever counts it. -/
theorem skip (before : Agrees p records s) :
    Agrees p records (s.skip [Trace.linesRead, Trace.linesSkipped]) := by
  constructor <;> simp only [Reading.skip, List.count_append]
  · rw [before.read]
    rfl
  · rw [before.skipped]
    rfl
  · rw [before.flagged]
    rfl
  · intro rule
    rw [before.matched, count_skipped_labelled]
    rfl
  · intro result
    rw [before.files, count_skipped_labelled]
  · rw [before.balance]
    omega
  · exact before.rows
  · exact before.number
  · exact before.marked

/-- A record is counted as a line that was read, by the rules that match it and by its mark. -/
theorem mark (before : Agrees p records s) (r : Record) :
    Agrees p (records ++ [r]) (s.mark (p.judge r) (lineCounts (some (p.judge r)))) := by
  have read : (p.judge r).counts.count Trace.linesRead = 0 :=
    count_counts_eq_zero _ (fun _ => labelled_ne _ (by decide)) (by decide)
  have skipped : (p.judge r).counts.count Trace.linesSkipped = 0 :=
    count_counts_eq_zero _ (fun _ => labelled_ne _ (by decide)) (by decide)
  constructor <;> simp only [Reading.mark, List.count_append]
  · rw [before.read, lineCounts, List.count_cons_self, read]
  · rw [before.skipped, lineCounts, List.count_cons_of_ne (by decide), skipped]
    rfl
  · rw [before.flagged, lineCounts, List.count_cons_of_ne (by decide), count_counts_flagged,
      Verdict.isFlagged_row]
  · intro rule
    rw [before.matched, count_lineCounts_labelled, count_counts_rule, List.flatMap_append,
      List.count_append, List.flatMap_singleton]
    rfl
  · intro result
    rw [before.files, count_lineCounts_labelled, count_counts_files]
  · rw [before.balance]
    omega
  · rw [before.rows, List.map_append]
    rfl
  · rw [before.number]
    simp
  · rw [before.marked, List.countP_append, List.countP_singleton]

/-- **One piece keeps both sides in step.** -/
theorem step (before : Agrees p records s) (piece : Piece) :
    Agrees p (records ++ (recordOf? p.parser piece).toList) (s.step p piece) := by
  cases piece with
  | overlong =>
      rw [recordOf?, Option.toList_none, List.append_nil]
      exact before.skip
  | line content =>
      cases read : p.parser.read? (lineText content) with
      | none =>
          simp only [recordOf?, Reading.step, Processor.judgeLine?, read, Option.map_none,
            Option.toList_none, List.append_nil]
          exact before.skip
      | some r =>
          simp only [recordOf?, Reading.step, Processor.judgeLine?, read, Option.map_some,
            Option.toList_some]
          exact before.mark r

theorem foldl_step (before : Agrees p records s) (cut : List Piece) :
    Agrees p (records ++ cut.filterMap (recordOf? p.parser)) (cut.foldl (Reading.step p) s) := by
  induction cut generalizing records s with
  | nil => simpa using before
  | cons piece cut ih =>
      have after := ih (before.step piece)
      rw [List.append_assoc] at after
      rw [List.foldl_cons, List.filterMap_cons]
      cases read : recordOf? p.parser piece <;> simpa [read] using after

/-- **The whole of a stream is counted as its statistics say.** -/
theorem whole (p : Processor) (cut : List Piece) :
    Agrees p (cut.filterMap (recordOf? p.parser)) (Reading.read p cut) :=
  (start p).foldl_step cut

end Agrees

/-- A file is counted as the pieces are that were read of it. -/
theorem exists_counts_readLog (p : Processor) (t : FileTree) (path : String) (maxLength : Nat) :
    ∃ cut, (readLog p t path maxLength).counts = (Reading.read p cut).counts := by
  unfold readLog
  split
  · exact ⟨[], rfl⟩
  · split
    · exact ⟨[], rfl⟩
    · rename_i data _
      exact ⟨pieces maxLength (Gzip.decompress data), by rw [Reading.read_eq]; rfl⟩

/-- What is counted of a file that is read agrees with what is given of it. -/
theorem agrees_of_readLog {p : Processor} {t : FileTree} {path : String} {maxLength : Nat}
    {content : FileContent} (ok : (readLog p t path maxLength).result = .ok content) :
    ∃ data, t.read path = .ok data ∧
      Agrees p (recordsOf p.parser maxLength (Gzip.decompress data))
        ⟨content.rows, content.stats, (readLog p t path maxLength).counts⟩ := by
  unfold readLog at ok ⊢
  unfold FileTree.read
  cases opened : t.openFile path with
  | error e => simp [opened] at ok
  | ok node =>
      cases found : FileTree.contentOf node with
      | error e => simp [opened, found] at ok
      | ok data =>
          refine ⟨data, found, ?_⟩
          simp only [opened, found, readStream] at ok ⊢
          have whole := Agrees.whole p (pieces maxLength (Gzip.decompress data))
          rw [Reading.read_eq] at whole
          split at ok
          · cases ok
            exact whole
          · cases ok

/-- A rule whose name is its own is counted once for each record that it matches. -/
theorem count_names {e : Rule.Engine} (distinct : e.names.Nodup) (records : List Record)
    (rule : String) :
    (records.flatMap fun r => (e.evaluate r).names).count rule =
      records.countP fun r => e.matchers.any fun m => m.name == rule && m.isMatch r := by
  induction records with
  | nil => rfl
  | cons r records ih =>
      have names : (e.evaluate r).names = (e.matchers.filter fun m => m.isMatch r).map Rule.Matcher.name := by
        simp [Rule.Engine.evaluate, Rule.Evaluation.names]
      have once : ((e.evaluate r).names).Nodup := by
        rw [names]
        exact distinct.sublist (List.filter_sublist.map _)
      have known : rule ∈ (e.evaluate r).names ↔
          (e.matchers.any fun m => m.name == rule && m.isMatch r) = true := by
        simp only [names, List.mem_map, List.mem_filter, List.any_eq_true, Bool.and_eq_true, beq_iff_eq]
        exact exists_congr fun m => and_assoc.trans (and_congr_right' and_comm)
      rw [List.flatMap_cons, List.count_append, ih, List.countP_cons, Nat.add_comm, once.count]
      simp only [known]

/-! ## A run -/

theorem total_concat (all : List Stats) (one : Stats) :
    Stats.total (all ++ [one]) = (Stats.total all).add one := by
  simp [Stats.total]

namespace Job

variable (job : Job) (stamp : Stamp)

/-- What dealing with one log adds: it is converted with the statistics of its content, or it fails, and
it is counted once more accordingly. -/
theorem step_cases (p : Progress) (input : String) :
    let run := readLog job.processor p.tree input job.settings.maxLineLength
    let after := job.step stamp p input
    (∃ content report, run.result = .ok content ∧ report.stats = content.stats ∧
        after.files = report :: p.files ∧ after.failures = p.failures ∧
        after.counts = (run.counts ++ [labelled Trace.filesProcessed "result" "ok"]) :: p.counts) ∨
      ∃ failure, after.files = p.files ∧ after.failures = failure :: p.failures ∧
        after.counts = (run.counts ++ [labelled Trace.filesProcessed "result" "error"]) :: p.counts := by
  dsimp only
  cases read : (readLog job.processor p.tree input job.settings.maxLineLength).result with
  | error f =>
      refine .inr ⟨⟨input, f.message⟩, ?_⟩
      simp only [step, convert, read, and_self]
  | ok content =>
      cases made : createOutput p.tree job.settings.sampleDir job.settings.outputPrefix stamp with
      | mk result t =>
          cases result with
          | error f =>
              refine .inr ⟨⟨input, f.message⟩, ?_⟩
              simp only [step, convert, read, made, and_self]
          | ok file =>
              cases written : writeRows t file.place content.rows with
              | error f =>
                  refine .inr ⟨⟨input, f.message⟩, ?_⟩
                  simp only [step, convert, read, made, written, and_self]
              | ok t =>
                  refine .inl ⟨content, ⟨input, file.path, content.stats⟩, rfl, rfl, ?_⟩
                  simp only [step, convert, read, made, written, and_self]

end Job

/-- What was counted in the course of a run agrees with what came of the logs. -/
structure Counted (p : Progress) : Prop where
  converted : p.counts.reverse.flatten.count (labelled Trace.filesProcessed "result" "ok") =
    p.files.length
  failed : p.counts.reverse.flatten.count (labelled Trace.filesProcessed "result" "error") =
    p.failures.length
  read : p.failures = [] → p.counts.reverse.flatten.count Trace.linesRead =
    (Stats.total (p.files.reverse.map FileReport.stats)).linesRead
  skipped : p.failures = [] → p.counts.reverse.flatten.count Trace.linesSkipped =
    (Stats.total (p.files.reverse.map FileReport.stats)).linesSkipped
  flagged : p.failures = [] → p.counts.reverse.flatten.count Trace.recordsFlagged =
    (Stats.total (p.files.reverse.map FileReport.stats)).flagged

namespace Counted

theorem start (t : FileTree) : Counted { tree := t } := by
  constructor <;> simp [Stats.total]

/-- **One log keeps it.** -/
theorem step {p : Progress} (before : Counted p) (job : Job) (stamp : Stamp) (input : String) :
    Counted (job.step stamp p input) := by
  obtain ⟨cut, run⟩ := exists_counts_readLog job.processor p.tree input job.settings.maxLineLength
  have files (result : String) :
      (readLog job.processor p.tree input job.settings.maxLineLength).counts.count
        (labelled Trace.filesProcessed "result" result) = 0 := by
    rw [run]
    exact (Agrees.whole job.processor cut).files result
  rcases job.step_cases stamp p input with
    ⟨content, report, ok, stats, reports, failures, counts⟩ | ⟨failure, reports, failures, counts⟩
  · obtain ⟨data, -, agrees⟩ := agrees_of_readLog ok
    have other (key : String) (plain : '\x7b' ∉ key.toList) :
        [labelled Trace.filesProcessed "result" "ok"].count key = 0 := by
      simp [labelled_ne key plain]
    have totals : Stats.total ((job.step stamp p input).files.reverse.map FileReport.stats) =
        (Stats.total (p.files.reverse.map FileReport.stats)).add content.stats := by
      rw [reports, List.reverse_cons, List.map_append, List.map_singleton, total_concat, stats]
    constructor <;>
      rw [counts, List.reverse_cons, List.flatten_append, List.flatten_singleton, List.count_append,
        List.count_append]
    · rw [before.converted, files, reports]
      simp
    · rw [before.failed, files, failures]
      simp [labelled_inj]
    · intro none
      rw [before.read (failures ▸ none), agrees.read, other _ (by decide), totals]
      rfl
    · intro none
      rw [before.skipped (failures ▸ none), agrees.skipped, other _ (by decide), totals]
      rfl
    · intro none
      rw [before.flagged (failures ▸ none), agrees.flagged, other _ (by decide), totals]
      rfl
  · have clean : (job.step stamp p input).failures ≠ [] := by simp [failures]
    constructor <;>
      rw [counts, List.reverse_cons, List.flatten_append, List.flatten_singleton, List.count_append,
        List.count_append]
    · rw [before.converted, files, reports]
      simp [labelled_inj]
    · rw [before.failed, files, failures]
      simp
    all_goals exact fun none => absurd none clean

/-- **A whole run keeps it.** -/
theorem foldl_step {p : Progress} (before : Counted p) (job : Job) (clock : String → Stamp)
    (inputs : List String) :
    Counted (inputs.foldl (fun p input => job.step (clock input) p input) p) := by
  induction inputs generalizing p with
  | nil => exact before
  | cons input inputs ih => exact ih (before.step job (clock input) input)

end Counted

/-! ## The counters and what is reported -/

/-- **Counters and statistics never drift apart.**  Where a file is read, the counters rise by what its
statistics say, the counter of a name by the matches under it, which are the rows whose record its rule
matches where a name is that of one rule, as with all engines that rules make; and the statistics fit
the rows.  Over a run each log is counted by its outcome, and if none fails the counters rise by the totals. -/
theorem counters_rise_by_statistics :
    (∀ (p : Processor) (t : FileTree) (path : String) (maxLength : Nat) (content : FileContent),
      (readLog p t path maxLength).result = .ok content →
      ∃ data, t.read path = .ok data ∧
        let records := recordsOf p.parser maxLength (Gzip.decompress data)
        let counts := (readLog p t path maxLength).counts
        Rises counts Trace.linesRead content.stats.linesRead ∧
          Rises counts Trace.linesSkipped content.stats.linesSkipped ∧
          Rises counts Trace.recordsFlagged content.stats.flagged ∧
          (∀ rule, Rises counts (labelled Trace.ruleMatches "rule" rule)
            ((records.flatMap fun r => (p.engine.evaluate r).names).count rule)) ∧
          (p.engine.names.Nodup → ∀ rule, Rises counts (labelled Trace.ruleMatches "rule" rule)
            (records.countP fun r => p.engine.matchers.any fun m => m.name == rule && m.isMatch r)) ∧
          content.rows = records.map (fun r => (p.judge r).row) ∧
          content.stats.linesRead = content.stats.linesSkipped + content.stats.rows ∧
          content.stats.rows = content.rows.length ∧
          content.stats.flagged = content.rows.countP Row.isFlagged) ∧
      ∀ (job : Job) (clock : String → Stamp) (t : FileTree),
        match (job.runAt clock t).result with
        | .error _ => (job.runAt clock t).counts = []
        | .ok report =>
            let counts := (job.runAt clock t).counts
            Rises counts (labelled Trace.filesProcessed "result" "ok") report.files.length ∧
              Rises counts (labelled Trace.filesProcessed "result" "error") report.failures.length ∧
              (report.failures = [] →
                Rises counts Trace.linesRead report.totals.linesRead ∧
                  Rises counts Trace.linesSkipped report.totals.linesSkipped ∧
                  Rises counts Trace.recordsFlagged report.totals.flagged) := by
  constructor
  · intro p t path maxLength content ok
    obtain ⟨data, found, agrees⟩ := agrees_of_readLog ok
    refine ⟨data, found, ?_⟩
    dsimp only
    refine ⟨rises_iff.2 agrees.read, rises_iff.2 agrees.skipped, rises_iff.2 agrees.flagged,
      fun rule => rises_iff.2 (agrees.matched rule), fun distinct rule => ?_, agrees.rows,
      agrees.balance, agrees.number, agrees.marked⟩
    exact rises_iff.2 ((agrees.matched rule).trans (count_names distinct _ rule))
  · intro job clock t
    cases scanned : scan t job.settings.rawDir job.settings.inputExtension with
    | error f => simp only [Job.runAt, scanned]
    | ok inputs =>
        have all := (Counted.start t).foldl_step job clock inputs
        simp only [Job.runAt, scanned, rises_iff, List.length_reverse, List.reverse_eq_nil_iff]
        exact ⟨all.converted, all.failed, fun none => ⟨all.read none, all.skipped none, all.flagged none⟩⟩

/-- A processor that takes short lines as they are and looks for question marks. -/
def sampleProcessor : Processor where
  parser :=
    { name := "short"
      read? := fun line => if 29 < line.utf8ByteSize then none else some { path := line } }
  engine := ⟨[⟨"question", 1, true, [.contains .path "?"], .ofTexts []⟩]⟩

theorem counters_of_sampleFile :
    let run := readLog sampleProcessor (FileTree.empty.put ⟨false, ["a.gz"]⟩ (.file sampleFile)) "a.gz" 29
    Rises run.counts Trace.linesRead 3 ∧ Rises run.counts Trace.linesSkipped 1 ∧
      Rises run.counts Trace.recordsFlagged 1 ∧
      Rises run.counts (labelled Trace.ruleMatches "rule" "question") 1 := by
  have stream : Gzip.decompress sampleFile =
      ⟨List.replicate 31 120 ++ lineFeed :: (sampleLine ++ [carriageReturn, lineFeed, 63]), none⟩ := by
    decide +kernel
  have whole : (Gzip.decompress sampleFile).fault = none := congrArg Gzip.Stream.fault stream
  have lines : linesOf (Gzip.decompress sampleFile).bytes =
      [List.replicate 31 120, sampleLine ++ [carriageReturn], [63]] := by
    rw [stream]
    decide +kernel
  have limited (line : String) (long : 29 < line.utf8ByteSize) :
      sampleProcessor.parser.read? line = none := if_pos long
  have read : (readLog sampleProcessor (FileTree.empty.put ⟨false, ["a.gz"]⟩ (.file sampleFile))
      "a.gz" 29).result = .ok (readAll sampleProcessor (Gzip.decompress sampleFile).bytes) := by
    rw [readLog_of_read read_sampleFile]
    exact (readStream_eq_ok_iff limited _ _ _).2 ⟨whole, rfl⟩
  obtain ⟨data, found, linesRead, linesSkipped, flagged, -, matched, -⟩ :=
    counters_rise_by_statistics.1 _ _ _ _ _ read
  rw [read_sampleFile] at found
  cases found
  have one := matched (by decide) "question"
  rw [recordsOf, pieces_of_whole 29 whole, lines] at one
  have stats : (readAll sampleProcessor (Gzip.decompress sampleFile).bytes).stats = ⟨3, 1, 2, 1⟩ := by
    simp only [readAll, lines]
    decide +kernel
  rw [stats] at linesRead linesSkipped flagged
  have hits : (([List.replicate 31 120, sampleLine ++ [carriageReturn], [63]].map (pieceOf 29)).filterMap
      (recordOf? sampleProcessor.parser)).countP (fun r => sampleProcessor.engine.matchers.any
        fun m => m.name == "question" && m.isMatch r) = 1 := by
    decide +kernel
  rw [hits] at one
  exact ⟨linesRead, linesSkipped, flagged, one⟩

end ThreatMarker.Batch
