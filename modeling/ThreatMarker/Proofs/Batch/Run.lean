import Mathlib.Data.List.Induction
import ThreatMarker.Batch.Job
import ThreatMarker.Proofs.Batch.Lines
import ThreatMarker.Proofs.Batch.Outputs
import ThreatMarker.Proofs.Record.Csv
/-
# A run over the logs of a directory

A log that cannot be read leaves the files as they are; one that can be read gets a new file with its
rows, and nothing else changes but that directories are made (`Written`).  So the files only ever grow
in the course of a run, and every log is read as if it were the only one.  `Converted` is what holds
after some of the logs: each has been listed among the converted or the failed ones, as reading it alone
says, and each of the converted ones has an output of its own.  One step keeps it
(`Converted.step`), and so does a run (`converted_after`).
-/

namespace ThreatMarker.Batch

set_option autoImplicit false

open Files (Entries Enumerates Extends FileTree Keeps Node Place byBytes)

/-! ## Output files -/

/-- What writing a new file at a path does to a tree: it is found there, where nothing was found, and
beside it there are new directories at most. -/
structure Written (t t' : FileTree) (path : String) (content : ByteArray) : Prop where
  extend : Extends t t'
  fresh : ∀ p n, t.lookup path ≠ .ok (p, n)
  found : ∃ place, t'.lookup path = .ok (place, .file content) ∧
    ∀ p n, t'.node? p = some n → t.node? p = some n ∨ n = .directory ∨
      (p.key = place.key ∧ n = .file content)

theorem writeRows_of_empty {t : FileTree} {place : Place} (empty : t.node? place = some (.file .empty))
    (rows : List Row) :
    writeRows t place rows = .ok (t.put place (.file (Csv.ofRows rows).toUTF8)) := by
  simp only [writeRows, FileTree.write, empty]

/-- **Making an output file and filling it leaves everything else as it was.** -/
theorem written_of_createOutput {t t₁ : FileTree} {dir namePrefix : String} {stamp : Stamp}
    {file : NewFile} (ok : createOutput t dir namePrefix stamp = (.ok file, t₁)) (rows : List Row) :
    ∃ t₂, writeRows t₁ file.place rows = .ok t₂ ∧
      Written t t₂ file.path (Csv.ofRows rows).toUTF8 := by
  have made := madeIn_of_createOutput ok
  obtain ⟨located, empty, fits⟩ := Files.lookup_eq_ok_iff.1 made.found
  refine ⟨_, writeRows_of_empty empty rows, ?_⟩
  have filled : Keeps t₁ (t₁.put file.place (.file (Csv.ofRows rows).toUTF8)) := .put_file empty _
  constructor
  · intro p n there
    rw [FileTree.node?_put, if_neg]
    · exact made.extend p n there
    · intro same
      rw [← Files.node?_congr same, made.apart] at there
      cases there
  · exact fun p n found => made.fresh ⟨p, n, found⟩
  · refine ⟨file.place, Files.lookup_eq_ok_iff.2 ⟨filled.locate located, ?_, fun asks => ?_⟩,
      fun p n there => ?_⟩
    · rw [FileTree.node?_put, if_pos rfl]
    · exact absurd (fits asks) (by simp [Node.isDirectory])
    · rw [FileTree.node?_put] at there
      split at there
      · rename_i same
        cases there
        exact .inr (.inr ⟨same.symm, rfl⟩)
      · rename_i other
        rcases made.only p n there with there | directory | ⟨same, -⟩
        · exact .inl there
        · exact .inr (.inl directory)
        · exact absurd same.symm other

/-- An output file is made in a directory that has nothing of its name. -/
theorem createOutput_of_free {t : FileTree} {dir namePrefix : String} {stamp : Stamp} {p : Place}
    (found : t.lookup dir = .ok (p, .directory))
    (entry : FileTree.isEntryName (outputName (outputStem namePrefix stamp) 0).toList = true)
    (whole : Files.entryFault? dir (outputName (outputStem namePrefix stamp) 0) = none)
    (free : t.node? (p.child (outputName (outputStem namePrefix stamp) 0)) = none) :
    ∃ file, (createOutput t dir namePrefix stamp).1 = .ok file := by
  have given := (Files.walk_of_locate (Files.lookup_eq_ok_iff.1 found).1).1
  have made := Files.createNew_eq_ok_iff.2 ⟨by rw [Files.locate_join found entry, whole],
    Files.asksForDirectory_join given entry, free, rfl⟩
  rw [createOutput, Files.ensureDirectory_of_lookup found]
  simp only [show maxAttempts = 9999 + 1 from rfl, tryNames, made]
  exact ⟨_, rfl⟩

namespace Job

variable {job : Job} {clock : String → Stamp} {stamp : Stamp} {t t' : FileTree} {input : String}

/-! ## Setting up -/

/-- A job takes over the rules that were prepared. -/
theorem ofPrepared_eq_ok_iff {settings : Settings} {reported : Rule.Reported (Nat × Rule.Engine)} :
    (ofPrepared settings none reported).result = .ok job ↔
      ∃ count e, reported.result = .ok (count, e) ∧
        job = ⟨settings, ⟨.limited settings.maxLineLength, e⟩⟩ := by
  obtain ⟨result, events⟩ := reported
  cases result with
  | error f => simp [ofPrepared]
  | ok both => simp [ofPrepared, Prod.ext_iff, eq_comm]

/-- A job is prepared with the rules of its settings, if these are in order. -/
theorem prepare_eq_ok_iff {settings : Settings} :
    (prepare t settings none).result = .ok job ↔
      settings.validate = .ok () ∧
        ∃ count e, (Rule.Engine.prepare t settings.rulesDir).result = .ok (count, e) ∧
          job = ⟨settings, ⟨.limited settings.maxLineLength, e⟩⟩ := by
  unfold prepare
  cases settings.validate with
  | error f => simp
  | ok valid => simpa using ofPrepared_eq_ok_iff

/-- Settings that are not in order are refused, and else only their rules can be. -/
theorem prepare_eq_error_iff {settings : Settings} {parser : Option Line.Parser} {f : Failure} :
    (prepare t settings parser).result = .error f ↔
      settings.validate = .error f ∨
        settings.validate = .ok () ∧ (Rule.Engine.prepare t settings.rulesDir).result = .error f := by
  unfold prepare
  cases settings.validate with
  | error refused => simp
  | ok valid =>
      generalize Rule.Engine.prepare t settings.rulesDir = reported
      obtain ⟨result, events⟩ := reported
      cases result <;> simp [ofPrepared]

/-! ## One log -/

/-- What reading a log comes to when nothing else is done. -/
def alone (job : Job) (t : FileTree) (input : String) : Except Failure FileContent :=
  (readLog job.processor t input job.settings.maxLineLength).result

/-- What is read depends on the file alone. -/
theorem alone_congr (same : t'.openFile input = t.openFile input) :
    job.alone t' input = job.alone t input := by
  simp only [alone, readLog, same]

theorem alone_of_read {data : ByteArray} (found : t.read input = .ok data) :
    job.alone t input =
      (readStream job.processor input job.settings.maxLineLength (Gzip.decompress data)).result := by
  rw [alone, readLog_of_read found]

/-- The failure of a log that cannot be read. -/
def failureOf? (job : Job) (t : FileTree) (input : String) : Option FileFailure :=
  match job.alone t input with
  | .ok _ => none
  | .error f => some ⟨input, f.message⟩

/-- The statistics of a log that can be read. -/
def statsOf? (job : Job) (t : FileTree) (input : String) : Option (String × Stats) :=
  match job.alone t input with
  | .ok content => some (input, content.stats)
  | .error _ => none

theorem failureOf?_eq_some_iff {failure : FileFailure} :
    job.failureOf? t input = some failure ↔
      ∃ f, job.alone t input = .error f ∧ failure = ⟨input, f.message⟩ := by
  unfold failureOf?
  cases job.alone t input <;> simp [eq_comm]

theorem statsOf?_eq_some_iff {stats : String × Stats} :
    job.statsOf? t input = some stats ↔
      ∃ content, job.alone t input = .ok content ∧ stats = (input, content.stats) := by
  unfold statsOf?
  cases job.alone t input <;> simp [eq_comm]

/-- A log that cannot be read changes nothing. -/
theorem step_of_failed (stamp : Stamp) {f : Failure} {p : Progress}
    (failed : job.alone p.tree input = .error f) :
    (job.step stamp p input).tree = p.tree ∧ (job.step stamp p input).files = p.files ∧
      (job.step stamp p input).failures = ⟨input, f.message⟩ :: p.failures := by
  unfold alone at failed
  simp only [Job.step, convert, failed, and_self]

/-- A log that can be read gets a new file with its rows, if one can be made. -/
theorem step_of_read {content : FileContent} {p : Progress} {file : NewFile}
    (read : job.alone p.tree input = .ok content)
    (room : (createOutput p.tree job.settings.sampleDir job.settings.outputPrefix stamp).1 = .ok file) :
    Written p.tree (job.step stamp p input).tree file.path (Csv.ofRows content.rows).toUTF8 ∧
      (job.step stamp p input).files = ⟨input, file.path, content.stats⟩ :: p.files ∧
        (job.step stamp p input).failures = p.failures := by
  unfold alone at read
  obtain ⟨t₁, made⟩ : ∃ t₁,
      createOutput p.tree job.settings.sampleDir job.settings.outputPrefix stamp = (.ok file, t₁) :=
    ⟨_, Prod.ext room rfl⟩
  obtain ⟨t₂, rows, written⟩ := written_of_createOutput made content.rows
  simp only [Job.step, convert, read, made, rows, and_self, and_true]
  exact written

/-! ## Some of the logs -/

/-- What holds after some of the logs of a tree were dealt with. -/
structure Converted (job : Job) (t : FileTree) (done : List String) (p : Progress) : Prop where
  extend : Extends t p.tree
  files : p.files.reverse.map (fun f => (f.input, f.stats)) = done.filterMap (job.statsOf? t)
  failures : p.failures.reverse = done.filterMap (job.failureOf? t)
  distinct : (p.files.map FileReport.output).Nodup
  outputs : ∀ f ∈ p.files, ∃ content place, job.alone t f.input = .ok content ∧
    f.stats = content.stats ∧ (∀ q n, t.lookup f.output ≠ .ok (q, n)) ∧
      p.tree.lookup f.output = .ok (place, .file (Csv.ofRows content.rows).toUTF8)
  only : ∀ q n, p.tree.node? q = some n → t.node? q = some n ∨ n = .directory ∨
    ∃ f ∈ p.files, ∃ place, p.tree.lookup f.output = .ok (place, n) ∧ q.key = place.key

theorem Converted.start (job : Job) (t : FileTree) : Converted job t [] { tree := t } where
  extend := .refl t
  files := rfl
  failures := rfl
  distinct := List.nodup_nil
  outputs f member := by cases member
  only q n there := .inl there

/-- A log that fails is listed, and nothing else changes. -/
theorem Converted.step_of_failed (stamp : Stamp) {done : List String} {p : Progress} {f : Failure}
    (before : Converted job t done p) (same : job.alone p.tree input = job.alone t input)
    (alone : job.alone t input = .error f) :
    Converted job t (done ++ [input]) (job.step stamp p input) := by
  obtain ⟨tree, files, failures⟩ := Job.step_of_failed stamp (same.trans alone)
  constructor
  · rw [tree]
    exact before.extend
  · rw [files, before.files, List.filterMap_append]
    simp [statsOf?, alone]
  · rw [failures, List.reverse_cons, before.failures, List.filterMap_append]
    simp [failureOf?, alone]
  · rw [files]
    exact before.distinct
  · rw [files, tree]
    exact before.outputs
  · rw [files, tree]
    exact before.only

/-- A log that is read is listed with an output file of its own. -/
theorem Converted.step_of_read {done : List String} {p : Progress} {content : FileContent}
    {file : NewFile} (before : Converted job t done p)
    (same : job.alone p.tree input = job.alone t input) (alone : job.alone t input = .ok content)
    (made : (createOutput p.tree job.settings.sampleDir job.settings.outputPrefix stamp).1 = .ok file) :
    Converted job t (done ++ [input]) (job.step stamp p input) := by
  obtain ⟨written, files, failures⟩ := Job.step_of_read (same.trans alone) made
  obtain ⟨place, found, only⟩ := written.found
  constructor
  · exact before.extend.trans written.extend
  · rw [files, List.reverse_cons, List.map_append, before.files, List.filterMap_append]
    simp [statsOf?, alone]
  · rw [failures, before.failures, List.filterMap_append]
    simp [failureOf?, alone]
  · rw [files, List.map_cons, List.nodup_cons]
    refine ⟨fun known => ?_, before.distinct⟩
    obtain ⟨f, member, output⟩ := List.mem_map.1 known
    obtain ⟨_, _, -, -, -, there⟩ := before.outputs f member
    rw [output] at there
    exact written.fresh _ _ there
  · rw [files]
    refine List.forall_mem_cons.2 ⟨?_, fun f member => ?_⟩
    · exact ⟨content, place, alone, rfl, fun q n there =>
        written.fresh q n (before.extend.lookup there), found⟩
    · obtain ⟨content', place', alone', stats, fresh, there⟩ := before.outputs f member
      exact ⟨content', place', alone', stats, fresh, written.extend.lookup there⟩
  · intro q n there
    rw [files]
    rcases only q n there with there | directory | ⟨key, rfl⟩
    · rcases before.only q n there with there | directory | ⟨f, member, place', there, key⟩
      · exact .inl there
      · exact .inr (.inl directory)
      · have later := List.mem_cons_of_mem (⟨input, file.path, content.stats⟩ : FileReport) member
        exact .inr (.inr ⟨f, later, place', written.extend.lookup there, key⟩)
    · exact .inr (.inl directory)
    · exact .inr (.inr ⟨_, List.mem_cons_self, place, found, key⟩)

/-- **One more log is dealt with as reading it alone says.** -/
theorem Converted.step {done : List String} {p : Progress} (before : Converted job t done p)
    (same : job.alone p.tree input = job.alone t input)
    (room : ∀ content, job.alone t input = .ok content → ∃ file,
      (createOutput p.tree job.settings.sampleDir job.settings.outputPrefix stamp).1 = .ok file) :
    Converted job t (done ++ [input]) (job.step stamp p input) := by
  cases alone : job.alone t input with
  | error f => exact before.step_of_failed stamp same alone
  | ok content =>
      obtain ⟨file, made⟩ := room content alone
      exact before.step_of_read same alone made

/-- No log is reported twice. -/
theorem Converted.nodup_inputs {done : List String} {p : Progress} (all : Converted job t done p)
    (nodup : done.Nodup) : (p.files.reverse.map FileReport.input).Nodup := by
  have names : p.files.reverse.map FileReport.input = (done.filterMap (job.statsOf? t)).map Prod.fst := by
    rw [← all.files, List.map_map]
    rfl
  have stats : job.statsOf? t = fun input =>
      ((job.alone t input).toOption.map FileContent.stats).map fun n => (input, n) := by
    funext input
    unfold statsOf?
    cases job.alone t input <;> rfl
  rw [names, stats, Files.map_fst_filterMap]
  exact nodup.filter _

/-- What is known after some logs. -/
def after (job : Job) (clock : String → Stamp) (t : FileTree) (done : List String) : Progress :=
  done.foldl (fun p input => job.step (clock input) p input) { tree := t }

theorem after_concat (done : List String) (input : String) :
    job.after clock t (done ++ [input]) = job.step (clock input) (job.after clock t done) input := by
  simp [after]

/-- Whenever a run over some logs comes to make an output file, one can be made. -/
def HasRoom (job : Job) (clock : String → Stamp) (t : FileTree) (inputs : List String) : Prop :=
  ∀ done input rest, inputs = done ++ input :: rest → (∃ content, job.alone t input = .ok content) →
    ∃ file, (createOutput (job.after clock t done).tree job.settings.sampleDir
      job.settings.outputPrefix (clock input)).1 = .ok file

/-- A log that is opened as before whatever is added to a tree. -/
def IsSteady (t : FileTree) (input : String) : Prop :=
  ∀ t', Extends t t' → t'.openFile input = t.openFile input

/-- **A run deals with its logs as reading each alone says.** -/
theorem converted_after {inputs : List String} (steady : ∀ input ∈ inputs, IsSteady t input)
    (room : HasRoom job clock t inputs) : Converted job t inputs (job.after clock t inputs) := by
  -- the run is taken apart from its end, so that the invariant is that of the logs before
  suffices prefixes : ∀ done rest, inputs = done ++ rest → Converted job t done (job.after clock t done) by
    exact prefixes inputs [] (by simp)
  intro done
  induction done using List.reverseRecOn with
  | nil => exact fun _ _ => .start job t
  | append_singleton done input ih =>
      intro rest cut
      rw [List.append_assoc, List.singleton_append] at cut
      have before := ih (input :: rest) cut
      have member : input ∈ inputs := by simp [cut]
      rw [after_concat]
      refine before.step (alone_congr (steady input member _ before.extend)) fun content read => ?_
      exact room done input rest cut ⟨content, read⟩

/-! ## All logs of a directory -/

/-- The logs among the entries of the directory: its regular files whose names end in the extension, in
the order of the bytes of their names. -/
def logs (job : Job) (entries : List (String × Node)) : List String :=
  ((byBytes entries).filter (isLog job.settings.inputExtension)).map
    (fun e => Files.Path.join job.settings.rawDir e.1)

section Directory

variable {entries : List (String × Node)}

theorem scan_of_enumerates (enumerated : Enumerates t job.settings.rawDir entries) :
    scan t job.settings.rawDir job.settings.inputExtension = .ok (job.logs entries) := by
  obtain ⟨found, ok, same⟩ := Files.entries_of_enumerates enumerated
  rw [scan, ok]
  simp only [logsAmong, same, logs, Files.byBytes_eq_inOrder]

theorem steady_of_enumerates (enumerated : Enumerates t job.settings.rawDir entries) :
    ∀ input ∈ job.logs entries, IsSteady t input := by
  intro input member t' grown
  obtain ⟨⟨name, n⟩, listed, rfl⟩ := List.mem_map.1 member
  obtain ⟨p, place, those⟩ := enumerated
  have listed := (List.mem_filter.1 listed).1
  rw [Files.byBytes_eq_inOrder, Files.mem_inOrder, those.mem_iff] at listed
  exact grown.openFile_join place listed.1 listed.2

/-- No log is dealt with twice. -/
theorem nodup_logs (enumerated : Enumerates t job.settings.rawDir entries) :
    (job.logs entries).Nodup := by
  obtain ⟨p, place, those⟩ := enumerated
  have given := (Files.walk_of_locate (Files.lookup_eq_ok_iff.1 place).1).1
  have sublist : (((byBytes entries).filter (isLog job.settings.inputExtension)).map Prod.fst).Sublist
      ((FileTree.inOrder entries).map Prod.fst) := by
    rw [Files.byBytes_eq_inOrder]
    exact List.filter_sublist.map _
  have entry : ∀ name ∈ (FileTree.inOrder entries).map Prod.fst,
      FileTree.isEntryName name.toList = true := by
    intro name named
    obtain ⟨⟨name, n⟩, listed, rfl⟩ := List.mem_map.1 named
    exact ((those.inOrder.mem_iff _ _).1 listed).1
  have names := (those.inOrder.nodup.sublist sublist).map_on fun a member b member' same =>
    Files.join_inj given (entry a (sublist.subset member)) (entry b (sublist.subset member')) same
  simpa [logs, Function.comp_def] using names

/-- What a run gives for a log: its statistics and what its output file holds, or why it failed. -/
inductive Run.Gives (run : Run) (input : String) : Except String (Stats × ByteArray) → Prop where
  | converted {report : Report} {f : FileReport} {content : ByteArray}
      (reported : run.result = .ok report) (listed : f ∈ report.files) (named : f.input = input)
      (read : run.tree.read f.output = .ok content) : Gives run input (.ok (f.stats, content))
  | failed {report : Report} {f : FileFailure} (reported : run.result = .ok report)
      (listed : f ∈ report.failures) (named : f.input = input) : Gives run input (.error f.reason)

theorem Run.gives_ok_iff {run : Run} {stats : Stats} {content : ByteArray} :
    run.Gives input (.ok (stats, content)) ↔ ∃ report, run.result = .ok report ∧
      ∃ f ∈ report.files, f.input = input ∧ f.stats = stats ∧ run.tree.read f.output = .ok content := by
  constructor
  · generalize same : Except.ok (stats, content) = outcome
    intro given
    cases given with
    | @converted report f content reported listed named read =>
        cases same
        exact ⟨report, reported, f, listed, named, rfl, read⟩
    | failed reported listed named => cases same
  · rintro ⟨report, reported, f, listed, named, rfl, read⟩
    exact .converted reported listed named read

/-- What has to be given for a log by what reading it alone says. -/
def outcomeOf (job : Job) (t : FileTree) (input : String) : Except String (Stats × ByteArray) :=
  match job.alone t input with
  | .ok content => .ok (content.stats, (Csv.ofRows content.rows).toUTF8)
  | .error f => .error f.message

/-- A run comes to what is known after all logs. -/
theorem runAt_of_enumerates (clock : String → Stamp)
    (enumerated : Enumerates t job.settings.rawDir entries) :
    (job.runAt clock t).result = .ok ⟨(job.after clock t (job.logs entries)).files.reverse,
        (job.after clock t (job.logs entries)).failures.reverse⟩ ∧
      (job.runAt clock t).tree = (job.after clock t (job.logs entries)).tree := by
  simp only [runAt, scan_of_enumerates enumerated]
  exact ⟨rfl, rfl⟩

/-- A run reports no log twice. -/
theorem nodup_inputs_of_runAt {report : Report} (enumerated : Enumerates t job.settings.rawDir entries)
    (room : HasRoom job clock t (job.logs entries)) (ran : (job.runAt clock t).result = .ok report) :
    (report.files.map FileReport.input).Nodup := by
  rw [(runAt_of_enumerates clock enumerated).1] at ran
  cases ran
  exact (converted_after (steady_of_enumerates enumerated) room).nodup_inputs (nodup_logs enumerated)

/-- What a run gives for a log is what reading it alone says. -/
theorem outcome_of_gives (enumerated : Enumerates t job.settings.rawDir entries)
    (room : HasRoom job clock t (job.logs entries)) {outcome : Except String (Stats × ByteArray)}
    (given : (job.runAt clock t).Gives input outcome) : outcome = job.outcomeOf t input := by
  have all := converted_after (steady_of_enumerates enumerated) room
  obtain ⟨result, tree⟩ := runAt_of_enumerates clock enumerated
  cases given with
  | @converted report f content reported listed named read =>
      rw [result] at reported
      cases reported
      obtain ⟨content', place, alone, stats, -, found⟩ := all.outputs f (List.mem_reverse.1 listed)
      rw [tree, Files.read_of_lookup found] at read
      cases read
      rw [outcomeOf, ← named, alone, stats]
  | @failed report f reported listed named =>
      rw [result] at reported
      cases reported
      rw [all.failures] at listed
      obtain ⟨input', -, failed⟩ := List.mem_filterMap.1 listed
      obtain ⟨failure, alone, rfl⟩ := failureOf?_eq_some_iff.1 failed
      rw [outcomeOf, ← named, alone]

/-- A run gives something for each of its logs. -/
theorem gives_outcomeOf (enumerated : Enumerates t job.settings.rawDir entries)
    (room : HasRoom job clock t (job.logs entries)) (member : input ∈ job.logs entries) :
    (job.runAt clock t).Gives input (job.outcomeOf t input) := by
  have all := converted_after (steady_of_enumerates enumerated) room
  obtain ⟨result, tree⟩ := runAt_of_enumerates clock enumerated
  unfold outcomeOf
  cases alone : job.alone t input with
  | error failure =>
      have listed : (⟨input, failure.message⟩ : FileFailure) ∈
          (job.after clock t (job.logs entries)).failures.reverse := by
        rw [all.failures]
        exact List.mem_filterMap.2 ⟨input, member, failureOf?_eq_some_iff.2 ⟨failure, alone, rfl⟩⟩
      exact .failed result listed rfl
  | ok content =>
      have counted : (input, content.stats) ∈
          (job.after clock t (job.logs entries)).files.reverse.map (fun f => (f.input, f.stats)) := by
        rw [all.files]
        exact List.mem_filterMap.2 ⟨input, member, statsOf?_eq_some_iff.2 ⟨content, alone, rfl⟩⟩
      obtain ⟨f, listed, same⟩ := List.mem_map.1 counted
      obtain ⟨content', place, alone', stats, -, found⟩ := all.outputs f (List.mem_reverse.1 listed)
      obtain ⟨rfl, -⟩ := Prod.mk.inj same
      rw [alone] at alone'
      cases alone'
      rw [← tree] at found
      show Run.Gives _ _ (.ok (content.stats, _))
      rw [← stats]
      exact .converted result listed rfl (Files.read_of_lookup found)

/-- **A run gives for each of its logs what reading it alone says, and nothing else.** -/
theorem gives_iff (enumerated : Enumerates t job.settings.rawDir entries)
    (room : HasRoom job clock t (job.logs entries)) (member : input ∈ job.logs entries)
    (outcome : Except String (Stats × ByteArray)) :
    (job.runAt clock t).Gives input outcome ↔ outcome = job.outcomeOf t input := by
  constructor
  · exact outcome_of_gives enumerated room
  · rintro rfl
    exact gives_outcomeOf enumerated room member

/-- **A run loses, duplicates and mixes up nothing.**  Whatever is in the directory and in whatever order
it is found, every log of it is dealt with once, in the order of the names: it is among the converted
logs, with the statistics of reading it alone, if it can be read alone, and among the failed ones, for
the reason for which it cannot be read alone, if not.  Every converted log has an output file of its own
where nothing was; what was written to it are the rows of reading the log alone, and a reader finds the
columns in it and then the fields of each of these rows.  Beside these files there are new directories at
most, and what was there stays as it was.  What a run gives for a log is what any other run gives for a
log with the same content, whatever the other logs are. -/
theorem run_converts_each (enumerated : Enumerates t job.settings.rawDir entries)
    (room : HasRoom job clock t (job.logs entries)) :
    let run := job.runAt clock t
    (job.logs entries).Nodup ∧ ∃ report, run.result = .ok report ∧
      report.files.map (fun f => (f.input, f.stats)) = (job.logs entries).filterMap (job.statsOf? t) ∧
      report.failures = (job.logs entries).filterMap (job.failureOf? t) ∧
      (report.files.map FileReport.output).Nodup ∧
      (∀ f ∈ report.files, (∀ q n, t.lookup f.output ≠ .ok (q, n)) ∧
        ∃ content output, job.alone t f.input = .ok content ∧ run.tree.read f.output = .ok output ∧
          output = (Csv.ofRows content.rows).toUTF8 ∧
          Csv.readFile? output = some (Row.columns :: content.rows.map fun row =>
            [row.clientIp, row.reqHeaders, row.reqBody, row.respHeaders, row.respBody,
              row.respStatus, if row.featureMarked = .yes then "Yes" else "No"])) ∧
      Extends t run.tree ∧
      (∀ q n, run.tree.node? q = some n → t.node? q = some n ∨ n = .directory ∨
        ∃ f ∈ report.files, ∃ place, run.tree.lookup f.output = .ok (place, n) ∧ q.key = place.key) ∧
      ∀ clock' t' entries', Enumerates t' job.settings.rawDir entries' →
        HasRoom job clock' t' (job.logs entries') →
        ∀ input ∈ job.logs entries, input ∈ job.logs entries' →
          t'.openFile input = t.openFile input →
            ∀ outcome, (job.runAt clock' t').Gives input outcome ↔ run.Gives input outcome := by
  intro run
  have all := converted_after (steady_of_enumerates enumerated) room
  obtain ⟨result, tree⟩ := runAt_of_enumerates clock enumerated
  refine ⟨nodup_logs enumerated, _, result, all.files, all.failures, ?_, fun f listed => ?_, ?_, ?_, ?_⟩
  · rw [List.map_reverse, List.nodup_reverse]
    exact all.distinct
  · obtain ⟨content, place, alone, -, fresh, found⟩ := all.outputs f (List.mem_reverse.1 listed)
    rw [← tree] at found
    exact ⟨fresh, content, _, alone, Files.read_of_lookup found, rfl, Csv.readFile?_ofRows _⟩
  · rw [tree]
    exact all.extend
  · rw [tree]
    simpa only [List.mem_reverse] using all.only
  · intro clock' t' entries' enumerated' room' input member member' same outcome
    rw [gives_iff enumerated room member, gives_iff enumerated' room' member']
    simp only [outcomeOf, alone_congr same]

end Directory

/-- A job that takes the logs of a directory and leaves its files there. -/
def sampleJob : Job :=
  ⟨{ sampleDir := "raw", maxLineLength := 29 }, ⟨.limited 29, .empty⟩⟩

/-- A compressed line of the combined format. -/
def sampleLog : ByteArray :=
  ⟨#[31, 139, 8, 0, 0, 0, 0, 0, 0, 255, 1, 29, 0, 226, 255, 97, 32, 45, 32, 45, 32, 91, 116, 93, 32,
    34, 98, 32, 99, 32, 100, 34, 32, 49, 32, 50, 32, 34, 114, 34, 32, 34, 117, 34, 137, 255, 240, 74,
    29, 0, 0, 0]⟩

theorem decompress_sampleLog : Gzip.decompress sampleLog = ⟨sampleLine, none⟩ := by decide +kernel

/-- A log of one line, and one that is broken off. -/
def sampleLogs : List (String × ByteArray) := [("b.gz", sampleLog), ("a.gz", ⟨#[31, 139]⟩)]

theorem lookup_sampleLogs : (Files.oneDirectory "raw" sampleLogs).lookup "raw" =
    .ok (Files.placeOf "raw", .directory) :=
  Files.lookup_oneDirectory (by decide) (by decide) (by decide)

theorem alone_sampleLogs :
    (∃ f, sampleJob.alone (Files.oneDirectory "raw" sampleLogs) "raw/a.gz" = .error f) ∧
      sampleJob.alone (Files.oneDirectory "raw" sampleLogs) "raw/b.gz" = .ok ⟨[.ofRecord
        { clientIp := "a", timestamp := "t", method := "b", path := "c", referer := "r",
          userAgent := "u", statusCode := "1" } .no], ⟨1, 0, 1, 0⟩⟩ := by
  constructor
  · rw [show "raw/a.gz" = Files.Path.join "raw" "a.gz" by decide, alone_of_read
      (Files.read_join_oneDirectory lookup_sampleLogs (by decide) (by decide) rfl)]
    obtain ⟨fault, broken⟩ := Option.ne_none_iff_exists'.1
      (show (Gzip.decompress ⟨#[31, 139]⟩).fault ≠ none by decide)
    simp only [readStream, broken]
    exact ⟨_, rfl⟩
  · rw [show "raw/b.gz" = Files.Path.join "raw" "b.gz" by decide, alone_of_read
      (Files.read_join_oneDirectory lookup_sampleLogs (by decide) (by decide) rfl)]
    rw [decompress_sampleLog]
    exact (readStream_eq_ok_iff (limited_skips_overlong 29) _ _ _).2 ⟨rfl, by decide +kernel⟩

/-- The moment of a sample run. -/
def sampleStamp : Stamp := ⟨2024, 1, 2, 3, 4, 5⟩

theorem hasRoom_sampleLogs : HasRoom sampleJob (fun _ => sampleStamp)
    (Files.oneDirectory "raw" sampleLogs) ["raw/a.gz", "raw/b.gz"] := by
  obtain ⟨⟨f, failed⟩, -⟩ := alone_sampleLogs
  rintro done input rest cut ⟨content, read⟩
  rcases done with _ | ⟨first, _ | ⟨second, done⟩⟩
  · obtain ⟨rfl, -⟩ := List.cons.inj cut
    rw [failed] at read
    cases read
  · obtain ⟨rfl, -⟩ := List.cons.inj cut
    obtain ⟨tree, -⟩ :=
      @step_of_failed sampleJob _ sampleStamp _ { tree := Files.oneDirectory "raw" sampleLogs } failed
    simp only [after, List.foldl_cons, List.foldl_nil, tree]
    refine createOutput_of_free lookup_sampleLogs (by decide) (by decide) ?_
    rw [Files.node?_oneDirectory, Option.map_eq_none_iff]
    decide
  · simp at cut

theorem run_converts_sampleLogs :
    ∃ report, (sampleJob.runAt (fun _ => sampleStamp) (Files.oneDirectory "raw" sampleLogs)).result =
        .ok report ∧
      report.files.map (fun f => (f.input, f.stats)) = [("raw/b.gz", ⟨1, 0, 1, 0⟩)] ∧
      report.failures.map FileFailure.input = ["raw/a.gz"] ∧
      ∀ f ∈ report.files, ∃ output,
        (sampleJob.runAt (fun _ => sampleStamp) (Files.oneDirectory "raw" sampleLogs)).tree.read
            f.output = .ok output ∧
          Csv.readFile? output = some [
            ["client_ip", "req_headers", "req_body", "resp_headers", "resp_body", "resp_status",
              "feature_marked"],
            ["a", "method=b;path=c;referer=r;user_agent=u", "", "", "", "1", "No"]] := by
  have enumerated := Files.enumerates_oneDirectory lookup_sampleLogs (by decide) (by decide)
  have logs : sampleJob.logs (sampleLogs.map fun f => (f.1, .file f.2)) = ["raw/a.gz", "raw/b.gz"] := by
    have order : byBytes (sampleLogs.map fun f => (f.1, Node.file f.2)) =
        sampleLogs.reverse.map fun f => (f.1, .file f.2) :=
      Files.byBytes_eq (.swap _ _ _) (by decide) (by decide)
    rw [Job.logs, order]
    decide
  obtain ⟨-, report, result, files, failures, -, written, -⟩ :=
    run_converts_each enumerated (logs ▸ hasRoom_sampleLogs)
  obtain ⟨⟨f, failed⟩, read⟩ := alone_sampleLogs
  have one : report.files.map (fun f => (f.input, f.stats)) = [("raw/b.gz", ⟨1, 0, 1, 0⟩)] := by
    rw [files, logs]
    simp [statsOf?, failed, read]
  refine ⟨report, result, one, ?_, fun f listed => ?_⟩
  · rw [failures, logs]
    simp [failureOf?, failed, read]
  · obtain ⟨-, content, output, alone, found, -, records⟩ := written f listed
    have named : (f.input, f.stats) ∈ [("raw/b.gz", ⟨1, 0, 1, 0⟩)] := one ▸ List.mem_map_of_mem listed
    rw [(Prod.mk.inj (List.mem_singleton.1 named)).1, read] at alone
    cases alone
    exact ⟨output, found, records⟩

end Job

end ThreatMarker.Batch
