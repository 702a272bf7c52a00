import ThreatMarker.Proofs.Batch.Outputs
import ThreatMarker.Proofs.Batch.Settings
/-
# Output files stay in their directory

The name of an output file is a prefix, a time stamp, a number and an extension.  Time stamps and numbers
have no slash in them, so where the prefix has none the name is that of an entry of the directory
(`isEntryName_outputName`): every path that is tried has one part more than the directory, and a file
that is made is directly below it (`place_of_createOutput`).  Nothing else comes of a call but
directories (`new_of_createOutput`).
-/

namespace ThreatMarker.Batch

set_option autoImplicit false

open Files (FileTree Place)
open Files.FileTree (isEntryName)
open Files.Path (isPlainName parts)

/-! ## Names without slashes -/

theorem slash_not_mem_toString (n : Nat) : '/' ∉ (toString n).toList := by
  intro member
  have digit : '/'.isDigit = true :=
    Nat.isDigit_of_mem_toDigits (by decide) (by decide) (Nat.toList_repr ▸ member)
  exact absurd digit (by decide)

theorem slash_not_mem_padded (width n : Nat) : '/' ∉ (Stamp.padded width n).toList := by
  simp only [Stamp.padded, String.toList_append, String.toList_ofList, List.mem_append,
    List.mem_replicate, not_or]
  exact ⟨fun ⟨_, zero⟩ => absurd zero (by decide), slash_not_mem_toString n⟩

theorem slash_not_mem_yearText (year : Int) : '/' ∉ (Stamp.yearText year).toList := by
  unfold Stamp.yearText
  split
  · exact slash_not_mem_padded 4 _
  · rw [String.toList_append, List.mem_append, not_or]
    refine ⟨?_, slash_not_mem_padded 4 _⟩
    split <;> decide

theorem slash_not_mem_text (stamp : Stamp) : '/' ∉ stamp.text.toList := by
  simp only [Stamp.text, String.toList_append, List.mem_append, not_or]
  exact ⟨⟨⟨⟨⟨slash_not_mem_yearText _, slash_not_mem_padded _ _⟩, slash_not_mem_padded _ _⟩,
    slash_not_mem_padded _ _⟩, slash_not_mem_padded _ _⟩, slash_not_mem_padded _ _⟩

/-- What stands between the prefix and the extension of the name that is tried after `n` others. -/
def middle (stamp : Stamp) (n : Nat) : String :=
  stamp.text ++ if n = 0 then "" else "_" ++ toString n

theorem outputName_eq (namePrefix : String) (stamp : Stamp) (n : Nat) :
    outputName (outputStem namePrefix stamp) n = namePrefix ++ "_" ++ middle stamp n ++ ".csv" := by
  unfold outputName outputStem middle
  split <;> simp [String.append_assoc]

theorem slash_not_mem_middle (stamp : Stamp) (n : Nat) : '/' ∉ (middle stamp n).toList := by
  rw [middle, String.toList_append, List.mem_append, not_or]
  refine ⟨slash_not_mem_text stamp, ?_⟩
  split
  · decide
  · rw [String.toList_append, List.mem_append, not_or]
    exact ⟨by decide, slash_not_mem_toString n⟩

/-- **The name of an output file is that of an entry of a directory.** -/
theorem isEntryName_outputName {namePrefix : String} (inline : '/' ∉ namePrefix.toList) (stamp : Stamp)
    (n : Nat) : isEntryName (outputName (outputStem namePrefix stamp) n).toList = true := by
  rw [outputName_eq]
  have ends (short : List Char) (few : short.length < 4) :
      (namePrefix ++ "_" ++ middle stamp n ++ ".csv").toList ≠ short := by
    rintro rfl
    simp at few
    omega
  refine Files.isEntryName_iff.2 ⟨ends _ (by decide), ?_, ends _ (by decide), ends _ (by decide)⟩
  simp only [String.toList_append, List.mem_append, not_or]
  exact ⟨⟨⟨inline, by decide⟩, slash_not_mem_middle stamp n⟩, by decide⟩

/-! ## Where files are made -/

/-- A file that was made is directly below the directory, under the name that was tried for it. -/
theorem place_of_createOutput {t t' : FileTree} {dir namePrefix : String} {stamp : Stamp} {file : NewFile}
    (given : dir ≠ "") (inline : '/' ∉ namePrefix.toList)
    (made : createOutput t dir namePrefix stamp = (.ok file, t')) :
    ∃ n < maxAttempts, file.path = candidate dir (outputStem namePrefix stamp) n ∧
      ∃ p, t'.lookup dir = .ok (p, .directory) ∧
        file.place = p.child (outputName (outputStem namePrefix stamp) n) := by
  have spec := createOutput_spec t dir namePrefix stamp
  rw [made] at spec
  obtain ⟨⟨n, few, path, -⟩, created⟩ := spec
  refine ⟨n, few, path, ?_⟩
  have ensured : t.ensureDirectory dir = (.ok (), (t.ensureDirectory dir).2) := by
    unfold createOutput at made
    split at made
    · cases made
    · rename_i ensured
      rw [ensured]
  obtain ⟨p, found⟩ := Files.lookup_of_ensureDirectory given ensured
  obtain ⟨located, -, free, rfl⟩ := Files.createNew_eq_ok_iff.1 created
  refine ⟨p, (Files.Extends.put free _).lookup found, ?_⟩
  rw [path, candidate, Files.locate_join found (isEntryName_outputName inline stamp n)] at located
  split at located
  · cases located
  · exact (Except.ok.inj located).symm

/-- Whatever comes of a call, what is new after it is a directory or an empty file below the one in
which files are made. -/
theorem new_of_createOutput {t : FileTree} {dir namePrefix : String} {stamp : Stamp} (given : dir ≠ "")
    (inline : '/' ∉ namePrefix.toList) {p : Place} {node : Files.Node}
    (there : (createOutput t dir namePrefix stamp).2.node? p = some node) :
    t.node? p = some node ∨ node = .directory ∨
      ∃ n < maxAttempts, ∃ q,
        (createOutput t dir namePrefix stamp).2.lookup dir = .ok (q, .directory) ∧
          p.key = (q.child (outputName (outputStem namePrefix stamp) n)).key ∧ node = .file .empty := by
  have spec := createOutput_spec t dir namePrefix stamp
  cases outcome : createOutput t dir namePrefix stamp with
  | mk result t' =>
      rw [outcome] at there spec
      cases result with
      | error f =>
          obtain ⟨rfl, -⟩ := spec
          rcases (Files.AddsDirectories.of_ensureDirectory t dir).only p node there with old | directory
          · exact .inl old
          · exact .inr (.inl directory)
      | ok file =>
          rcases (madeIn_of_createOutput outcome).only p node there with old | directory | ⟨same, empty⟩
          · exact .inl old
          · exact .inr (.inl directory)
          · obtain ⟨n, few, -, q, found, place⟩ := place_of_createOutput given inline outcome
            exact .inr (.inr ⟨n, few, q, found, by rw [same, place], empty⟩)

/-- **A prefix that is allowed cannot lead out of the directory.**  A text is allowed as a prefix exactly
if it is not empty, stands for no directory, and has neither a slash nor a backslash.  Where the settings
are in order, every path that is tried for an output file has the parts of the directory and one more, a
name that begins with the prefix and an underscore and ends in the extension; a file that is made is at
one of these paths, directly below the directory, and whether one is made or not, nothing else is new but
directories. -/
theorem outputs_stay_in_directory :
    (∀ text : String, isPlainName text = true ↔
      text ≠ "" ∧ text ≠ "." ∧ text ≠ ".." ∧ '/' ∉ text.toList ∧ '\\' ∉ text.toList) ∧
    ∀ s : Settings, s.validate = .ok () → ∀ stamp : Stamp,
      let stem := outputStem s.outputPrefix stamp
      (∀ n, ∃ middle,
        outputName stem n = s.outputPrefix ++ "_" ++ middle ++ ".csv" ∧
        parts (Files.Path.join s.sampleDir (outputName stem n)) =
          parts s.sampleDir ++ [.name (outputName stem n)]) ∧
      (∀ t file t', createOutput t s.sampleDir s.outputPrefix stamp = (.ok file, t') →
        ∃ n < maxAttempts, file.path = Files.Path.join s.sampleDir (outputName stem n) ∧
          ∃ p, t'.lookup s.sampleDir = .ok (p, .directory) ∧
            file.place = p.child (outputName stem n)) ∧
      ∀ t p node,
        let t' := (createOutput t s.sampleDir s.outputPrefix stamp).2
        t'.node? p = some node → t.node? p = some node ∨ node = .directory ∨
          ∃ n < maxAttempts, ∃ q, t'.lookup s.sampleDir = .ok (q, .directory) ∧
            p.key = (q.child (outputName stem n)).key ∧ node = .file .empty := by
  refine ⟨fun text => ?_, fun s valid stamp => ?_⟩
  · rw [Files.Path.isPlainName_iff, Files.Path.isEntryName_toList_iff, and_assoc, and_assoc, and_assoc]
  · have inOrder := Settings.validate_eq_ok_iff.1 valid
    have plain := (Files.Path.isPlainName_iff.1 inOrder.outputPrefix).1
    have inline : '/' ∉ s.outputPrefix.toList := (Files.isEntryName_iff.1 plain).2.1
    refine ⟨fun n => ⟨middle stamp n, outputName_eq .., ?_⟩, fun t file t' made => ?_,
      fun t p node there => ?_⟩
    · exact Files.Path.parts_join inOrder.sampleDir (isEntryName_outputName inline stamp n)
    · exact place_of_createOutput inOrder.sampleDir inline made
    · exact new_of_createOutput inOrder.sampleDir inline there

/-- The eighth name that is tried for a log with the usual settings. -/
theorem outputs_stay_in_samples :
    parts "samples/threat_logs_20240102030405_7.csv" =
      [.name "samples", .name "threat_logs_20240102030405_7.csv"] := by
  obtain ⟨named, -⟩ := outputs_stay_in_directory.2 {} (by decide) ⟨2024, 1, 2, 3, 4, 5⟩
  obtain ⟨-, -, below⟩ := named 7
  have name : outputName (outputStem "threat_logs" ⟨2024, 1, 2, 3, 4, 5⟩) 7 =
      "threat_logs_20240102030405_7.csv" := by decide
  have path : Files.Path.join "samples" "threat_logs_20240102030405_7.csv" =
      "samples/threat_logs_20240102030405_7.csv" := by decide
  rw [name, path] at below
  exact below

end ThreatMarker.Batch
