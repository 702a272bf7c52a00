import ThreatMarker.Batch.Output
import ThreatMarker.Proofs.Files.Growth
/-
# Output files

The names of an output file are tried in order until nothing is at one (`tryNames_spec`).  So a call
makes a file at the first free path of a tree to which at most directories were added, or gives up for a
reason that is among `Cause` (`createOutput_spec`).  Either way it only extends the tree.  In a sequence
of `Calls` the files that were made stay where they are, and a path that is taken is not given again, so
no two calls give the same path (`Calls.fresh`).
-/

namespace ThreatMarker.Batch

set_option autoImplicit false

open Files (AddsDirectories Extends Fault FileTree Keeps Node Place Taken)

/-! ## The paths that are tried -/

/-- The path that is tried after `n` others. -/
def candidate (dir stem : String) (n : Nat) : String := Files.Path.join dir (outputName stem n)

/-- A path that is tried is that of a file. -/
theorem asksForDirectory_candidate (dir stem : String) (n : Nat) :
    FileTree.asksForDirectory (candidate dir stem n) = false := by
  obtain ⟨front, name⟩ : ∃ front, outputName stem n = front ++ ".csv" := by
    unfold outputName
    split <;> exact ⟨_, rfl⟩
  obtain ⟨front', path⟩ : ∃ front', candidate dir stem n = front' ++ ".csv" := by
    rw [candidate, name, Files.Path.join]
    split_ifs
    · exact ⟨front, rfl⟩
    · exact ⟨dir ++ front, (String.append_assoc ..).symm⟩
    · exact ⟨dir ++ "/" ++ front, (String.append_assoc ..).symm⟩
  rw [path, FileTree.asksForDirectory, String.toList_append, List.getLast?_append_of_ne_nil _ (by decide)]
  decide

/-- The first of the paths that are tried at which nothing is. -/
def IsFirstFree (t : FileTree) (dir stem : String) (limit : Nat) (path : String) : Prop :=
  ∃ n < limit, path = candidate dir stem n ∧ ¬ Taken t path ∧ ∀ k < n, Taken t (candidate dir stem k)

/-- Why no name is found: the first path at which nothing is cannot be followed, or all are taken. -/
inductive Cause (t : FileTree) (dir stem : String) (limit : Nat) : Failure → Prop
  | refused {path : String} {e : Fault} (first : IsFirstFree t dir stem limit path)
      (lost : t.locate path = .error e) :
      Cause t dir stem limit (.batch path ("failed to create output: " ++ e.message))
  | exhausted (taken : ∀ k < limit, Taken t (candidate dir stem k)) :
      Cause t dir stem limit
        (.batch (candidate dir stem 0) "no free output name after 10000 attempts")

theorem not_taken_of_lost {t : FileTree} {path : String} {e : Fault} (lost : t.locate path = .error e) :
    ¬ Taken t path := by
  rintro ⟨p, n, found⟩
  rw [(Files.lookup_eq_ok_iff.1 found).1] at lost
  cases lost

section Trying

variable {t t' : FileTree} {dir stem : String} {n : Nat}

theorem tryNames_made {place : Place} (made : t.createNew (candidate dir stem n) = .ok (place, t'))
    (fuel : Nat) : tryNames t dir stem (fuel + 1) n = .ok (⟨candidate dir stem n, place⟩, t') := by
  unfold candidate at made ⊢
  simp only [tryNames, made]

theorem tryNames_taken (taken : t.createNew (candidate dir stem n) = .error .alreadyExists)
    (fuel : Nat) : tryNames t dir stem (fuel + 1) n = tryNames t dir stem fuel (n + 1) := by
  unfold candidate at taken
  simp only [tryNames, taken]

theorem tryNames_refused {e : Fault} (refused : t.createNew (candidate dir stem n) = .error e)
    (other : e ≠ .alreadyExists) (fuel : Nat) :
    tryNames t dir stem (fuel + 1) n =
      .error (.batch (candidate dir stem n) ("failed to create output: " ++ e.message)) := by
  unfold candidate at refused ⊢
  cases e with
  | alreadyExists => exact absurd rfl other
  | _ => simp only [tryNames, refused]

end Trying

/-- **Trying the names finds the first free one**, when those before were found taken. -/
theorem tryNames_spec (t : FileTree) (dir stem : String) (fuel : Nat) {n : Nat}
    (before : ∀ k < n, Taken t (candidate dir stem k)) :
    match tryNames t dir stem fuel n with
    | .ok (file, t') =>
        IsFirstFree t dir stem (n + fuel) file.path ∧ t.createNew file.path = .ok (file.place, t')
    | .error f => Cause t dir stem (n + fuel) f := by
  -- on the names that are left: `before` is how the search came to the one that is next
  induction fuel generalizing n with
  | zero => exact .exhausted before
  | succ fuel ih =>
      have inRange : n < n + (fuel + 1) := by omega
      cases created : t.createNew (candidate dir stem n) with
      | ok both =>
          obtain ⟨located, -, free, -⟩ := Files.createNew_eq_ok_iff.1 created
          rw [tryNames_made created]
          exact ⟨⟨n, inRange, rfl, Files.not_taken located free, before⟩, created⟩
      | error e =>
          rcases (Files.createNew_eq_error_iff (asksForDirectory_candidate dir stem n)).1 created with
            lost | ⟨rfl, taken⟩
          · have other : e ≠ .alreadyExists := fun same =>
              Files.locate_ne_alreadyExists t _ (same ▸ lost)
            rw [tryNames_refused created other]
            exact .refused ⟨n, inRange, rfl, not_taken_of_lost lost, before⟩ lost
          · have next := ih (n := n + 1) fun k earlier => by
              rcases Nat.lt_succ_iff_lt_or_eq.1 earlier with earlier | rfl
              · exact before k earlier
              · exact taken
            rw [tryNames_taken created, show n + (fuel + 1) = n + 1 + fuel by omega]
            exact next

/-! ## One call -/

section Call

variable {t t' : FileTree} {dir namePrefix : String} {stamp : Stamp} {file : NewFile}

/-- **A call makes a file at the first free path once its directory is there, or fails with a cause.** -/
theorem createOutput_spec (t : FileTree) (dir namePrefix : String) (stamp : Stamp) :
    let between := (t.ensureDirectory dir).2
    match createOutput t dir namePrefix stamp with
    | (.ok file, t') =>
        IsFirstFree between dir (outputStem namePrefix stamp) maxAttempts file.path ∧
          between.createNew file.path = .ok (file.place, t')
    | (.error f, t') =>
        t' = between ∧
          ((∃ e, (t.ensureDirectory dir).1 = .error e ∧
              f = .batch dir ("failed to create output directory: " ++ e.message)) ∨
            Cause t' dir (outputStem namePrefix stamp) maxAttempts f) := by
  dsimp only
  unfold createOutput
  cases ensured : t.ensureDirectory dir with
  | mk result between =>
      cases result with
      | error e => exact ⟨rfl, .inl ⟨e, rfl, rfl⟩⟩
      | ok _ =>
          have search := tryNames_spec between dir (outputStem namePrefix stamp) maxAttempts
            (fun k none => absurd none (Nat.not_lt_zero k))
          rw [Nat.zero_add] at search
          dsimp only
          cases named : tryNames between dir (outputStem namePrefix stamp) maxAttempts 0 with
          | ok both =>
              rw [named] at search
              exact search
          | error f =>
              rw [named] at search
              exact ⟨rfl, .inr search⟩

/-- A file that was made is where nothing was, and nothing else is new but directories. -/
structure MadeIn (t t' : FileTree) (file : NewFile) : Prop where
  extend : Extends t t'
  fresh : ¬ Taken t file.path
  found : t'.lookup file.path = .ok (file.place, .file .empty)
  apart : t.node? file.place = none
  only : ∀ p n, t'.node? p = some n →
    t.node? p = some n ∨ n = .directory ∨ (p.key = file.place.key ∧ n = .file .empty)

theorem madeIn_of_createNew {between : FileTree} (directories : AddsDirectories t between)
    (created : between.createNew file.path = .ok (file.place, t')) : MadeIn t t' file := by
  obtain ⟨located, named, free, rfl⟩ := Files.createNew_eq_ok_iff.1 created
  have grown : Extends between (between.put file.place (.file .empty)) := .put free _
  constructor
  · exact directories.extend.trans grown
  · exact fun taken => Files.not_taken located free (taken.of_keeps directories.extend.keeps)
  · refine Files.lookup_eq_ok_iff.2 ⟨grown.locate located, ?_, fun asks => ?_⟩
    · rw [FileTree.node?_put, if_pos rfl]
    · rw [named] at asks
      cases asks
  · cases there : t.node? file.place with
    | none => rfl
    | some n =>
        rw [directories.extend _ _ there] at free
        cases free
  · intro p n there
    rw [FileTree.node?_put] at there
    split at there
    · rename_i same
      cases there
      exact .inr (.inr ⟨same.symm, rfl⟩)
    · rcases directories.only p n there with there | directory
      · exact .inl there
      · exact .inr (.inl directory)

theorem madeIn_of_createOutput (made : createOutput t dir namePrefix stamp = (.ok file, t')) :
    MadeIn t t' file := by
  have spec := createOutput_spec t dir namePrefix stamp
  rw [made] at spec
  exact madeIn_of_createNew (.of_ensureDirectory t dir) spec.2

/-- **No call takes anything away.** -/
theorem extends_createOutput (t : FileTree) (dir namePrefix : String) (stamp : Stamp) :
    Extends t (createOutput t dir namePrefix stamp).2 := by
  have spec := createOutput_spec t dir namePrefix stamp
  cases outcome : createOutput t dir namePrefix stamp with
  | mk result t' =>
      rw [outcome] at spec
      cases result with
      | ok file => exact (madeIn_of_createOutput outcome).extend
      | error f =>
          obtain ⟨rfl, -⟩ := spec
          exact (AddsDirectories.of_ensureDirectory t dir).extend

end Call

/-! ## Calls one after the other -/

/-- Calls one after the other, with what each gave.  Between them nothing is removed. -/
inductive Calls (t : FileTree) : List (Except Failure NewFile) → FileTree → Prop
  | start : Calls t [] t
  | call {results : List (Except Failure NewFile)} {t' : FileTree} (before : Calls t results t')
      (dir namePrefix : String) (stamp : Stamp) :
      Calls t (results ++ [(createOutput t' dir namePrefix stamp).1])
        (createOutput t' dir namePrefix stamp).2
  | meanwhile {results : List (Except Failure NewFile)} {t' t'' : FileTree}
      (before : Calls t results t') (kept : Keeps t' t'') : Calls t results t''

/-- The files that calls made. -/
def filesMade (results : List (Except Failure NewFile)) : List NewFile :=
  results.filterMap Except.toOption

/-- What holds of the files that were made so far: they are still there, where nothing was at first, and
no two are at the same place or were given the same path. -/
structure Fresh (t t' : FileTree) (files : List NewFile) : Prop where
  kept : Keeps t t'
  absent : ∀ file ∈ files, ¬ Taken t file.path
  there : ∀ file ∈ files, ∃ n, t'.lookup file.path = .ok (file.place, n)
  paths : (files.map NewFile.path).Nodup
  places : (files.map fun file => file.place.key).Nodup

theorem Fresh.start (t : FileTree) : Fresh t t [] where
  kept _ n there := ⟨n, there, id⟩
  absent _ none := by cases none
  there _ none := by cases none
  paths := List.nodup_nil
  places := List.nodup_nil

namespace Fresh

variable {t t' t'' : FileTree} {files : List NewFile} {file : NewFile}

/-- Where nothing is removed, the files stay. -/
theorem meanwhile (before : Fresh t t' files) (kept : Keeps t' t'') : Fresh t t'' files where
  kept := before.kept.trans kept
  absent := before.absent
  there file member := by
    obtain ⟨n, found⟩ := before.there file member
    exact kept.lookup found
  paths := before.paths
  places := before.places

/-- One more file is at a place and a path of its own. -/
theorem made (before : Fresh t t' files) (made : MadeIn t' t'' file) :
    Fresh t t'' (files ++ [file]) := by
  have after := before.meanwhile made.extend.keeps
  -- an earlier file is still found, and where the new one is there was nothing
  have otherPath : file.path ∉ files.map NewFile.path := by
    rintro known
    obtain ⟨earlier, member, same⟩ := List.mem_map.1 known
    obtain ⟨n, found⟩ := before.there earlier member
    exact made.fresh (same ▸ ⟨earlier.place, n, found⟩)
  have otherPlace : file.place.key ∉ files.map fun file => file.place.key := by
    rintro known
    obtain ⟨earlier, member, same⟩ := List.mem_map.1 known
    obtain ⟨n, found⟩ := before.there earlier member
    have there := (Files.lookup_eq_ok_iff.1 found).2.1
    rw [Files.node?_congr same, made.apart] at there
    cases there
  constructor
  · exact after.kept
  · intro f member
    rcases List.mem_append.1 member with member | last
    · exact before.absent f member
    · rw [List.mem_singleton.1 last]
      exact fun taken => made.fresh (taken.of_keeps before.kept)
  · intro f member
    rcases List.mem_append.1 member with member | last
    · exact after.there f member
    · rw [List.mem_singleton.1 last]
      exact ⟨_, made.found⟩
  · rw [List.map_append, List.map_singleton, ← List.concat_eq_append]
    exact before.paths.concat otherPath
  · rw [List.map_append, List.map_singleton, ← List.concat_eq_append]
    exact before.places.concat otherPlace

end Fresh

/-- **The files that calls make are never the same.** -/
theorem Calls.fresh {t t' : FileTree} {results : List (Except Failure NewFile)}
    (calls : Calls t results t') : Fresh t t' (filesMade results) := by
  induction calls with
  | start => exact .start t
  | meanwhile _ kept ih => exact ih.meanwhile kept
  | @call results t' _ dir namePrefix stamp ih =>
      rw [filesMade, List.filterMap_append]
      cases outcome : createOutput t' dir namePrefix stamp with
      | mk result t'' =>
          cases result with
          | ok file => exact ih.made (madeIn_of_createOutput outcome)
          | error f =>
              have grown := extends_createOutput t' dir namePrefix stamp
              rw [outcome] at grown
              change Fresh t t'' (filesMade results ++ [])
              rw [List.append_nil]
              exact ih.meanwhile grown.keeps

/-- The names ran out only where all of them are taken. -/
theorem taken_of_no_free_name {t : FileTree} {dir stem path : String}
    (cause : (∃ e : Fault, Failure.batch path "no free output name after 10000 attempts" =
        .batch dir ("failed to create output directory: " ++ e.message)) ∨
      Cause t dir stem maxAttempts (.batch path "no free output name after 10000 attempts")) :
    ∀ n < maxAttempts, Taken t (candidate dir stem n) := by
  have other (front text : String) (first : front.toList.head? = some 'f') :
      "no free output name after 10000 attempts" ≠ front ++ text := fun same => by
    have heads := congrArg (fun s => s.toList.head?) same
    simp [first] at heads
  rcases cause with ⟨e, same⟩ | cause
  · exact absurd (Failure.batch.inj same).2 (other _ _ (by decide))
  · generalize same : Failure.batch path "no free output name after 10000 attempts" = f at cause
    cases cause with
    | refused => exact absurd (Failure.batch.inj same).2 (other _ _ (by decide))
    | exhausted taken => exact taken

/-- **Output files are always fresh.**  A call makes an empty file at the first of its paths at which
nothing is once its directory has been made, or gives up with a cause; it takes nothing away.  Over any
sequence of calls the paths are all different. -/
theorem output_files_are_fresh (t : FileTree) :
    (∀ (dir namePrefix : String) (stamp : Stamp),
      let stem := outputStem namePrefix stamp
      let between := (t.ensureDirectory dir).2
      let t' := (createOutput t dir namePrefix stamp).2
      AddsDirectories t between ∧ (∀ p, t.lookup dir = .ok (p, .directory) → between = t) ∧
        Extends t t' ∧
        match (createOutput t dir namePrefix stamp).1 with
        | .ok file => IsFirstFree between dir stem maxAttempts file.path ∧ MadeIn t t' file
        | .error f =>
            t' = between ∧
              ((∃ e, (t.ensureDirectory dir).1 = .error e ∧
                  f = .batch dir ("failed to create output directory: " ++ e.message)) ∨
                Cause t' dir stem maxAttempts f) ∧
              ∀ path, f = .batch path "no free output name after 10000 attempts" →
                ∀ n < maxAttempts, Taken t' (candidate dir stem n)) ∧
      ∀ results t', Calls t results t' →
        ((filesMade results).map NewFile.path).Nodup ∧
          ((filesMade results).map fun file => file.place.key).Nodup ∧
          ∀ file ∈ filesMade results, ¬ Taken t file.path := by
  refine ⟨fun dir namePrefix stamp => ?_, fun results t' calls => ?_⟩
  · refine ⟨.of_ensureDirectory t dir, fun p found => ?_, extends_createOutput t dir namePrefix stamp, ?_⟩
    · rw [Files.ensureDirectory_of_lookup found]
    · have spec := createOutput_spec t dir namePrefix stamp
      cases outcome : createOutput t dir namePrefix stamp with
      | mk result t' =>
          rw [outcome] at spec
          cases result with
          | ok file => exact ⟨spec.1, madeIn_of_createOutput outcome⟩
          | error f =>
              obtain ⟨same, cause⟩ := spec
              refine ⟨same, cause, ?_⟩
              rintro path rfl
              exact taken_of_no_free_name (cause.imp_left fun ⟨e, _, failed⟩ => ⟨e, failed⟩)
  · have fresh := calls.fresh
    exact ⟨fresh.paths, fresh.places, fresh.absent⟩

/-! ## A directory in the way -/

/-- A directory path through what a file would be named. -/
def sampleDir : String := "p_20240101000000.csv/.."

/-- The working directory with a directory of that name. -/
def sampleTree : FileTree := Files.oneDirectory "p_20240101000000.csv" []

theorem step_down {t : FileTree} (top : t.node? .workingDirectory = some .directory) :
    t.step .workingDirectory "p_20240101000000.csv" = .ok (Files.placeOf "p_20240101000000.csv") := by
  rw [FileTree.step, top]
  rfl

theorem node?_empty_sample : FileTree.empty.node? (Files.placeOf "p_20240101000000.csv") = none :=
  Files.node?_empty_child rfl _

/-- A path through the directory is lost where it is missing. -/
theorem walk_empty_sample (rest : List String) :
    FileTree.empty.walk .workingDirectory ("p_20240101000000.csv" :: ".." :: rest) = .error .noEntry := by
  have up : FileTree.empty.step (Files.placeOf "p_20240101000000.csv") ".." = .error .noEntry := by
    rw [FileTree.step, node?_empty_sample]
  rw [FileTree.walk, step_down FileTree.node?_empty]
  simp only [FileTree.walk, up]

theorem lookup_sampleDir : sampleTree.lookup sampleDir = .ok (.workingDirectory, .directory) := by
  refine Files.lookup_eq_ok_iff.2 ⟨?_, Files.node?_oneDirectory_above, fun _ => rfl⟩
  have up : sampleTree.step (Files.placeOf "p_20240101000000.csv") ".." = .ok .workingDirectory := by
    rw [FileTree.step, sampleTree, Files.node?_oneDirectory_self]
    rfl
  rw [Files.locate_of_short (by decide) (by decide) (by decide),
    show Files.startOf sampleDir = .workingDirectory by decide,
    show Files.stepsOf sampleDir = ["p_20240101000000.csv", ".."] by decide, FileTree.walk,
    step_down (t := sampleTree) Files.node?_oneDirectory_above]
  simp only [FileTree.walk, up]

/-- The directory in the way is made so that the path can be followed. -/
theorem ensureDirectory_sampleDir :
    FileTree.empty.ensureDirectory sampleDir = (.ok (), sampleTree) := by
  have lost : FileTree.empty.makeDirectory sampleDir = .error .noEntry := by
    have located : FileTree.empty.locate sampleDir = .error .noEntry := by
      rw [Files.locate_of_short (by decide) (by decide) (by decide),
        show Files.startOf sampleDir = .workingDirectory by decide,
        show Files.stepsOf sampleDir = ["p_20240101000000.csv", ".."] by decide, walk_empty_sample]
    simp only [FileTree.makeDirectory, located]
  have parent : FileTree.empty.makeDirectory "p_20240101000000.csv" = .ok sampleTree := by
    have located : FileTree.empty.locate "p_20240101000000.csv" =
        .ok (Files.placeOf "p_20240101000000.csv") := by
      rw [Files.locate_of_short (by decide) (by decide) (by decide),
        show Files.startOf "p_20240101000000.csv" = .workingDirectory by decide,
        show Files.stepsOf "p_20240101000000.csv" = ["p_20240101000000.csv"] by decide, FileTree.walk,
        step_down FileTree.node?_empty]
      rfl
    simp only [FileTree.makeDirectory, located, node?_empty_sample, sampleTree, Files.oneDirectory,
      List.foldr_nil]
  have again : sampleTree.makeDirectory sampleDir = .error .alreadyExists := by
    obtain ⟨located, there, -⟩ := Files.lookup_eq_ok_iff.1 lookup_sampleDir
    simp only [FileTree.makeDirectory, located, there]
  have known : sampleTree.isDirectory sampleDir = true := by
    simp only [FileTree.isDirectory, lookup_sampleDir, Node.isDirectory]
  rw [FileTree.ensureDirectory, show sampleDir.length = 22 + 1 by decide]
  simp only [FileTree.makeDirectories, lost, parent, again, known,
    show sampleDir ≠ "" by decide, show "p_20240101000000.csv" ≠ "" by decide,
    show Files.Path.parent? sampleDir = some "p_20240101000000.csv" by decide, if_true, if_false]

/-- Nothing is at the first path as long as the directory in the way is missing. -/
theorem not_taken_first : ¬ Taken .empty (candidate sampleDir "p_20240101000000" 0) := by
  refine not_taken_of_lost (e := .noEntry) ?_
  rw [Files.locate_of_short (by decide) (by decide) (by decide),
    show Files.startOf (candidate sampleDir "p_20240101000000" 0) = .workingDirectory by decide,
    show Files.stepsOf (candidate sampleDir "p_20240101000000" 0) =
      ["p_20240101000000.csv", "..", "p_20240101000000.csv"] by decide, walk_empty_sample]

/-- Then the directory is at the first path. -/
theorem createNew_first : sampleTree.createNew (candidate sampleDir "p_20240101000000" 0) =
    .error .alreadyExists := by
  have located : sampleTree.locate (candidate sampleDir "p_20240101000000" 0) =
      .ok (Files.placeOf "p_20240101000000.csv") :=
    Files.locate_join lookup_sampleDir
      (show FileTree.isEntryName (outputName "p_20240101000000" 0).toList = true by decide)
  refine (Files.createNew_eq_error_iff (asksForDirectory_candidate ..)).2 (.inr ⟨rfl, ?_⟩)
  exact ⟨_, .directory,
    Files.lookup_eq_ok_iff.2 ⟨located, Files.node?_oneDirectory_self, fun _ => rfl⟩⟩

theorem createNew_second : sampleTree.createNew (candidate sampleDir "p_20240101000000" 1) =
    .ok (Files.placeOf "p_20240101000000_1.csv",
      sampleTree.put (Files.placeOf "p_20240101000000_1.csv") (.file .empty)) := by
  refine Files.createNew_eq_ok_iff.2 ⟨Files.locate_join lookup_sampleDir
    (show FileTree.isEntryName (outputName "p_20240101000000" 1).toList = true by decide),
    asksForDirectory_candidate .., ?_, rfl⟩
  rw [sampleTree, Files.oneDirectory, List.foldr_nil, FileTree.node?_put, if_neg]
  · exact Files.node?_empty_child rfl _
  · decide

/-- Making the directory can itself take the first name: nothing is at that path before the call, and
the file gets the second name all the same. -/
theorem directory_takes_first_name :
    ¬ Taken .empty "p_20240101000000.csv/../p_20240101000000.csv" ∧
      ∃ file, (createOutput .empty "p_20240101000000.csv/.." "p" ⟨2024, 1, 1, 0, 0, 0⟩).1 = .ok file ∧
        file.path = "p_20240101000000.csv/../p_20240101000000_1.csv" ∧
        ¬ IsFirstFree .empty "p_20240101000000.csv/.." (outputStem "p" ⟨2024, 1, 1, 0, 0, 0⟩) maxAttempts
          file.path := by
  have stem : outputStem "p" ⟨2024, 1, 1, 0, 0, 0⟩ = "p_20240101000000" := by decide
  rw [stem, show "p_20240101000000.csv/../p_20240101000000.csv" =
    candidate sampleDir "p_20240101000000" 0 by decide]
  refine ⟨not_taken_first, ⟨candidate sampleDir "p_20240101000000" 1,
    Files.placeOf "p_20240101000000_1.csv"⟩, ?_, by decide, ?_⟩
  · change (createOutput .empty sampleDir "p" ⟨2024, 1, 1, 0, 0, 0⟩).1 = _
    rw [createOutput, ensureDirectory_sampleDir]
    simp only [stem, show maxAttempts = 9998 + 1 + 1 from rfl,
      tryNames_taken createNew_first, tryNames_made createNew_second]
  · rintro ⟨n, -, path, -, earlier⟩
    rcases Nat.eq_zero_or_pos n with rfl | later
    · exact absurd path (by decide)
    · exact not_taken_first (earlier 0 later)

end ThreatMarker.Batch
