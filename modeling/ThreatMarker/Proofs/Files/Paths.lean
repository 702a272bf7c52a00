import ThreatMarker.Proofs.Files.Listing
/-
# Paths of entries

The path of an entry of a directory goes on where the path of the directory leads (`stepsOf_join`), so
it leads to the entry's place below the directory, unless the path or the name is one that no file can
have (`locate_join`).  What such a path opens is what is at the place (`openFile_join`).
-/

namespace ThreatMarker.Files

set_option autoImplicit false

open FileTree (isEntryName)

/-! ## The names along a path -/

/-- The names that are followed along a path. -/
def stepsOf (path : String) : List String := (Path.pieces path).filter (· ≠ "")

theorem isEntryName_iff {name : List Char} :
    isEntryName name = true ↔ name ≠ [] ∧ '/' ∉ name ∧ name ≠ ['.'] ∧ name ≠ ['.', '.'] := by
  simp [isEntryName, and_assoc]

theorem stepsOf_entry {name : String} (entry : isEntryName name.toList = true) :
    stepsOf name = [name] := by
  obtain ⟨nonempty, inline, -⟩ := isEntryName_iff.1 entry
  have given : name ≠ "" := fun none => nonempty (by simp [none])
  simp [stepsOf, Path.pieces, Text.cutAt_eq_singleton inline, given]

/-- A slash stands between the names of a path. -/
theorem stepsOf_slash (front back : String) :
    stepsOf (front ++ "/" ++ back) = stepsOf front ++ stepsOf back := by
  simp [stepsOf, Path.pieces, Text.cutAt_append]

/-- The path of an entry follows the path of its directory. -/
theorem stepsOf_join {dir name : String} (given : dir ≠ "") (entry : isEntryName name.toList = true) :
    stepsOf (Path.join dir name) = stepsOf dir ++ [name] := by
  obtain ⟨nonempty, inline, -⟩ := isEntryName_iff.1 entry
  have relative : name.toList.head? ≠ some '/' := fun first => inline (List.mem_of_mem_head? first)
  rw [← stepsOf_entry entry]
  unfold Path.join
  rw [if_neg (by simp [given, relative])]
  split
  · rename_i ends
    obtain ⟨front, cut⟩ := List.getLast?_eq_some_iff.1 ends
    obtain rfl : dir = String.ofList front ++ "/" := String.toList_inj.1 (by simp [cut])
    have shorter := stepsOf_slash (String.ofList front) ""
    rw [String.append_empty, show stepsOf "" = [] by decide, List.append_nil] at shorter
    rw [stepsOf_slash, shorter]
  · exact stepsOf_slash dir name

/-- Entries of different names have different paths. -/
theorem join_inj {dir a b : String} (given : dir ≠ "") (entry : isEntryName a.toList = true)
    (entry' : isEntryName b.toList = true) (same : Path.join dir a = Path.join dir b) : a = b := by
  have steps := congrArg stepsOf same
  rw [stepsOf_join given entry, stepsOf_join given entry'] at steps
  simpa using steps

/-! ## Following a path -/

theorem walk_append (t : FileTree) (p : Place) (front back : List String) :
    t.walk p (front ++ back) =
      match t.walk p front with
      | .error e => .error e
      | .ok q => t.walk q back := by
  induction front generalizing p with
  | nil => rfl
  | cons name front ih =>
      rw [List.cons_append, FileTree.walk, FileTree.walk]
      cases t.step p name with
      | error e => rfl
      | ok q => exact ih q

/-- The place at which a path begins. -/
def startOf (path : String) : Place :=
  if path.toList.head? = some '/' then ⟨true, []⟩ else .workingDirectory

theorem locate_eq (t : FileTree) (path : String) :
    t.locate path =
      if path.toList.contains '\x00' then .error .zeroInName
      else if path = "" then .error .noEntry
      else if maxPathLength ≤ path.utf8ByteSize then .error .nameTooLong
      else t.walk (startOf path) (stepsOf path) := rfl

/-- A path that a file can have is followed name by name. -/
theorem locate_of_short {t : FileTree} {path : String} (whole : path.toList.contains '\x00' = false)
    (given : path ≠ "") (short : path.utf8ByteSize < maxPathLength) :
    t.locate path = t.walk (startOf path) (stepsOf path) := by
  rw [locate_eq, if_neg (by rw [whole]; decide), if_neg given, if_neg (Nat.not_le_of_lt short)]

/-- A path that leads to a place is followed there name by name. -/
theorem walk_of_locate {t : FileTree} {path : String} {p : Place} (ok : t.locate path = .ok p) :
    path ≠ "" ∧ t.walk (startOf path) (stepsOf path) = .ok p := by
  rw [locate_eq] at ok
  repeat' split at ok
  all_goals first
    | cases ok
    | exact ⟨‹_›, ok⟩

/-- What a path leads to is at the place that it leads to. -/
theorem lookup_eq_ok_iff {t : FileTree} {path : String} {p : Place} {n : Node} :
    t.lookup path = .ok (p, n) ↔ t.locate path = .ok p ∧ t.node? p = some n ∧
      (FileTree.asksForDirectory path = true → n.isDirectory = true) := by
  unfold FileTree.lookup
  cases located : t.locate path with
  | error e => simp
  | ok q =>
      simp only [Except.ok.injEq]
      constructor
      · intro ok
        cases there : t.node? q with
        | none => simp [there] at ok
        | some m =>
            simp only [there] at ok
            split at ok
            · cases ok
            · rename_i fits
              cases ok
              refine ⟨rfl, there, fun asks => ?_⟩
              simpa [asks] using fits
      · rintro ⟨rfl, there, fits⟩
        simp only [there]
        rw [if_neg]
        simp only [Bool.and_eq_true, not_and, Bool.not_eq_true', Bool.not_eq_false]
        exact fits

/-- A file is read where a path leads to it. -/
theorem read_of_lookup {t : FileTree} {path : String} {p : Place} {content : ByteArray}
    (found : t.lookup path = .ok (p, .file content)) : t.read path = .ok content := by
  simp only [FileTree.read, FileTree.openFile, found, Except.map, FileTree.contentOf]

/-- A file with the bytes of a text is read as the text. -/
theorem readText_of_read {t : FileTree} {path text : String} (read : t.read path = .ok text.toUTF8) :
    t.readText path = .ok text := by
  have valid : text.toUTF8.IsValidUTF8 := text.isValidUTF8
  simp only [FileTree.readText, read, String.fromUTF8?, dif_pos valid]
  rfl

/-- What is wrong with the path of an entry of a directory that can be reached. -/
def entryFault? (dir name : String) : Option Fault :=
  let path := Path.join dir name
  if path.toList.contains '\x00' then some .zeroInName
  else if maxPathLength ≤ path.utf8ByteSize then some .nameTooLong
  else if maxNameLength < name.utf8ByteSize then some .nameTooLong
  else none

section Entry

variable {t : FileTree} {dir name : String} {p : Place}

theorem startOf_join (given : dir ≠ "") (relative : name.toList.head? ≠ some '/') :
    startOf (Path.join dir name) = startOf dir := by
  have first : dir.toList ≠ [] := by simpa using given
  unfold Path.join
  rw [if_neg (by simp [given, relative])]
  split <;> simp [startOf, List.head?_append_of_ne_nil _ first]

theorem asksForDirectory_join (given : dir ≠ "") (entry : isEntryName name.toList = true) :
    FileTree.asksForDirectory (Path.join dir name) = false := by
  obtain ⟨nonempty, inline, -⟩ := isEntryName_iff.1 entry
  have relative : name.toList.head? ≠ some '/' := fun first => inline (List.mem_of_mem_head? first)
  have last : ∀ front : List Char, (front ++ name.toList).getLast? ≠ some '/' := fun front ends => by
    rw [List.getLast?_append_of_ne_nil _ nonempty] at ends
    exact inline (List.mem_of_getLast? ends)
  unfold Path.join
  rw [if_neg (by simp [given, relative])]
  split
  · simpa [FileTree.asksForDirectory] using last dir.toList
  · simpa [FileTree.asksForDirectory] using last (dir.toList ++ ['/'])

/-- **The path of an entry leads below the directory**, unless there is something wrong with it. -/
theorem locate_join (found : t.lookup dir = .ok (p, .directory))
    (entry : isEntryName name.toList = true) :
    t.locate (Path.join dir name) =
      match entryFault? dir name with
      | some fault => .error fault
      | none => .ok (p.child name) := by
  obtain ⟨nonempty, inline, noDot, noDots⟩ := isEntryName_iff.1 entry
  have relative : name.toList.head? ≠ some '/' := fun first => inline (List.mem_of_mem_head? first)
  obtain ⟨located, there, -⟩ := lookup_eq_ok_iff.1 found
  obtain ⟨given, walked⟩ := walk_of_locate located
  have empty : Path.join dir name ≠ "" := fun none => by
    have := stepsOf_join given entry
    rw [none, show stepsOf "" = [] by decide] at this
    simp at this
  have last : t.step p name =
      if maxNameLength < name.utf8ByteSize then .error .nameTooLong else .ok (p.child name) := by
    have here : name ≠ "." := fun same => noDot (by simp [same])
    have above : name ≠ ".." := fun same => noDots (by simp [same])
    simp [FileTree.step, there, Node.isDirectory, here, above]
  have walk : t.walk (startOf (Path.join dir name)) (stepsOf (Path.join dir name)) =
      if maxNameLength < name.utf8ByteSize then .error .nameTooLong else .ok (p.child name) := by
    rw [startOf_join given relative, stepsOf_join given entry, walk_append, walked]
    simp only [FileTree.walk, last]
    by_cases long : maxNameLength < name.utf8ByteSize
    · simp only [if_pos long]
    · simp only [if_neg long]
  rw [locate_eq, if_neg empty, walk]
  unfold entryFault?
  dsimp only
  split_ifs <;> rfl

/-- What is opened by the path of an entry is what is there. -/
theorem openFile_join (found : t.lookup dir = .ok (p, .directory))
    (entry : isEntryName name.toList = true) :
    t.openFile (Path.join dir name) =
      match entryFault? dir name with
      | some fault => .error fault
      | none =>
          match t.node? (p.child name) with
          | some n => .ok n
          | none => .error .noEntry := by
  obtain ⟨given, -⟩ := walk_of_locate (lookup_eq_ok_iff.1 found).1
  rw [FileTree.openFile, FileTree.lookup, locate_join found entry]
  cases entryFault? dir name with
  | some fault => rfl
  | none =>
      simp only [asksForDirectory_join given entry, Bool.false_and, Bool.false_eq_true, if_false]
      cases t.node? (p.child name) <;> rfl

end Entry

/-! ## One directory -/

/-- The place of a directory in the working directory. -/
def placeOf (dir : String) : Place := Place.workingDirectory.child dir

/-- A working directory with nothing but a directory in it that holds files. -/
def oneDirectory (dir : String) (files : List (String × ByteArray)) : FileTree :=
  files.foldr (fun f t => t.put ((placeOf dir).child f.1) (.file f.2))
    (FileTree.empty.put (placeOf dir) .directory)

/-- The key of a place below the working directory begins as a path from there. -/
theorem key_child_of_relative {p : Place} (relative : p.absolute = false) (name : String) :
    ∃ rest, (p.child name).key.toList = '.' :: '/' :: rest := by
  obtain ⟨absolute, names⟩ := p
  obtain rfl : absolute = false := relative
  induction names generalizing name with
  | nil => exact ⟨name.toList, by simp [Place.key_child, show Place.key ⟨false, []⟩ = "." from rfl]⟩
  | cons next names ih =>
      obtain ⟨rest, front⟩ := ih next
      refine ⟨rest ++ '/' :: name.toList, ?_⟩
      rw [Place.key_child, String.toList_append, String.toList_append,
        show (Place.mk false (next :: names)).key.toList = '.' :: '/' :: rest from front]
      simp

/-- Nothing is below an empty working directory. -/
theorem node?_empty_child {p : Place} (relative : p.absolute = false) (name : String) :
    FileTree.empty.node? (p.child name) = none := by
  obtain ⟨rest, key⟩ := key_child_of_relative relative name
  have other (k : String) (differ : k.toList.take 2 ≠ ['.', '/']) : (k == (p.child name).key) = false := by
    rw [beq_eq_false_iff_ne]
    rintro rfl
    exact differ (by simp [key])
  simp only [FileTree.empty, FileTree.node?, Std.HashMap.ofList_cons, Std.HashMap.insertMany_cons,
    Std.HashMap.insertMany_nil, Std.HashMap.getElem?_insert]
  rw [other _ (by decide), other _ (by decide), other _ (by decide),
    other _ (by decide), other _ (by decide)]
  simp

section OneDirectory

variable {dir : String} {files : List (String × ByteArray)}

/-- The directory holds the files, and of files with one name the first. -/
theorem node?_oneDirectory (name : String) :
    (oneDirectory dir files).node? ((placeOf dir).child name) =
      (files.lookup name).map Node.file := by
  have apart : (placeOf dir).key ≠ ((placeOf dir).child name).key := fun same => by
    have := congrArg String.length same
    rw [Place.length_key_child] at this
    omega
  induction files with
  | nil =>
      rw [oneDirectory, List.foldr_nil, FileTree.node?_put, if_neg apart, node?_empty_child rfl]
      rfl
  | cons f files ih =>
      rw [oneDirectory, List.foldr_cons, FileTree.node?_put, List.lookup_cons]
      simp only [Place.key_child_inj]
      by_cases same : f.1 = name
      · simp [same]
      · rw [if_neg same, beq_false_of_ne (Ne.symm same)]
        exact ih

theorem node?_oneDirectory_self : (oneDirectory dir files).node? (placeOf dir) = some .directory := by
  induction files with
  | nil => rw [oneDirectory, List.foldr_nil, FileTree.node?_put, if_pos rfl]
  | cons f files ih =>
      have apart : ((placeOf dir).child f.1).key ≠ (placeOf dir).key := fun same => by
        have := congrArg String.length same
        rw [Place.length_key_child] at this
        omega
      rw [oneDirectory, List.foldr_cons, FileTree.node?_put, if_neg apart]
      exact ih

theorem node?_oneDirectory_above :
    (oneDirectory dir files).node? .workingDirectory = some .directory := by
  induction files with
  | nil =>
      rw [oneDirectory, List.foldr_nil, FileTree.node?_put, FileTree.node?_empty]
      split <;> rfl
  | cons f files ih =>
      have apart : ((placeOf dir).child f.1).key ≠ Place.workingDirectory.key := fun same => by
        have := congrArg String.length same
        rw [Place.length_key_child, placeOf, Place.length_key_child] at this
        omega
      rw [oneDirectory, List.foldr_cons, FileTree.node?_put, if_neg apart]
      exact ih

theorem lookup_oneDirectory (entry : isEntryName dir.toList = true)
    (whole : dir.toList.contains '\x00' = false) (short : dir.utf8ByteSize ≤ maxNameLength) :
    (oneDirectory dir files).lookup dir = .ok (placeOf dir, .directory) := by
  obtain ⟨nonempty, inline, noDot, noDots⟩ := isEntryName_iff.1 entry
  have given : dir ≠ "" := fun none => nonempty (by simp [none])
  have relative : dir.toList.head? ≠ some '/' := fun first => inline (List.mem_of_mem_head? first)
  have here : dir ≠ "." := fun same => noDot (by simp [same])
  have above : dir ≠ ".." := fun same => noDots (by simp [same])
  have fits : dir.utf8ByteSize < maxPathLength := by
    unfold maxPathLength maxNameLength at *
    omega
  refine lookup_eq_ok_iff.2 ⟨?_, node?_oneDirectory_self, fun _ => rfl⟩
  rw [locate_of_short whole given fits, stepsOf_entry entry, startOf, if_neg relative]
  have short : ¬ maxNameLength < dir.utf8ByteSize := by omega
  simp only [FileTree.walk, FileTree.step, node?_oneDirectory_above, Node.isDirectory, here, above,
    short, Bool.not_true, Bool.false_eq_true, if_false]
  rfl

/-- A file of the directory is found by its path. -/
theorem lookup_join_oneDirectory
    (found : (oneDirectory dir files).lookup dir = .ok (placeOf dir, .directory)) {name : String}
    (entry : isEntryName name.toList = true) (whole : entryFault? dir name = none)
    {content : ByteArray} (there : files.lookup name = some content) :
    (oneDirectory dir files).lookup (Path.join dir name) =
      .ok ((placeOf dir).child name, .file content) := by
  obtain ⟨given, -⟩ := walk_of_locate (lookup_eq_ok_iff.1 found).1
  refine lookup_eq_ok_iff.2 ⟨?_, ?_, fun asks => ?_⟩
  · rw [locate_join found entry, whole]
  · rw [node?_oneDirectory, there]
    rfl
  · rw [asksForDirectory_join given entry] at asks
    cases asks

/-- A file of the directory is read by its path. -/
theorem read_join_oneDirectory
    (found : (oneDirectory dir files).lookup dir = .ok (placeOf dir, .directory)) {name : String}
    (entry : isEntryName name.toList = true) (whole : entryFault? dir name = none)
    {content : ByteArray} (there : files.lookup name = some content) :
    (oneDirectory dir files).read (Path.join dir name) = .ok content :=
  read_of_lookup (lookup_join_oneDirectory found entry whole there)

/-- A file that the directory does not hold is not found. -/
theorem lookup_join_of_missing
    (found : (oneDirectory dir files).lookup dir = .ok (placeOf dir, .directory)) {name : String}
    (entry : isEntryName name.toList = true) (whole : entryFault? dir name = none)
    (missing : files.lookup name = none) :
    (oneDirectory dir files).lookup (Path.join dir name) = .error .noEntry := by
  have located := locate_join found entry
  rw [whole] at located
  have free : (oneDirectory dir files).node? ((placeOf dir).child name) = none := by
    rw [node?_oneDirectory, missing]
    rfl
  simp only [FileTree.lookup, located, free]

theorem lookup_eq_some_iff (names : (files.map Prod.fst).Nodup) {name : String} {content : ByteArray} :
    files.lookup name = some content ↔ (name, content) ∈ files := by
  induction files with
  | nil => simp
  | cons f files ih =>
      obtain ⟨apart, names⟩ := List.nodup_cons.1 names
      rw [List.lookup_cons, List.mem_cons]
      by_cases same : name = f.1
      · have absent : (name, content) ∉ files := fun member =>
          apart (List.mem_map.2 ⟨_, member, same⟩)
        subst same
        simp [absent, Prod.ext_iff, eq_comm]
      · rw [beq_false_of_ne same, ih names]
        simp [Prod.ext_iff, same]

/-- **The directory is enumerated as its files.** -/
theorem enumerates_oneDirectory
    (found : (oneDirectory dir files).lookup dir = .ok (placeOf dir, .directory))
    (names : (files.map Prod.fst).Nodup) (entries : ∀ f ∈ files, isEntryName f.1.toList = true) :
    Enumerates (oneDirectory dir files) dir (files.map fun f => (f.1, .file f.2)) := by
  refine ⟨_, found, ⟨by simpa [Function.comp_def] using names, fun name n => ?_⟩⟩
  simp only [node?_oneDirectory, List.mem_map, Prod.mk.injEq, Option.map_eq_some_iff,
    lookup_eq_some_iff names]
  constructor
  · rintro ⟨f, member, rfl, rfl⟩
    exact ⟨entries f member, f.2, member, rfl⟩
  · rintro ⟨-, content, member, rfl⟩
    exact ⟨_, member, rfl, rfl⟩

end OneDirectory

end ThreatMarker.Files
