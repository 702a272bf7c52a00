import ThreatMarker.Proofs.Files.Growth
/-
# Parts of a path

The parts of a path are read off its pieces.  A text is a single name exactly if it is not empty, stands
for no directory, and has no slash and no backslash (`isPlainName_iff`), and a name that is joined to a
path adds itself to the parts and nothing else (`parts_join`).
-/

namespace ThreatMarker.Files

set_option autoImplicit false

open FileTree (isEntryName)

namespace Path

/-! ## Pieces -/

theorem pieces_slash (front back : String) :
    pieces (front ++ "/" ++ back) = pieces front ++ pieces back := by
  simp [pieces, Text.cutAt_append]

theorem pieces_of_inline {name : String} (inline : '/' ∉ name.toList) : pieces name = [name] := by
  simp [pieces, Text.cutAt_eq_singleton inline]

/-- The pieces of a path with slashes between them make the path. -/
theorem intercalate_pieces (path : String) :
    ['/'].intercalate ((pieces path).map String.toList) = path.toList := by
  rw [pieces, List.map_map, show String.toList ∘ String.ofList = id from funext fun _ => by simp,
    List.map_id, Text.intercalate_cutAt]

theorem exists_pieces (path : String) : ∃ first rest, pieces path = first :: rest := by
  cases cut : pieces path with
  | cons first rest => exact ⟨first, rest, rfl⟩
  | nil =>
      have empty := intercalate_pieces path
      rw [cut] at empty
      rw [String.toList_inj.1 (show path.toList = "".toList from empty.symm)] at cut
      exact absurd cut (by decide)

/-- What the pieces of a path stand for. -/
theorem parts_eq {path first : String} {rest : List String} (cut : pieces path = first :: rest) :
    parts path =
      (if first = "" then (if rest = [] then [] else [.root]) else (part? true first).toList) ++
        rest.filterMap (part? false) := by
  unfold parts
  rw [cut]
  by_cases empty : first = ""
  · subst empty
    simp
  · simp [empty]

/-! ## Names -/

theorem part?_of_entry {name : String} (entry : isEntryName name.toList = true) (first : Bool) :
    part? first name = some (.name name) := by
  obtain ⟨nonempty, -, noDot, noDots⟩ := isEntryName_iff.1 entry
  have given : name ≠ "" := fun same => nonempty (by simp [same])
  have here : name ≠ "." := fun same => noDot (by simp [same])
  have above : name ≠ ".." := fun same => noDots (by simp [same])
  simp [part?, given, here, above]

theorem isEntryName_toList_iff {name : String} :
    isEntryName name.toList = true ↔ name ≠ "" ∧ name ≠ "." ∧ name ≠ ".." ∧ '/' ∉ name.toList := by
  rw [isEntryName_iff, ne_eq name "", ne_eq name ".", ne_eq name "..", ← @String.toList_inj name "",
    ← @String.toList_inj name ".", ← @String.toList_inj name ".."]
  exact ⟨fun ⟨given, inline, here, above⟩ => ⟨given, here, above, inline⟩,
    fun ⟨given, here, above, inline⟩ => ⟨given, inline, here, above⟩⟩

/-- A text can begin the name of a file exactly if it is the name of an entry without a backslash. -/
theorem isPlainName_iff {text : String} :
    isPlainName text = true ↔ isEntryName text.toList = true ∧ '\\' ∉ text.toList := by
  unfold isPlainName
  constructor
  · intro plain
    split at plain
    · rename_i single
      simp only [Bool.and_eq_true, Bool.not_eq_true', List.contains_eq_mem, decide_eq_false_iff_not]
        at plain
      obtain ⟨inline, noBackslash⟩ := plain
      have other : text ≠ "" ∧ text ≠ "." ∧ text ≠ ".." := by
        refine ⟨?_, ?_, ?_⟩
        all_goals
          rintro rfl
          cases single
      exact ⟨isEntryName_toList_iff.2 ⟨other.1, other.2.1, other.2.2, inline⟩, noBackslash⟩
    · cases plain
  · rintro ⟨entry, noBackslash⟩
    have inline := (isEntryName_iff.1 entry).2.1
    have given := (isEntryName_toList_iff.1 entry).1
    rw [parts_eq (pieces_of_inline inline), if_neg given, part?_of_entry entry]
    simp [inline, noBackslash]

/-! ## Joining -/

/-- A name below a slash is one more part. -/
theorem parts_below {name : String} (front : String) (entry : isEntryName name.toList = true) :
    parts (front ++ "/" ++ name) = parts (front ++ "/") ++ [.name name] := by
  obtain ⟨first, rest, cut⟩ := exists_pieces front
  have inline := (isEntryName_iff.1 entry).2.1
  have below : pieces (front ++ "/" ++ name) = first :: (rest ++ [name]) := by
    rw [pieces_slash, cut, pieces_of_inline inline, List.cons_append]
  have ended : pieces (front ++ "/") = first :: (rest ++ [""]) := by
    rw [← String.append_empty (s := front ++ "/"), pieces_slash, cut, List.cons_append]
    rfl
  rw [parts_eq below, parts_eq ended]
  simp [List.filterMap_append, part?_of_entry entry, show part? false "" = none from rfl]

/-- A slash at the end of a path is no part. -/
theorem parts_slash {path : String} (given : path ≠ "") : parts (path ++ "/") = parts path := by
  obtain ⟨first, rest, cut⟩ := exists_pieces path
  have ended : pieces (path ++ "/") = first :: (rest ++ [""]) := by
    rw [← String.append_empty (s := path ++ "/"), pieces_slash, cut, List.cons_append]
    rfl
  -- only the empty path has nothing but an empty piece
  have more : first = "" → rest ≠ [] := by
    rintro rfl rfl
    have empty := intercalate_pieces path
    rw [cut] at empty
    exact given (String.toList_inj.1 empty.symm)
  rw [parts_eq ended, parts_eq cut]
  by_cases empty : first = ""
  · simp [empty, more empty, show part? false "" = none from rfl]
  · simp [empty, show part? false "" = none from rfl]

/-- **A name that is joined to a path is one more part.** -/
theorem parts_join {dir name : String} (given : dir ≠ "") (entry : isEntryName name.toList = true) :
    parts (join dir name) = parts dir ++ [.name name] := by
  obtain ⟨-, inline, -⟩ := isEntryName_iff.1 entry
  have relative : name.toList.head? ≠ some '/' := fun first => inline (List.mem_of_mem_head? first)
  unfold join
  rw [if_neg (by simp [given, relative])]
  split
  · rename_i ends
    obtain ⟨front, cut⟩ := List.getLast?_eq_some_iff.1 ends
    obtain rfl : dir = String.ofList front ++ "/" := String.toList_inj.1 (by simp [cut])
    exact parts_below _ entry
  · rw [parts_below dir entry, parts_slash given]

end Path

/-! ## Directories that were made -/

theorem lookup_of_isDirectory {t : FileTree} {dir : String} (known : t.isDirectory dir = true) :
    ∃ p, t.lookup dir = .ok (p, .directory) := by
  unfold FileTree.isDirectory at known
  split at known
  · rename_i p n found
    cases n with
    | directory => exact ⟨p, found⟩
    | file content => cases known
    | device full => cases known
  · cases known

theorem lookup_of_makeDirectory {t t' : FileTree} {dir : String} (made : t.makeDirectory dir = .ok t') :
    ∃ p, t'.lookup dir = .ok (p, .directory) := by
  have grown := (AddsDirectories.of_makeDirectory made).extend
  unfold FileTree.makeDirectory at made
  split at made
  · cases made
  · rename_i p located
    split at made
    · cases made
    · cases made
      refine ⟨p, lookup_eq_ok_iff.2 ⟨grown.locate located, ?_, fun _ => rfl⟩⟩
      rw [FileTree.node?_put, if_pos rfl]

/-- Where a directory was made with all that it is in, its path leads to it. -/
theorem lookup_of_ensureDirectory {t t' : FileTree} {dir : String} (given : dir ≠ "")
    (made : t.ensureDirectory dir = (.ok (), t')) : ∃ p, t'.lookup dir = .ok (p, .directory) := by
  unfold FileTree.ensureDirectory at made
  rw [FileTree.makeDirectories, if_neg given] at made
  split at made
  · rename_i first
    cases made
    exact lookup_of_makeDirectory first
  · split at made
    · cases made
    · split at made
      · cases made
      · split at made
        · rename_i last
          cases made
          exact lookup_of_makeDirectory last
        · split at made
          · rename_i known
            cases made
            exact lookup_of_isDirectory known
          · cases made
  · split at made
    · rename_i known
      cases made
      exact lookup_of_isDirectory known
    · cases made

end ThreatMarker.Files
