import Mathlib.Data.List.Nodup
import ThreatMarker.Files.Tree
import ThreatMarker.Proofs.Text.Encoding
/-
# What a directory holds

A system names the entries of a directory in an order of its own.  `Enumerates` says what such an
enumeration is: every entry once, in any order.  Put in the order of the bytes of the names, all
enumerations of a directory are the same (`inOrder_eq`), so nothing that is made of entries in order
depends on how they were found.
-/

namespace ThreatMarker.Files

set_option autoImplicit false

open FileTree (inOrder isEntryName nameIn?)

/-! ## Enumerations -/

/-- The entries of the directory at a place, each once and in any order. -/
structure Entries (t : FileTree) (p : Place) (entries : List (String × Node)) : Prop where
  nodup : (entries.map Prod.fst).Nodup
  mem_iff : ∀ name n, (name, n) ∈ entries ↔
    isEntryName name.toList = true ∧ t.node? (p.child name) = some n

/-- The entries of the directory that a path leads to, each once and in any order. -/
def Enumerates (t : FileTree) (dir : String) (entries : List (String × Node)) : Prop :=
  ∃ p, t.lookup dir = .ok (p, .directory) ∧ Entries t p entries

theorem mem_inOrder {entries : List (String × Node)} {e : String × Node} :
    e ∈ inOrder entries ↔ e ∈ entries := List.mem_mergeSort

theorem inOrder_perm (entries : List (String × Node)) : (inOrder entries).Perm entries :=
  List.mergeSort_perm _ _

theorem pairwise_inOrder (entries : List (String × Node)) :
    (inOrder entries).Pairwise (fun a b => a.1 ≤ b.1) := by
  have sorted := @List.pairwise_mergeSort (String × Node) (fun a b => a.1 ≤ b.1)
    (fun a b c => by simpa using fun h h' => String.le_trans h h')
    (fun a b => by simpa using String.le_total a.1 b.1) entries
  exact sorted.imp of_decide_eq_true

/-- Entries in the order of the bytes of their names. -/
def byBytes (entries : List (String × Node)) : List (String × Node) :=
  entries.mergeSort (fun a b => Text.encode a.1 ≤ Text.encode b.1)

/-- The order of names is the order of their bytes. -/
theorem byBytes_eq_inOrder (entries : List (String × Node)) : byBytes entries = inOrder entries := by
  simp only [byBytes, inOrder, Text.encode_le_encode_iff]

/-- What stands beside names in their order is known from what there is, if no name is there twice. -/
theorem eq_of_sorted {α : Type} {xs ys : List (String × α)} (nodup : (xs.map Prod.fst).Nodup)
    (nodup' : (ys.map Prod.fst).Nodup) (sorted : xs.Pairwise (fun a b => a.1 ≤ b.1))
    (sorted' : ys.Pairwise (fun a b => a.1 ≤ b.1)) (same : ∀ e, e ∈ xs ↔ e ∈ ys) : xs = ys := by
  have perm := (List.perm_ext_iff_of_nodup (.of_map _ nodup) (.of_map _ nodup')).2 same
  refine List.Perm.eq_of_pairwise (fun a b member member' below above => ?_) sorted sorted' perm
  exact List.inj_on_of_nodup_map nodup' ((same a).1 member) member' (String.le_antisymm below above)

/-- Entries are put in order by finding the order. -/
theorem byBytes_eq {xs ys : List (String × Node)} (perm : xs.Perm ys) (nodup : (ys.map Prod.fst).Nodup)
    (sorted : ys.Pairwise (fun a b => a.1 ≤ b.1)) : byBytes xs = ys := by
  have perm' := (inOrder_perm xs).trans perm
  rw [byBytes_eq_inOrder]
  exact eq_of_sorted ((perm'.map _).nodup_iff.2 nodup) nodup (pairwise_inOrder xs) sorted fun _ =>
    perm'.mem_iff

namespace Entries

variable {t : FileTree} {p : Place} {entries others : List (String × Node)}

/-- Two enumerations of a directory differ in their order only. -/
theorem perm (first : Entries t p entries) (second : Entries t p others) : entries.Perm others := by
  refine (List.perm_ext_iff_of_nodup (.of_map _ first.nodup) (.of_map _ second.nodup)).2 ?_
  rintro ⟨name, n⟩
  rw [first.mem_iff, second.mem_iff]

theorem inOrder (found : Entries t p entries) : Entries t p (inOrder entries) where
  nodup := ((inOrder_perm entries).map _).nodup_iff.2 found.nodup
  mem_iff name n := by rw [mem_inOrder, found.mem_iff]

/-- **All enumerations of a directory come to the same order.** -/
theorem inOrder_eq (first : Entries t p entries) (second : Entries t p others) :
    FileTree.inOrder entries = FileTree.inOrder others :=
  eq_of_sorted first.inOrder.nodup second.inOrder.nodup (pairwise_inOrder _) (pairwise_inOrder _)
    fun _ => (first.inOrder.perm second.inOrder).mem_iff

end Entries

/-! ## Listings -/

namespace Place

theorem key_child (p : Place) (name : String) : (p.child name).key = p.key ++ "/" ++ name := rfl

theorem key_child_inj {p : Place} {a b : String} : (p.child a).key = (p.child b).key ↔ a = b := by
  simp [key_child, ← String.toList_inj]

theorem length_key_child (p : Place) (name : String) :
    (p.child name).key.length = p.key.length + 1 + name.length := by
  rw [key_child, String.length_append, String.length_append, show "/".length = 1 from rfl]

end Place

/-- A name is in a directory if the key is that of its place. -/
theorem nameIn?_eq_some_iff {p : Place} {key name : String} :
    nameIn? p.key key = some name ↔ isEntryName name.toList = true ∧ key = (p.child name).key := by
  rw [Place.key_child, ← String.toList_inj]
  simp only [nameIn?, String.toList_append]
  cases cut : (p.key.toList ++ "/".toList).isPrefixOf? key.toList with
  | none =>
      simp only [reduceCtorEq, false_iff, not_and]
      intro _ same
      rw [same, List.isPrefixOf?_eq_some_iff_append_eq.2 rfl] at cut
      cases cut
  | some rest =>
      rw [List.isPrefixOf?_eq_some_iff_append_eq] at cut
      simp only [← cut, List.append_cancel_left_eq]
      split
      · rename_i entry
        rw [Option.some.injEq]
        constructor
        · rintro rfl
          simpa using entry
        · rintro ⟨-, rfl⟩
          simp
      · rename_i entry
        simp only [reduceCtorEq, false_iff, not_and]
        rintro named rfl
        exact entry named

/-- The names that are found below a directory. -/
def namesIn (t : FileTree) (p : Place) : List String := t.nodes.keys.filterMap (nameIn? p.key)

theorem mem_namesIn {t : FileTree} {p : Place} {name : String} :
    name ∈ namesIn t p ↔ isEntryName name.toList = true ∧ (t.node? (p.child name)).isSome := by
  simp only [namesIn, List.mem_filterMap, nameIn?_eq_some_iff, FileTree.node?,
    Std.HashMap.mem_keys]
  constructor
  · rintro ⟨key, known, entry, rfl⟩
    exact ⟨entry, by simpa using known⟩
  · rintro ⟨entry, known⟩
    exact ⟨_, by simpa using known, entry, rfl⟩

theorem nodup_namesIn (t : FileTree) (p : Place) : (namesIn t p).Nodup := by
  refine List.Nodup.filterMap (fun key key' name found found' => ?_) Std.HashMap.nodup_keys
  rw [(nameIn?_eq_some_iff.1 found).2, (nameIn?_eq_some_iff.1 found').2]

/-- Names with what is there. -/
theorem map_fst_filterMap {α : Type} (at? : String → Option α) (names : List String) :
    (names.filterMap fun name => (at? name).map (fun n => (name, n))).map Prod.fst =
      names.filter (fun name => (at? name).isSome) := by
  induction names with
  | nil => rfl
  | cons name names ih => cases found : at? name <;> simp [found, ih]

/-- What is found in a directory is an enumeration of it. -/
theorem enumerates_of_entries {t : FileTree} {dir : String} {found : List (String × Node)}
    (ok : t.entries dir = .ok found) : Enumerates t dir found := by
  unfold FileTree.entries at ok
  split at ok
  · cases ok
  · rename_i p n place
    cases n with
    | file => cases ok
    | device => cases ok
    | directory =>
        simp only [Node.isDirectory, Bool.not_true, Bool.false_eq_true, if_false, Except.ok.injEq] at ok
        subst ok
        refine ⟨p, place, ⟨?_, fun name n => ?_⟩⟩
        · rw [map_fst_filterMap]
          exact (nodup_namesIn t p).filter _
        · rw [List.mem_filterMap]
          simp only [Option.map_eq_some_iff, Prod.mk.injEq]
          constructor
          · rintro ⟨_, named, _, there, rfl, rfl⟩
            exact ⟨(mem_namesIn.1 named).1, there⟩
          · rintro ⟨entry, there⟩
            exact ⟨name, mem_namesIn.2 ⟨entry, by simp [there]⟩, n, there, rfl, rfl⟩

/-- **What is found in a directory is any enumeration of it, but for the order.** -/
theorem entries_of_enumerates {t : FileTree} {dir : String} {entries : List (String × Node)}
    (enumerated : Enumerates t dir entries) :
    ∃ found, t.entries dir = .ok found ∧ inOrder found = inOrder entries := by
  obtain ⟨p, place, those⟩ := enumerated
  cases ok : t.entries dir with
  | error e => simp [FileTree.entries, place, Node.isDirectory] at ok
  | ok found =>
      obtain ⟨p', place', these⟩ := enumerates_of_entries ok
      rw [place] at place'
      cases place'
      exact ⟨found, rfl, these.inOrder_eq those⟩

end ThreatMarker.Files
