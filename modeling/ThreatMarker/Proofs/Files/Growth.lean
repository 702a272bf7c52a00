import ThreatMarker.Proofs.Files.Paths
/-
# Growing trees

A tree that `Keeps` another has something everywhere where the other has something, and directories
where the other has directories, so a path that led somewhere leads there still (`Keeps.locate`).  One
that `Extends` another has the same there (`Extends.lookup`).  Making directories and new files only
ever extends a tree: what is made was not there before (`AddsDirectories`, `createNew_eq_ok_iff`).
-/

namespace ThreatMarker.Files

set_option autoImplicit false

open FileTree (isEntryName)

/-! ## Growth -/

/-- What is at a place depends on its key alone. -/
theorem node?_congr {t : FileTree} {p q : Place} (same : p.key = q.key) : t.node? p = t.node? q := by
  simp only [FileTree.node?, same]

/-- Nothing of a tree is removed in another, though files may be written to. -/
def Keeps (t t' : FileTree) : Prop :=
  ∀ p n, t.node? p = some n →
    ∃ n', t'.node? p = some n' ∧ (n.isDirectory = true → n'.isDirectory = true)

namespace Keeps

variable {t t' t'' : FileTree} {p q : Place} {n : Node} {path : String}

theorem trans (first : Keeps t t') (second : Keeps t' t'') : Keeps t t'' := by
  intro p n there
  obtain ⟨n', there', directory⟩ := first p n there
  obtain ⟨n'', there'', directory'⟩ := second p n' there'
  exact ⟨n'', there'', directory' ∘ directory⟩

/-- A file can be written to. -/
theorem put_file {content : ByteArray} (file : t.node? p = some (.file content)) (filled : ByteArray) :
    Keeps t (t.put p (.file filled)) := by
  intro q n there
  rw [FileTree.node?_put]
  split
  · rename_i same
    rw [← node?_congr same, file] at there
    cases there
    exact ⟨_, rfl, id⟩
  · exact ⟨n, there, id⟩

theorem step (kept : Keeps t t') {name : String} (ok : t.step p name = .ok q) :
    t'.step p name = .ok q := by
  unfold FileTree.step at ok ⊢
  cases there : t.node? p with
  | none => simp [there] at ok
  | some n =>
      obtain ⟨n', there', stays⟩ := kept p n there
      rw [there] at ok
      rw [there']
      dsimp only at ok ⊢
      cases directory : n.isDirectory with
      | false => simp [directory] at ok
      | true =>
          rw [stays directory]
          rwa [directory] at ok

theorem walk (kept : Keeps t t') {names : List String} (ok : t.walk p names = .ok q) :
    t'.walk p names = .ok q := by
  induction names generalizing p with
  | nil => exact ok
  | cons name names ih =>
      rw [FileTree.walk] at ok ⊢
      cases next : t.step p name with
      | error e => simp [next] at ok
      | ok r =>
          rw [kept.step next]
          rw [next] at ok
          exact ih ok

theorem locate (kept : Keeps t t') (ok : t.locate path = .ok p) : t'.locate path = .ok p := by
  unfold FileTree.locate at ok ⊢
  split at ok
  · cases ok
  · rename_i whole
    rw [if_neg whole]
    split at ok
    · cases ok
    · rename_i given
      rw [if_neg given]
      split at ok
      · cases ok
      · rename_i short
        rw [if_neg short]
        exact kept.walk ok

theorem lookup (kept : Keeps t t') (ok : t.lookup path = .ok (p, n)) :
    ∃ n', t'.lookup path = .ok (p, n') := by
  obtain ⟨located, there, fits⟩ := lookup_eq_ok_iff.1 ok
  obtain ⟨n', there', directory⟩ := kept p n there
  exact ⟨n', lookup_eq_ok_iff.2 ⟨kept.locate located, there', directory ∘ fits⟩⟩

end Keeps

/-- What is in a tree is in another. -/
def Extends (t t' : FileTree) : Prop := ∀ p n, t.node? p = some n → t'.node? p = some n

namespace Extends

variable {t t' t'' : FileTree} {p q : Place} {n : Node} {path : String}

theorem refl (t : FileTree) : Extends t t := fun _ _ there => there

theorem trans (first : Extends t t') (second : Extends t' t'') : Extends t t'' :=
  fun p n there => second p n (first p n there)

theorem keeps (grown : Extends t t') : Keeps t t' :=
  fun p n there => ⟨n, grown p n there, id⟩

/-- Nothing is lost where nothing was. -/
theorem put (free : t.node? p = none) (n : Node) : Extends t (t.put p n) := by
  intro q m there
  rw [FileTree.node?_put]
  split
  · rename_i same
    rw [← node?_congr same, free] at there
    cases there
  · exact there

theorem locate (grown : Extends t t') (ok : t.locate path = .ok p) : t'.locate path = .ok p :=
  grown.keeps.locate ok

theorem lookup (grown : Extends t t') (ok : t.lookup path = .ok (p, n)) :
    t'.lookup path = .ok (p, n) := by
  unfold FileTree.lookup at ok ⊢
  cases located : t.locate path with
  | error e => simp [located] at ok
  | ok q =>
      rw [grown.locate located]
      simp only [located] at ok ⊢
      cases there : t.node? q with
      | none => simp [there] at ok
      | some m =>
          rw [grown q m there]
          rwa [there] at ok

/-- An entry of a directory is opened as before. -/
theorem openFile_join {dir name : String} (grown : Extends t t')
    (found : t.lookup dir = .ok (p, .directory)) (entry : isEntryName name.toList = true)
    (there : t.node? (p.child name) = some n) :
    t'.openFile (Path.join dir name) = t.openFile (Path.join dir name) := by
  rw [Files.openFile_join found entry, Files.openFile_join (grown.lookup found) entry, there,
    grown _ _ there]

end Extends

/-! ## What is made -/

/-- A tree to which directories were added. -/
structure AddsDirectories (t t' : FileTree) : Prop where
  extend : Extends t t'
  only : ∀ p n, t'.node? p = some n → t.node? p = some n ∨ n = .directory

namespace AddsDirectories

variable {t t' t'' : FileTree} {path : String}

theorem refl (t : FileTree) : AddsDirectories t t := ⟨.refl t, fun _ _ there => .inl there⟩

theorem trans (first : AddsDirectories t t') (second : AddsDirectories t' t'') :
    AddsDirectories t t'' where
  extend := first.extend.trans second.extend
  only p n there := by
    rcases second.only p n there with there | directory
    · exact first.only p n there
    · exact .inr directory

theorem of_makeDirectory (ok : t.makeDirectory path = .ok t') : AddsDirectories t t' := by
  unfold FileTree.makeDirectory at ok
  split at ok
  · cases ok
  · split at ok
    · cases ok
    · rename_i p _ free
      cases ok
      refine ⟨.put free _, fun q n there => ?_⟩
      rw [FileTree.node?_put] at there
      split at there
      · exact .inr (Option.some.inj there).symm
      · exact .inl there

theorem of_makeDirectories (t : FileTree) (fuel : Nat) (path : String) :
    AddsDirectories t (t.makeDirectories fuel path).2 := by
  induction fuel generalizing path with
  | zero => exact .refl t
  | succ fuel ih =>
      rw [FileTree.makeDirectories]
      split
      · exact .refl t
      · split
        · rename_i made
          exact of_makeDirectory made
        · -- the directory above is missing
          split
          · exact .refl t
          · rename_i parent _
            have above := ih parent
            split
            · rename_i made
              exact made ▸ above
            · rename_i between made
              rw [made] at above
              split
              · rename_i last
                exact above.trans (of_makeDirectory last)
              · split <;> exact above
        · split <;> exact .refl t

theorem of_ensureDirectory (t : FileTree) (path : String) :
    AddsDirectories t (t.ensureDirectory path).2 := of_makeDirectories t _ path

end AddsDirectories

/-- A directory that is there need not be made. -/
theorem ensureDirectory_of_lookup {t : FileTree} {dir : String} {p : Place}
    (found : t.lookup dir = .ok (p, .directory)) : t.ensureDirectory dir = (.ok (), t) := by
  obtain ⟨located, there, -⟩ := lookup_eq_ok_iff.1 found
  have given := (walk_of_locate located).1
  have taken : t.makeDirectory dir = .error .alreadyExists := by
    simp only [FileTree.makeDirectory, located, there]
  have known : t.isDirectory dir = true := by
    simp only [FileTree.isDirectory, found, Node.isDirectory]
  simp only [FileTree.ensureDirectory, FileTree.makeDirectories, given, taken, known, if_true, if_false]

/-- A new file is made where nothing is. -/
theorem createNew_eq_ok_iff {t t' : FileTree} {path : String} {p : Place} :
    t.createNew path = .ok (p, t') ↔
      t.locate path = .ok p ∧ FileTree.asksForDirectory path = false ∧ t.node? p = none ∧
        t' = t.put p (.file .empty) := by
  unfold FileTree.createNew FileTree.placeOfFile
  cases t.locate path with
  | error e => simp
  | ok q =>
      cases asks : FileTree.asksForDirectory path with
      | true => simp
      | false =>
          cases free : t.node? q with
          | none =>
              simp only [Bool.false_eq_true, if_false, free, Except.ok.injEq, Prod.mk.injEq]
              constructor
              · rintro ⟨rfl, rfl⟩
                exact ⟨rfl, trivial, free, rfl⟩
              · rintro ⟨rfl, -, -, rfl⟩
                exact ⟨rfl, rfl⟩
          | some n =>
              simp only [Bool.false_eq_true, if_false, free, reduceCtorEq, Except.ok.injEq, false_iff]
              rintro ⟨rfl, -, absent, -⟩
              rw [free] at absent
              cases absent

/-- A path is never followed to a fault that only making something can have. -/
theorem locate_ne_alreadyExists (t : FileTree) (path : String) :
    t.locate path ≠ .error .alreadyExists := by
  have step (p : Place) (name : String) : t.step p name ≠ .error .alreadyExists := by
    unfold FileTree.step
    cases t.node? p with
    | none => simp
    | some n => dsimp only; split_ifs <;> simp
  have walk (p : Place) (names : List String) : t.walk p names ≠ .error .alreadyExists := by
    induction names generalizing p with
    | nil => simp [FileTree.walk]
    | cons name names ih =>
        have here := step p name
        rw [FileTree.walk]
        cases next : t.step p name with
        | error e => simpa [next] using here
        | ok q => exact ih q
  rw [locate_eq]
  split_ifs
  case neg => exact walk _ _
  all_goals simp

/-- Something is at a path. -/
def Taken (t : FileTree) (path : String) : Prop := ∃ p n, t.lookup path = .ok (p, n)

theorem Taken.of_keeps {t t' : FileTree} {path : String} (kept : Keeps t t') (taken : Taken t path) :
    Taken t' path := by
  obtain ⟨p, n, found⟩ := taken
  obtain ⟨n', found'⟩ := kept.lookup found
  exact ⟨p, n', found'⟩

/-- Where a path leads to nothing, it is not taken. -/
theorem not_taken {t : FileTree} {path : String} {p : Place} (located : t.locate path = .ok p)
    (free : t.node? p = none) : ¬ Taken t path := by
  rintro ⟨q, n, found⟩
  obtain ⟨located', there, -⟩ := lookup_eq_ok_iff.1 found
  rw [located] at located'
  cases located'
  rw [free] at there
  cases there

/-- A new file is not made if its path cannot be followed or something is there. -/
theorem createNew_eq_error_iff {t : FileTree} {path : String} {e : Fault}
    (file : FileTree.asksForDirectory path = false) :
    t.createNew path = .error e ↔
      t.locate path = .error e ∨ (e = .alreadyExists ∧ Taken t path) := by
  unfold FileTree.createNew FileTree.placeOfFile Taken FileTree.lookup
  cases t.locate path with
  | error e' => simp
  | ok p => cases there : t.node? p <;> simp [there, file, eq_comm]

end ThreatMarker.Files
