import ThreatMarker.Proofs.Files.Paths
import ThreatMarker.Proofs.Rule.History
/-
# Loading a directory of rules

The files of a directory that load contribute a rule each, in the order of the bytes of their names; of
the rules with one name the first counts (`declared`).  Reading the directory gives these rules
(`result_loadFiles`), which compile and have different names, so when they join an engine nothing can
be wrong with them but a name that the engine has (`compileNew_eq_error`).  A file that does not load
contributes nothing and takes nothing from the others (`contributions_congr`).
-/

namespace ThreatMarker.Rule

set_option autoImplicit false

open Files (Enumerates FileTree Node byBytes)

/-! ## The first rule of each name -/

/-- Rules without those whose name stands before them. -/
def firstOfEachName : List Rule → List Rule
  | [] => []
  | r :: rest => r :: (firstOfEachName rest).filter (fun other => other.name != r.name)

theorem firstOfEachName_sublist (rules : List Rule) : (firstOfEachName rules).Sublist rules := by
  induction rules with
  | nil => exact .slnil
  | cons first rest ih => exact (List.filter_sublist.trans ih).cons_cons first

theorem mem_of_mem_firstOfEachName {r : Rule} {rules : List Rule}
    (member : r ∈ firstOfEachName rules) : r ∈ rules :=
  (firstOfEachName_sublist rules).subset member

theorem nodup_firstOfEachName (rules : List Rule) :
    ((firstOfEachName rules).map Rule.name).Nodup := by
  induction rules with
  | nil => exact List.nodup_nil
  | cons first rest ih =>
      refine List.nodup_cons.2 ⟨fun member => ?_, ih.sublist (List.filter_sublist.map _)⟩
      obtain ⟨r, kept, same⟩ := List.mem_map.1 member
      exact bne_iff_ne.1 (List.mem_filter.1 kept).2 same

/-! ## What a directory declares -/

section Directory

variable (t : FileTree) (dir : String) (entries : List (String × Node))

/-- A file of a directory loads as a rule. -/
def LoadsAs (name : String) (r : Rule) : Prop :=
  name ∈ entries.map Prod.fst ∧ isRuleFile name = true ∧ ofFile t (Files.Path.join dir name) = .ok r

/-- The rules that the files of a directory load as, in the order of the bytes of their names. -/
def contributions : List (String × Rule) :=
  (((byBytes entries).map Prod.fst).filter isRuleFile).filterMap fun name =>
    (ofFile t (Files.Path.join dir name)).toOption.map fun r => (name, r)

/-- The rules that a directory declares: of the rules with one name the first counts. -/
def declared : List Rule := firstOfEachName ((contributions t dir entries).map Prod.snd)

variable {t dir entries}

theorem toOption_eq_some_iff {r : Except Failure Rule} {rule : Rule} :
    r.toOption = some rule ↔ r = .ok rule := by
  cases r <;> simp [Except.toOption]

theorem mem_contributions_iff {name : String} {r : Rule} :
    (name, r) ∈ contributions t dir entries ↔ LoadsAs t dir entries name r := by
  have names : ∀ name, name ∈ (byBytes entries).map Prod.fst ↔ name ∈ entries.map Prod.fst :=
    fun name => ((List.mergeSort_perm entries _).map Prod.fst).mem_iff
  simp only [contributions, LoadsAs, List.mem_filterMap, List.mem_filter, names,
    Option.map_eq_some_iff, toOption_eq_some_iff, Prod.mk.injEq]
  constructor
  · rintro ⟨_, ⟨there, ruleFile⟩, _, loaded, rfl, rfl⟩
    exact ⟨there, ruleFile, loaded⟩
  · rintro ⟨there, ruleFile, loaded⟩
    exact ⟨name, ⟨there, ruleFile⟩, r, loaded, rfl, rfl⟩

/-- The names of the files that load are some of those of the rule files, in their order. -/
theorem map_fst_contributions_sublist :
    ((contributions t dir entries).map Prod.fst).Sublist
      ((FileTree.inOrder entries).map Prod.fst) := by
  rw [contributions, Files.byBytes_eq_inOrder, Files.map_fst_filterMap fun name =>
    (ofFile t (Files.Path.join dir name)).toOption]
  exact List.filter_sublist.trans List.filter_sublist

/-- **A directory contributes what its files load as**: what does not load, and the order in which the
files were found, make no difference. -/
theorem contributions_congr {t' : FileTree} {dir' : String} {entries' : List (String × Node)}
    (found : Enumerates t dir entries) (found' : Enumerates t' dir' entries')
    (same : ∀ name r, LoadsAs t dir entries name r ↔ LoadsAs t' dir' entries' name r) :
    contributions t dir entries = contributions t' dir' entries' := by
  have nodup {t : FileTree} {dir : String} {entries : List (String × Node)}
      (found : Enumerates t dir entries) : ((contributions t dir entries).map Prod.fst).Nodup := by
    obtain ⟨p, -, those⟩ := found
    exact those.inOrder.nodup.sublist map_fst_contributions_sublist
  have sorted (t : FileTree) (dir : String) (entries : List (String × Node)) :
      (contributions t dir entries).Pairwise (fun a b => a.1 ≤ b.1) :=
    List.pairwise_map.1
      ((List.pairwise_map.2 (Files.pairwise_inOrder entries)).sublist map_fst_contributions_sublist)
  exact Files.eq_of_sorted (nodup found) (nodup found') (sorted _ _ _) (sorted _ _ _) fun ⟨name, r⟩ => by
    rw [mem_contributions_iff, mem_contributions_iff, same]

/-- A text that is read as a rule is of a rule that compiles. -/
theorem compiles_of_ofYaml {text source : String} {r : Rule} (read : ofYaml text source = .ok r) :
    ∃ m, Compiles r m := by
  unfold ofYaml at read
  cases decoded : decodeYaml text with
  | error fault => simp [decoded] at read
  | ok rule =>
      cases compiled : Matcher.ofRule rule with
      | error fault => simp [decoded, compiled] at read
      | ok m =>
          rw [decoded] at read
          simp only [compiled, Except.ok.injEq] at read
          subst read
          exact ⟨m, compiled⟩

/-- Rules that files load as compile. -/
theorem compiles_of_ofFile {path : String} {r : Rule} (loaded : ofFile t path = .ok r) :
    ∃ m, Compiles r m := by
  unfold ofFile load at loaded
  split at loaded
  · cases loaded
  · split at loaded
    · cases loaded
    · split at loaded
      · cases loaded
      · exact compiles_of_ofYaml loaded

/-! ## Reading a directory -/

/-- No rule of some has the name of a rule. -/
def isNew (known : List Rule) (r : Rule) : Bool := !known.any (fun other => other.name == r.name)

/-- The rules that files load as. -/
def loadedFrom (t : FileTree) (paths : List String) : List Rule :=
  paths.filterMap fun path => (ofFile t path).toOption

theorem loadedFrom_cons_error {path : String} {f : Failure} (failed : ofFile t path = .error f)
    (paths : List String) : loadedFrom t (path :: paths) = loadedFrom t paths := by
  simp [loadedFrom, failed, Except.toOption]

theorem loadedFrom_cons_ok {path : String} {r : Rule} (loaded : ofFile t path = .ok r)
    (paths : List String) : loadedFrom t (path :: paths) = r :: loadedFrom t paths := by
  simp [loadedFrom, loaded, Except.toOption]

theorem compiles_of_mem_loadedFrom {paths : List String} {r : Rule} (member : r ∈ loadedFrom t paths) :
    ∃ m, Compiles r m := by
  obtain ⟨path, -, loaded⟩ := List.mem_filterMap.1 member
  exact compiles_of_ofFile (toOption_eq_some_iff.1 loaded)

/-- A rule that is known hides nothing that is new. -/
theorem filter_isNew_of_known {known : List Rule} {r : Rule} (taken : isNew known r = false)
    (rest : List Rule) :
    (rest.filter (fun other => other.name != r.name)).filter (isNew known) =
      rest.filter (isNew known) := by
  rw [List.filter_filter]
  refine List.filter_congr fun other _ => ?_
  cases new : isNew known other with
  | false => rfl
  | true =>
      have differ : other.name ≠ r.name := fun same => by
        simp [isNew, same] at new taken
        obtain ⟨_, member, known⟩ := taken
        exact new _ member known
      simpa using differ

/-- What is new after a rule is new beside it. -/
theorem filter_isNew_append (known : List Rule) (r : Rule) (rest : List Rule) :
    (rest.filter (fun other => other.name != r.name)).filter (isNew known) =
      rest.filter (isNew (known ++ [r])) := by
  rw [List.filter_filter]
  refine List.filter_congr fun other _ => ?_
  simp only [isNew, List.any_append, List.any_cons, List.any_nil, Bool.or_false, Bool.not_or]
  rw [bne, BEq.comm]

/-- **Files that are read after others give the first rule of each name that is new.** -/
theorem result_loadFiles (known : List Rule) (paths : List String)
    (room : known.length + paths.length ≤ maxRules) :
    (loadFiles t dir known paths).result =
      .ok (known ++ (firstOfEachName (loadedFrom t paths)).filter (isNew known)) := by
  induction paths generalizing known with
  | nil => simp [loadFiles, loadedFrom, firstOfEachName]
  | cons path paths ih =>
      rw [List.length_cons] at room
      cases loaded : (load t path).result with
      | error f =>
          simp only [loadFiles, loaded, ih known (by omega), loadedFrom_cons_error loaded]
      | ok r =>
          rw [loadedFrom_cons_ok loaded, firstOfEachName]
          cases new : isNew known r with
          | false =>
              have taken : known.any (fun other => other.name == r.name) = true := by
                simpa [isNew] using new
              simp only [loadFiles, loaded, taken, if_true, ih known (by omega)]
              rw [List.filter_cons_of_neg (by simp [new]), filter_isNew_of_known new]
          | true =>
              have free : known.any (fun other => other.name == r.name) = false := by
                simpa [isNew] using new
              have fits : ¬ maxRules ≤ known.length := by omega
              have more := ih (known ++ [r]) (by rw [List.length_append]; simp; omega)
              simp only [loadFiles, loaded, free, fits, Bool.false_eq_true, if_false, more]
              rw [List.filter_cons_of_pos new, filter_isNew_append, List.append_assoc,
                List.singleton_append]

/-- A directory that is listed is read as the first rule of each name of its files. -/
theorem ofDirectory_of_listed {paths : List String} (listed : listFiles t dir = .ok paths)
    (few : paths.length ≤ maxRules) :
    ofDirectory t dir = .ok (firstOfEachName (loadedFrom t paths)) := by
  have read : (loadFiles t dir [] paths).result =
      .ok ([] ++ (firstOfEachName (loadedFrom t paths)).filter (isNew [])) :=
    result_loadFiles [] paths (by simpa using few)
  have all : isNew [] = fun _ => true := rfl
  rw [all, List.filter_true, List.nil_append] at read
  simp only [ofDirectory, loadDirectory, listed, read]

theorem listFiles_of_enumerates (enumerated : Enumerates t dir entries) :
    listFiles t dir = .ok (filesAmong dir entries) := by
  obtain ⟨found, ok, same⟩ := Files.entries_of_enumerates enumerated
  simp only [listFiles, ok, filesAmong, same]

theorem length_filesAmong :
    (filesAmong dir entries).length = (entries.map Prod.fst).countP isRuleFile := by
  rw [filesAmong, List.length_map, ← List.countP_eq_length_filter,
    ((Files.inOrder_perm entries).map Prod.fst).countP_eq]

theorem declared_eq :
    declared t dir entries = firstOfEachName (loadedFrom t (filesAmong dir entries)) := by
  simp [declared, contributions, Files.byBytes_eq_inOrder, filesAmong, loadedFrom,
    List.map_filterMap, List.filterMap_map, Function.comp_def]

theorem compiles_of_mem_declared {r : Rule} (member : r ∈ declared t dir entries) :
    ∃ m, Compiles r m := by
  rw [declared_eq] at member
  exact compiles_of_mem_loadedFrom (mem_of_mem_firstOfEachName member)

/-- A directory is read as what it declares. -/
theorem ofDirectory_eq_declared (enumerated : Enumerates t dir entries)
    (few : (entries.map Prod.fst).countP isRuleFile ≤ maxRules) :
    ofDirectory t dir = .ok (declared t dir entries) := by
  rw [declared_eq]
  exact ofDirectory_of_listed (listFiles_of_enumerates enumerated) (length_filesAmong.trans_le few)

end Directory

/-! ## Joining an engine -/

/-- **Nothing is wrong with rules that compile and have different names but a name that the engine
has**, and it is the first of them that is refused. -/
theorem compileNew_eq_error {e : Engine} {seen : List String} {rules : List Rule} {r : Rule}
    (all : ∀ r ∈ rules, ∃ m, Compiles r m) (different : (rules.map Rule.name).Nodup)
    (new : ∀ r ∈ rules, r.name ∉ seen)
    (clash : rules.find? (fun r => e.contains r.name) = some r) :
    e.compileNew seen rules = .error ⟨r.name, .duplicateName⟩ := by
  induction rules generalizing seen with
  | nil => cases clash
  | cons first rest ih =>
      obtain ⟨⟨m, compiled⟩, all⟩ := List.forall_mem_cons.1 all
      obtain ⟨unseen, new⟩ := List.forall_mem_cons.1 new
      obtain ⟨apart, different⟩ := List.nodup_cons.1 different
      cases taken : e.contains first.name with
      | true =>
          rw [List.find?_cons, taken] at clash
          cases clash
          simp [Engine.compileNew, taken]
      | false =>
          rw [List.find?_cons, taken] at clash
          have later : ∀ r ∈ rest, r.name ∉ first.name :: seen := fun r member seen => by
            rcases List.mem_cons.1 seen with same | seen
            · exact apart (List.mem_map.2 ⟨r, member, same⟩)
            · exact new r member seen
          have compiled : Matcher.ofRule first = .ok m := compiled
          simp [Engine.compileNew, taken, unseen, compiled, ih all different later clash]

/-- Rules of a directory are compiled together and join the engine, or they are refused. -/
theorem apply_load_of_ofDirectory {t : FileTree} {dir : String} {rules : List Rule}
    (read : ofDirectory t dir = .ok rules) (e : Engine) :
    (Change.load t dir).apply e =
      match e.compileNew [] rules with
      | .ok ms => (.loaded ms.length, ⟨e.matchers ++ ms⟩)
      | .error refusal => (.failed (.ofRefusal refusal), e) := by
  simp only [Change.apply, Change.update, read, EStateM.run_bind, EStateM.run_adaptExcept,
    Engine.run_insertAll]
  cases e.compileNew [] rules <;> rfl

/-- Rules whose names are new to an engine join it. -/
theorem compileNew_eq_ok {e : Engine} {rules : List Rule} (all : ∀ r ∈ rules, ∃ m, Compiles r m)
    (different : (rules.map Rule.name).Nodup) (new : ∀ r ∈ rules, r.name ∉ e.names) :
    ∃ ms, List.Forall₂ Compiles rules ms ∧ e.compileNew [] rules = .ok ms := by
  obtain ⟨ms, compiled⟩ := exists_compiles all
  have added : e.addAll rules = .ok ⟨e.matchers ++ ms⟩ :=
    Engine.addAll_eq_ok_iff.2 ⟨new, different, ms, compiled, rfl⟩
  rw [Engine.addAll_eq_map_compileNew] at added
  cases joined : e.compileNew [] rules with
  | error refusal => simp [joined, Except.map] at added
  | ok those =>
      have same : those = ms := by simpa [joined, Except.map] using added
      exact ⟨ms, compiled, by rw [same]⟩

/-- **A directory joins an engine as a whole or not at all.**  If it can be listed, in whatever order,
it is read as the rules that it declares, which compile and have different names.  If the engine has
none of their names, all of them join it in their order, compiled one for one; else the first of them
whose name it has is refused and the engine stays as it is, as it does where the directory cannot be
listed.  What comes of it depends on the files that load alone. -/
theorem load_joins_or_fails (e : Engine) (t : FileTree) (dir : String) :
    (∀ fault, t.entries dir = .error fault → (Change.load t dir).apply e =
      (.failed (.ruleLoad dir ("failed to read directory: " ++ fault.message)), e)) ∧
    ∀ entries, Enumerates t dir entries → (entries.map Prod.fst).countP isRuleFile ≤ maxRules →
      let rules := declared t dir entries
      ofDirectory t dir = .ok rules ∧ (rules.map Rule.name).Nodup ∧
      (∀ r ∈ rules, ∃ m, Compiles r m) ∧
      ((∀ r ∈ rules, r.name ∉ e.names) → ∃ ms, List.Forall₂ Compiles rules ms ∧
        (Change.load t dir).apply e = (.loaded rules.length, ⟨e.matchers ++ ms⟩)) ∧
      (∀ r, rules.find? (fun r => e.contains r.name) = some r →
        (Change.load t dir).apply e = (.failed (.ofRefusal ⟨r.name, .duplicateName⟩), e)) ∧
      ((∃ count next, (Change.load t dir).apply e = (.loaded count, next)) ↔
        ∀ r ∈ rules, r.name ∉ e.names) ∧
      ∀ t' entries', Enumerates t' dir entries' →
        (entries'.map Prod.fst).countP isRuleFile ≤ maxRules →
        (∀ name r, LoadsAs t' dir entries' name r ↔ LoadsAs t dir entries name r) →
          (Change.load t' dir).apply e = (Change.load t dir).apply e := by
  refine ⟨fun fault failed => ?_, fun entries found few => ?_⟩
  · rw [Change.apply_load]
    simp only [Engine.load, loadDirectory, listFiles, failed]
  · intro rules
    have read : ofDirectory t dir = .ok rules := ofDirectory_eq_declared found few
    have different : (rules.map Rule.name).Nodup := nodup_firstOfEachName _
    have all : ∀ r ∈ rules, ∃ m, Compiles r m := fun r member => compiles_of_mem_declared member
    have joined : (∀ r ∈ rules, r.name ∉ e.names) → ∃ ms, List.Forall₂ Compiles rules ms ∧
        (Change.load t dir).apply e = (.loaded rules.length, ⟨e.matchers ++ ms⟩) := by
      intro new
      obtain ⟨ms, compiled, ok⟩ := compileNew_eq_ok all different new
      exact ⟨ms, compiled, by rw [apply_load_of_ofDirectory read, ok, compiled.length_eq]⟩
    have refused : ∀ r, rules.find? (fun r => e.contains r.name) = some r →
        (Change.load t dir).apply e = (.failed (.ofRefusal ⟨r.name, .duplicateName⟩), e) := by
      intro r clash
      rw [apply_load_of_ofDirectory read, compileNew_eq_error all different (by simp) clash]
    refine ⟨read, different, all, joined, refused, ⟨?_, ?_⟩, ?_⟩
    · rintro ⟨count, next, loaded⟩ r member taken
      cases clash : rules.find? (fun r => e.contains r.name) with
      | none => exact List.find?_eq_none.1 clash r member (Engine.contains_iff.2 taken)
      | some r =>
          rw [refused r clash] at loaded
          cases loaded
    · intro new
      obtain ⟨ms, -, loaded⟩ := joined new
      exact ⟨_, _, loaded⟩
    · intro t' entries' found' few' same
      have those : declared t' dir entries' = rules := by
        rw [declared, contributions_congr found' found same]
        rfl
      rw [apply_load_of_ofDirectory read,
        apply_load_of_ofDirectory (ofDirectory_eq_declared found' few'), those]

/-- A file with a text is read as the text. -/
theorem ofFile_of_lookup {t : FileTree} {path text : String} {p : Files.Place}
    (found : t.lookup path = .ok (p, .file text.toUTF8)) (small : text.toUTF8.size ≤ maxFileSize) :
    ofFile t path = ofYaml text path := by
  have size : t.size path = .ok text.toUTF8.size := by
    rw [FileTree.size, found]
    rfl
  have read := Files.readText_of_read (Files.read_of_lookup found)
  unfold ofFile load
  rw [size]
  dsimp only
  rw [if_neg (by omega), read]

/-- A file that declares a rule, and one that is broken off. -/
def sampleFiles : List (String × ByteArray) :=
  [("b.yml", "name: Second\n".toUTF8), ("a.yml", "name: [\n".toUTF8)]

theorem lookup_sampleFiles : (Files.oneDirectory "rules" sampleFiles).lookup "rules" =
    .ok (Files.placeOf "rules", .directory) :=
  Files.lookup_oneDirectory (by decide) (by decide) (by decide)

theorem filesAmong_sampleFiles :
    filesAmong "rules" (sampleFiles.map fun f => (f.1, .file f.2)) =
      ["a.yml", "b.yml"].map (Files.Path.join "rules") := by
  have order : Files.FileTree.inOrder (sampleFiles.map fun f => (f.1, Node.file f.2)) =
      [("a.yml", .file "name: [\n".toUTF8), ("b.yml", .file "name: Second\n".toUTF8)] := by
    rw [← Files.byBytes_eq_inOrder]
    exact Files.byBytes_eq (.swap _ _ _) (by decide) (by decide)
  rw [filesAmong, order]
  exact congrArg (List.map (Files.Path.join "rules")) (by decide)

/-- One of the files loads. -/
theorem loadedFrom_sampleFiles :
    loadedFrom (Files.oneDirectory "rules" sampleFiles)
      (["a.yml", "b.yml"].map (Files.Path.join "rules")) = [{ name := "Second" }] := by
  have broken : (ofFile (Files.oneDirectory "rules" sampleFiles)
      (Files.Path.join "rules" "a.yml")).toOption = none := by
    rw [ofFile_of_lookup (Files.lookup_join_oneDirectory lookup_sampleFiles (by decide)
      (by decide) rfl) (by decide)]
    decide
  have good : (ofFile (Files.oneDirectory "rules" sampleFiles)
      (Files.Path.join "rules" "b.yml")).toOption = some { name := "Second" } := by
    rw [ofFile_of_lookup (Files.lookup_join_oneDirectory lookup_sampleFiles (by decide)
      (by decide) rfl) (by decide)]
    decide
  simp [loadedFrom, broken, good]

theorem declared_sampleFiles :
    declared (Files.oneDirectory "rules" sampleFiles) "rules"
      (sampleFiles.map fun f => (f.1, .file f.2)) = [{ name := "Second" }] := by
  rw [declared_eq, filesAmong_sampleFiles, loadedFrom_sampleFiles]
  rfl

theorem enumerates_sampleFiles :
    Enumerates (Files.oneDirectory "rules" sampleFiles) "rules"
      (sampleFiles.map fun f => (f.1, .file f.2)) :=
  Files.enumerates_oneDirectory lookup_sampleFiles (by decide) (by decide)

theorem load_joins_sampleFiles :
    Enumerates (Files.oneDirectory "rules" sampleFiles) "rules"
        (sampleFiles.map fun f => (f.1, .file f.2)) ∧
      ∃ ms, List.Forall₂ Compiles [{ name := "Second" }] ms ∧
        (Change.load (Files.oneDirectory "rules" sampleFiles) "rules").apply .empty =
          (.loaded 1, ⟨ms⟩) := by
  have enumerated := Files.enumerates_oneDirectory lookup_sampleFiles (by decide) (by decide)
  obtain ⟨-, -, -, joined, -⟩ :=
    (load_joins_or_fails .empty _ "rules").2 _ enumerated (by decide)
  rw [declared_sampleFiles] at joined
  exact ⟨enumerated, joined (by decide)⟩

end ThreatMarker.Rule
