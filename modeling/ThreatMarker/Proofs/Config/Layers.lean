import ThreatMarker.Config.File
import ThreatMarker.Proofs.Decode.Members
/-
# Where a setting comes from

A setting has a variable of the environment, a place in a document, and a usual value, and the first of
them that gives something counts (`Layered`), which leaves no choice (`Layered.unique`).  Taking the
environment into account changes a setting exactly where its variable gives one (`setting_override`);
reading a document gives the settings that stand in it and leaves the others as they usually are
(`setting_of_ofToml`).
-/

namespace ThreatMarker

set_option autoImplicit false

open Decode (Fields Format Shape)

/-! ## Documents -/

namespace Toml.Value

/-- The value of a member of a structure with the given names: by its name in a table, by its place in
an array. -/
def member? (names : List String) (name : String) : Value → Option Value
  | .table entries => entries.lookup name
  | .array items => items[names.idxOf name]?
  | _ => none

/-- What is read as the fields of a structure gives a member the value that the data has for it. -/
theorem member?_of_readFields {σ : Type} {s : Shape Value σ} (plain : s.synonyms = []) {name : String}
    (listed : name ∈ s.names) {kind : String} {v : Value} {fields : Fields Value}
    (read : v.readFields kind = .ok fields) : s.member? name fields = v.member? s.names name := by
  cases v with
  | table entries =>
      cases read
      -- an entry gives the member exactly if it has its name
      have gives (e : String × Value) :
          s.gives name { name := .ok e.1, step := .member e.1, value := e.2 } = (name == e.1) := by
        by_cases same : name = e.1
        · simp [Shape.gives, Shape.canonical?, ← same, listed]
        · by_cases known : e.1 ∈ s.names <;>
            simp [Shape.gives, Shape.canonical?, known, plain, same, Ne.symm same]
      rw [Shape.member?, member?]
      induction entries with
      | nil => rfl
      | cons e entries ih =>
          rw [List.map_cons, List.find?_cons, gives, List.lookup_cons]
          cases name == e.1 with
          | true => rfl
          | false => exact ih
  | array items =>
      cases read
      rfl
  | time =>
      cases read
      rfl
  | _ => cases read

end Toml.Value

namespace Config

/-! ## Settings -/

/-- The value of a setting. -/
inductive Setting where
  | text (s : String)
  | number (n : Nat)
  deriving Repr, DecidableEq

/-- The setting that a value in a document stands for. -/
def Setting.ofToml? : Toml.Value → Option Setting
  | .string s => some (.text s)
  | .integer n => if 0 ≤ n then some (.number n.toNat) else none
  | _ => none

/-- The settings one by one. -/
def setting (c : Config) : Variable → Setting
  | .logLevel => .text c.general.logLevel
  | .logFormat => .text c.general.logFormat
  | .rawDir => .text c.etl.rawDir
  | .sampleDir => .text c.etl.sampleDir
  | .inputExtension => .text c.etl.inputExtension
  | .outputPrefix => .text c.etl.outputPrefix
  | .rulesDir => .text c.etl.rulesDir
  | .maxLineLength => .number c.etl.maxLineLength

/-- A configuration is its settings. -/
theorem eq_of_setting {c c' : Config} (same : ∀ v, c.setting v = c'.setting v) : c = c' := by
  obtain ⟨⟨logLevel, logFormat⟩, rawDir, sampleDir, inputExtension, outputPrefix, rulesDir, limit⟩ := c
  obtain ⟨⟨_, _⟩, _, _, _, _, _, _⟩ := c'
  cases same .logLevel
  cases same .logFormat
  cases same .rawDir
  cases same .sampleDir
  cases same .inputExtension
  cases same .outputPrefix
  cases same .rulesDir
  cases same .maxLineLength
  rfl

namespace Variable

/-- The table in which a setting stands. -/
def table : Variable → String
  | .logLevel | .logFormat => "general"
  | _ => "etl"

/-- The name of a setting in its table. -/
def key : Variable → String
  | .logLevel => "log_level"
  | .logFormat => "log_format"
  | .rawDir => "raw_dir"
  | .sampleDir => "sample_dir"
  | .inputExtension => "input_extension"
  | .outputPrefix => "output_prefix"
  | .rulesDir => "rules_dir"
  | .maxLineLength => "max_line_length"

/-- The names of the settings of a table. -/
def keysOf (table : String) : List String := (all.filter fun v => v.table == table).map key

/-- The value of a setting in a document. -/
def inDocument? (v : Variable) (document : Toml.Value) : Option Toml.Value :=
  (document.member? ["general", "etl"] v.table).bind (Toml.Value.member? (keysOf v.table) v.key)

/-- The value of a setting in a file, if there is a document in it. -/
def inFile? (v : Variable) (t : Files.FileTree) (path : String) : Option Toml.Value :=
  match t.readText path with
  | .ok text => (Toml.Value.parse? text).bind v.inDocument?
  | .error _ => none

/-- A name in capital letters. -/
def capitals (name : String) : String := String.ofList (name.toList.map Char.toUpper)

/-- The setting that the environment gives: a text is taken as it is, a number has to be one. -/
def set? (v : Variable) (env : Environment) : Option Setting :=
  (env.value? ("ACCESSWATCH_" ++ capitals v.table ++ "_" ++ capitals v.key)).bind fun text =>
    if v = .maxLineLength then (Decimal.readNatural? Decimal.maxNat64 text.toList).map .number
    else some (.text text)

theorem name_eq (v : Variable) : v.name = "ACCESSWATCH_" ++ capitals v.table ++ "_" ++ capitals v.key := by
  cases v <;> decide

end Variable

/-- Every setting is what the environment gives, or else what a file has for it, or else what it usually
is. -/
def Layered (env : Environment) (given? : Variable → Option Toml.Value) (c : Config) : Prop :=
  ∀ v : Variable,
    match v.set? env, given? v with
    | some set, _ => c.setting v = set
    | none, some value => Setting.ofToml? value = some (c.setting v)
    | none, none => c.setting v = ({} : Config).setting v

/-- The layers leave no choice. -/
theorem Layered.unique {env : Environment} {given? : Variable → Option Toml.Value} {c c' : Config}
    (layered : c.Layered env given?) (layered' : c'.Layered env given?) : c = c' := by
  refine eq_of_setting fun v => ?_
  have first := layered v
  have second := layered' v
  cases set : v.set? env with
  | some set =>
      simp only [set] at first second
      rw [first, second]
  | none =>
      cases value : given? v with
      | some value =>
          simp only [set, value] at first second
          exact Option.some.inj (first.symm.trans second)
      | none =>
          simp only [set, value] at first second
          rw [first, second]

/-! ## The environment -/

/-- **The environment changes a setting exactly where it gives one.** -/
theorem setting_override (c : Config) (env : Environment) (v : Variable) :
    (c.override env).setting v = (v.set? env).getD (c.setting v) := by
  have set : v.set? env = (v.text? env).bind fun text =>
      if v = .maxLineLength then (Decimal.readNatural? Decimal.maxNat64 text.toList).map .number
      else some (.text text) := by
    rw [Variable.set?, Variable.text?, Variable.name_eq]
  rw [set]
  cases v
  case maxLineLength =>
    simp only [override, setting, Variable.number?, if_true]
    cases Variable.text? .maxLineLength env with
    | none => rfl
    | some text =>
        simp only [Option.bind_some]
        cases Decimal.readNatural? Decimal.maxNat64 text.toList <;> rfl
  all_goals
    simp only [override, setting, reduceCtorEq, if_false]
    cases Variable.text? _ env <;> rfl

/-! ## A document -/

/-- What a member that is a structure is read as. -/
def ReadsAs {σ : Type} (s : Shape Toml.Value σ) (defaults : σ) (v : Toml.Value) (x : σ) : Prop :=
  s.read Toml.format defaults v = .ok x

/-- What a member that is a setting is read as. -/
def Stands (v : Toml.Value) (x : Setting) : Prop := Setting.ofToml? v = some x

theorem stands_of_readText {v : Toml.Value} {s : String} (read : readText Toml.format v = .ok s) :
    Stands v (.text s) := by
  cases v with
  | string text => cases read; rfl
  | _ => cases read

theorem stands_of_natural {v : Toml.Value} {n : Nat}
    (read : Format.here (Toml.format.natural "usize" Decimal.maxNat64 v) = .ok n) :
    Stands v (.number n) := by
  cases v with
  | integer z =>
      change Format.here (Toml.Value.readNatural "usize" Decimal.maxNat64 (.integer z)) = _ at read
      unfold Toml.Value.readNatural at read
      dsimp only at read
      split at read
      · cases read
      · split at read
        · rename_i fits
          cases read
          exact if_pos fits.1
        · cases read
  | _ => cases read

theorem exists_of_map {ε α β : Type} {f : α → β} {r : Except ε α} {b : β} (ok : r.map f = .ok b) :
    ∃ a, r = .ok a ∧ b = f a := by
  cases r with
  | error e => cases ok
  | ok a => cases ok; exact ⟨a, rfl, rfl⟩

/-- Other members do not change a part of the settings. -/
theorem holds_general :
    (shape Toml.format).Holds "general" general (ReadsAs (generalShape Toml.format) {}) where
  assigned := by
    intro v state next assigned
    obtain ⟨general, read, rfl⟩ := exists_of_map assigned
    exact read
  kept := by
    intro other v state next _ different assigned
    simp only [shape, if_neg different] at assigned
    obtain ⟨etl, -, rfl⟩ := exists_of_map assigned
    rfl

theorem holds_etl : (shape Toml.format).Holds "etl" etl (ReadsAs (etlShape Toml.format) {}) where
  assigned := by
    intro v state next assigned
    obtain ⟨etl, read, rfl⟩ := exists_of_map assigned
    exact read
  kept := by
    intro other v state next listed different assigned
    obtain rfl : other = "general" := by simpa [shape, different] using listed
    obtain ⟨general, -, rfl⟩ := exists_of_map assigned
    rfl

/-- A setting of the first table is what stands there, whatever else does. -/
theorem holds_of_general {v : Variable} (inTable : v.table = "general") :
    (generalShape Toml.format).Holds v.key (fun general => setting { general } v) Stands := by
  constructor
  · intro x state next assigned
    cases v
    case logLevel | logFormat =>
      obtain ⟨text, read, rfl⟩ := exists_of_map assigned
      exact stands_of_readText read
    all_goals exact absurd inTable (by decide)
  · intro other x state next listed different assigned
    simp only [generalShape, List.mem_cons, List.not_mem_nil, or_false] at listed
    rcases listed with rfl | rfl
    all_goals
      obtain ⟨_, -, rfl⟩ := exists_of_map assigned
      -- another member leaves the setting as it was, and this one is not another
      cases v
      all_goals first
        | rfl
        | exact absurd rfl different

/-- A setting of the second table is what stands there, whatever else does. -/
theorem holds_of_etl {v : Variable} (inTable : v.table = "etl") :
    (etlShape Toml.format).Holds v.key (fun etl => setting { etl } v) Stands := by
  constructor
  · intro x state next assigned
    cases v
    case logLevel | logFormat => exact absurd inTable (by decide)
    case maxLineLength =>
      obtain ⟨n, read, rfl⟩ := exists_of_map assigned
      exact stands_of_natural read
    all_goals
      obtain ⟨text, read, rfl⟩ := exists_of_map assigned
      exact stands_of_readText read
  · intro other x state next listed different assigned
    simp only [etlShape, List.mem_cons, List.not_mem_nil, or_false] at listed
    rcases listed with rfl | rfl | rfl | rfl | rfl | rfl
    all_goals
      obtain ⟨_, -, rfl⟩ := exists_of_map assigned
      cases v
      all_goals first
        | rfl
        | exact absurd rfl different

/-- What a structure holds of a member is what stands in the data. -/
theorem given_of_read {σ β : Type} {s : Shape Toml.Value σ} {name : String} {get : σ → β}
    {Reads : Toml.Value → β → Prop} (holds : s.Holds name get Reads) (plain : s.synonyms = [])
    (distinct : s.names.Nodup) (listed : name ∈ s.names) {defaults state : σ} {v : Toml.Value}
    (read : s.read Toml.format defaults v = .ok state) :
    Shape.Given get Reads (v.member? s.names name) defaults state := by
  obtain ⟨fields, found, given⟩ := holds.of_read (by simp [plain]) distinct listed read
  rwa [Toml.Value.member?_of_readFields plain listed found] at given

/-- A setting is what stands in its table, where there is one. -/
theorem given_of_table {σ : Type} {s : Shape Toml.Value σ} {v : Variable} {get : σ → Setting}
    (holds : s.Holds v.key get Stands) (plain : s.synonyms = []) (distinct : s.names.Nodup)
    (names : s.names = Variable.keysOf v.table) (listed : v.key ∈ s.names) {part : Config → σ}
    {value? : Option Toml.Value} {c : Config}
    (given : Shape.Given part (ReadsAs s (part {})) value? {} c) :
    Shape.Given get Stands (value?.bind (Toml.Value.member? (Variable.keysOf v.table) v.key)) (part {})
      (part c) := by
  cases value? with
  | none => exact congrArg get given
  | some table =>
      rw [← names]
      exact given_of_read holds plain distinct listed given

/-- **A setting that was read is what stands in the document**, or else what it usually is. -/
theorem setting_of_ofToml {text : String} {c : Config} (read : ofToml text = .ok c) :
    ∃ document, Toml.Value.parse? text = some document ∧
      ∀ v : Variable, Shape.Given (setting · v) Stands (v.inDocument? document) {} c := by
  unfold ofToml at read
  cases parsed : Toml.Value.parse? text with
  | none => simp [parsed] at read
  | some document =>
      refine ⟨document, rfl, fun v => ?_⟩
      have whole : (shape Toml.format).read Toml.format {} document = .ok c := by
        cases whole : (shape Toml.format).read Toml.format {} document with
        | error fault => simp [parsed, whole] at read
        | ok found => simpa [parsed, whole] using read
      have general := given_of_read holds_general rfl (by decide) (by decide) whole
      have etl := given_of_read holds_etl rfl (by decide) (by decide) whole
      cases v
      case logLevel | logFormat =>
        exact given_of_table (holds_of_general rfl) rfl (by decide) (by decide) (by decide) general
      all_goals exact given_of_table (holds_of_etl rfl) rfl (by decide) (by decide) (by decide) etl

/-! ## Loading -/

variable {t : Files.FileTree} {env : Environment} {path : String} {c base : Config}

theorem settle_eq_ok_iff {before : List Trace.Event} :
    (base.settle env before).result = .ok c ↔
      (base.override env).validate = .ok () ∧ c = base.override env := by
  unfold settle
  dsimp only
  cases (base.override env).validate <;> simp [eq_comm]

/-- What is read from a file are settings that keep the rules by themselves. -/
theorem ofFile_eq_ok_iff :
    ofFile t path = .ok base ↔
      ∃ text, t.readText path = .ok text ∧ ofToml text = .ok base ∧ base.validate = .ok () := by
  unfold ofFile
  cases t.readText path with
  | error e => cases e <;> simp
  | ok text =>
      cases read : ofToml text with
      | error f => simp [read]
      | ok found =>
          cases valid : found.validate with
          | error f =>
              simp only [read, valid, Except.ok.injEq, exists_eq_left', reduceCtorEq, false_iff]
              rintro ⟨rfl, valid'⟩
              rw [valid] at valid'
              cases valid'
          | ok _ =>
              simp only [read, valid, Except.ok.injEq, exists_eq_left']
              exact ⟨fun same => ⟨same, same ▸ valid⟩, fun both => both.1⟩

theorem ofFile_of_missing (missing : t.readText path = .error .noEntry) :
    ofFile t path = .error (.configNotFound path) := by
  unfold ofFile
  rw [missing]

/-- A file that is there is never reported as missing. -/
theorem ofFile_ne_configNotFound (there : t.readText path ≠ .error .noEntry) (name : String) :
    ofFile t path ≠ .error (.configNotFound name) := by
  unfold ofFile
  cases found : t.readText path with
  | error e =>
      cases e
      case noEntry => exact absurd found there
      all_goals simp
  | ok text =>
      dsimp only
      cases read : ofToml text with
      | error f =>
          unfold ofToml at read
          dsimp only
          split at read
          · cases read
            simp
          · split at read
            · cases read
            · cases read
              simp
      | ok c =>
          dsimp only
          unfold validate
          cases c.fault? <;> simp [Fault.failure]

theorem load_eq_ok_iff :
    (load t env path).result = .ok c ↔
      ∃ base, ofFile t path = .ok base ∧ (base.override env).validate = .ok () ∧
        c = base.override env := by
  unfold load
  cases ofFile t path with
  | error f => simp
  | ok base => simp [settle_eq_ok_iff]

theorem load_of_missing (missing : t.readText path = .error .noEntry) :
    load t env path = ⟨.error (.configNotFound path), []⟩ := by
  rw [load, ofFile_of_missing missing]

/-- The two ways to load a file differ only where there is none. -/
theorem loadOrDefault_of_there (there : t.readText path ≠ .error .noEntry) :
    loadOrDefault t env path = load t env path := by
  have found := ofFile_ne_configNotFound there
  unfold loadOrDefault load
  cases read : ofFile t path with
  | ok c => rfl
  | error f =>
      cases f
      case configNotFound name => exact absurd read (found name)
      all_goals rfl

theorem loadOrDefault_eq_ok_iff_of_missing (missing : t.readText path = .error .noEntry) :
    (loadOrDefault t env path).result = .ok c ↔
      (({} : Config).override env).validate = .ok () ∧ c = ({} : Config).override env := by
  unfold loadOrDefault
  rw [ofFile_of_missing missing]
  exact settle_eq_ok_iff

/-! ## Layers -/

/-- Settings over which the environment is laid. -/
theorem layered_override {given? : Variable → Option Toml.Value}
    (given : ∀ v : Variable, Shape.Given (setting · v) Stands (given? v) {} base) :
    (base.override env).Layered env given? := by
  intro v
  have below := given v
  rw [setting_override]
  cases v.set? env with
  | some set => rfl
  | none =>
      cases value : given? v with
      | some value => simpa only [value, Shape.Given, Stands, Option.getD_none] using below
      | none => simpa only [value, Shape.Given, Option.getD_none] using below

/-- **Settings that were loaded keep the rules, and each comes from the first layer that has it.** -/
theorem layered_of_loaded
    (loaded : (load t env path).result = .ok c ∨ (loadOrDefault t env path).result = .ok c) :
    c.validate = .ok () ∧ c.Layered env (Variable.inFile? · t path) := by
  by_cases missing : t.readText path = .error .noEntry
  · have none : ∀ v : Variable, v.inFile? t path = none := fun v => by
      rw [Variable.inFile?, missing]
    rcases loaded with loaded | loaded
    · rw [load_of_missing missing] at loaded
      cases loaded
    · obtain ⟨valid, rfl⟩ := (loadOrDefault_eq_ok_iff_of_missing missing).1 loaded
      refine ⟨valid, layered_override fun v => ?_⟩
      rw [none]
      rfl
  · rw [loadOrDefault_of_there missing, or_self] at loaded
    obtain ⟨base, read, valid, rfl⟩ := load_eq_ok_iff.1 loaded
    obtain ⟨text, found, read, -⟩ := ofFile_eq_ok_iff.1 read
    obtain ⟨document, parsed, given⟩ := setting_of_ofToml read
    refine ⟨valid, layered_override fun v => ?_⟩
    have same : v.inFile? t path = v.inDocument? document := by
      simp only [Variable.inFile?, found, parsed, Option.bind_some]
    rw [same]
    exact given v

end Config

end ThreatMarker
