import ThreatMarker.Failure
import ThreatMarker.Rule.Decoding
import ThreatMarker.Yaml.Decoding
/-
# Rule files

One file holds one rule.  The files of a directory are read in the order of their names; a file that
cannot be read and a rule whose name was seen before are skipped with a warning.
-/

namespace ThreatMarker.Rule

set_option autoImplicit false

open Files (FileTree Node)

/-- A result with what was reported on the way to it. -/
structure Reported (α : Type) where
  result : Except Failure α
  events : List Trace.Event := []

/-- The limit on the bytes of a rule file. -/
def maxFileSize : Nat := 10485760

/-- The limit on the number of rules. -/
def maxRules : Nat := 10000

/-- Read a rule from text, without checking it. -/
def decodeYaml (text : String) : Except Decode.Fault Rule :=
  let document := Yaml.Document.ofText text.toList
  match decode Yaml.format document.root with
  | .error fault => .error fault
  | .ok r => if document.sound then .ok r else .error { cause := .malformed }

/-- Read a rule from text and check that it can be compiled. -/
def ofYaml (text source : String) : Except Failure Rule :=
  match decodeYaml text with
  | .error fault => .error (.ruleLoad source ("YAML parse error: " ++ fault.message))
  | .ok r =>
      match Matcher.ofRule r with
      | .error fault => .error (.ofRefusal ⟨r.name, fault⟩)
      | .ok _ => .ok r

/-- What reading a rule from text reports. -/
def ofYamlEvents (text : String) : List Trace.Event :=
  match decodeYaml text with
  | .error _ => []
  | .ok r => Matcher.events r

/-- Read a rule file and report. -/
def load (t : FileTree) (path : String) : Reported Rule :=
  match t.size path with
  | .error e => ⟨.error (.ruleLoad path ("failed to read file metadata: " ++ e.message)), []⟩
  | .ok size =>
      if maxFileSize < size then
        ⟨.error (.ruleLoad path ("file too large: " ++ toString size ++ " bytes (max: "
          ++ toString maxFileSize ++ ")")), []⟩
      else
        match t.readText path with
        | .error e => ⟨.error (.ruleLoad path ("failed to read file: " ++ e.message)), []⟩
        | .ok text => ⟨ofYaml text path, ofYamlEvents text⟩

/-- Read a rule file. -/
def ofFile (t : FileTree) (path : String) : Except Failure Rule := (load t path).result

/-- Whether a name is that of a rule file. -/
def isRuleFile (name : String) : Bool :=
  Files.Path.extension? name == some "yml" || Files.Path.extension? name == some "yaml"

/-- The paths of the rule files among the entries of a directory, in the order of their names. -/
def filesAmong (dir : String) (entries : List (String × Node)) : List String :=
  (((FileTree.inOrder entries).map (·.1)).filter isRuleFile).map (Files.Path.join dir)

/-- The paths of the rule files in a directory, in the order of their names. -/
def listFiles (t : FileTree) (dir : String) : Except Failure (List String) :=
  match t.entries dir with
  | .error e => .error (.ruleLoad dir ("failed to read directory: " ++ e.message))
  | .ok entries => .ok (filesAmong dir entries)

/-- Read the files of a directory after those whose rules are in `rules`, and report. -/
def loadFiles (t : FileTree) (dir : String) : List Rule → List String → Reported (List Rule)
  | rules, [] => ⟨.ok rules, []⟩
  | rules, path :: rest =>
      let loaded := load t path
      match loaded.result with
      | .error f =>
          let warning : Trace.Event :=
            { level := .warn, message := "failed to load rule file, skipping",
              fields := [("path", path), ("error", f.message)] }
          let later := loadFiles t dir rules rest
          { later with events := loaded.events ++ warning :: later.events }
      | .ok r =>
          if rules.any (fun known => known.name == r.name) then
            let warning : Trace.Event :=
              { level := .warn, message := "duplicate rule name, skipping",
                fields := [("rule", r.name), ("path", path)] }
            let later := loadFiles t dir rules rest
            { later with events := loaded.events ++ warning :: later.events }
          else if maxRules ≤ rules.length then
            ⟨.error (.ruleLoad dir ("too many rules: max " ++ toString maxRules)), loaded.events⟩
          else
            let later := loadFiles t dir (rules ++ [r]) rest
            { later with events := loaded.events ++ later.events }

/-- Read the rules of a directory and report. -/
def loadDirectory (t : FileTree) (dir : String) : Reported (List Rule) :=
  match listFiles t dir with
  | .error f => ⟨.error f, []⟩
  | .ok paths =>
      let loaded := loadFiles t dir [] paths
      match loaded.result with
      | .error f => ⟨.error f, loaded.events⟩
      | .ok rules =>
          let done : Trace.Event :=
            { level := .info, message := "loaded detection rules",
              fields := [("dir", dir), ("count", toString rules.length)] }
          ⟨.ok rules, loaded.events ++ [done]⟩

/-- The rules of a directory. -/
def ofDirectory (t : FileTree) (dir : String) : Except Failure (List Rule) :=
  (loadDirectory t dir).result

/-- Add the rules of a directory to an engine, once all of them are compiled, and report. -/
def Engine.load (e : Engine) (t : FileTree) (dir : String) : Reported (Nat × Engine) :=
  let loaded := loadDirectory t dir
  match loaded.result with
  | .error f => ⟨.error f, loaded.events⟩
  | .ok rules =>
      let events := loaded.events ++ e.joinEvents rules
      match (Engine.insertAll rules).run e with
      | .ok count next => ⟨.ok (count, next), events⟩
      | .error refusal _ => ⟨.error (.ofRefusal refusal), events⟩

/-- Add the rules of a directory, if one is named, to an engine that was made with some reports, and
say how many the directory has. -/
def Engine.extended (t : FileTree) (made : Except Refusal Engine) (before : List Trace.Event)
    (dir : Option String) : Reported (Nat × Engine) :=
  match made with
  | .error refusal => ⟨.error (.ofRefusal refusal), before⟩
  | .ok e =>
      match dir with
      | none => ⟨.ok (0, e), before⟩
      | some dir =>
          let loaded := e.load t dir
          { loaded with events := before ++ loaded.events }

/-- The rules that are always known together with those of a directory, if one is named, and how many
the directory has. -/
def Engine.prepare (t : FileTree) (dir : Option String) : Reported (Nat × Engine) :=
  extended t (ofRules builtin) (empty.addAllEvents builtin) dir

end ThreatMarker.Rule
