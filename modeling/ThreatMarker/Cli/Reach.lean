import ThreatMarker.Cli.Run
/-
# The reach of a command

Which directories a command looks into, so that nothing else has to be read before it runs, and which
files it made.
-/

namespace ThreatMarker.Cli

set_option autoImplicit false

/-- The directories whose files a command reads. -/
def Command.readDirs (command : Command) (c : Config) : List String :=
  match command with
  | .process rawDir sampleDir rulesDir =>
      let settings := batchSettings c rawDir sampleDir rulesDir
      settings.rawDir :: settings.rulesDir.toList
  | .check _ rulesDir => (rulesDirOf rulesDir c).toList
  | .listRules rulesDir => (rulesDirOf rulesDir c).toList
  | .validateRules path => [path]
  | .validateConfig | .showConfig _ => []

/-- The directories of which a command has to know what is in them. -/
def Command.writeDirs (command : Command) (c : Config) : List String :=
  match command with
  | .process rawDir sampleDir rulesDir => [(batchSettings c rawDir sampleDir rulesDir).sampleDir]
  | _ => []

/-- Whether a command reads lines from the input. -/
def Command.readsInput : Command → Bool
  | .check lines _ => lines.isEmpty
  | _ => false

/-- The files that a command made. -/
def Outcome.madeFiles (r : Outcome) : List String :=
  match r.report with
  | some (.batch b) => b.report.files.map Batch.FileReport.output
  | _ => []

end ThreatMarker.Cli
