import ThreatMarker.Batch.Clock
import ThreatMarker.Cli.Logging
import ThreatMarker.Cli.Reach
import Std.Time.DateTime.Timestamp
/-
# The program

Reads what a command can see, runs it, and writes what it came to: the files that were made, the report
on the output, and events and failures on the error output.
-/

namespace ThreatMarker.Main

set_option autoImplicit false

open Files (FileTree)

/-! ## Before a command -/

/-- A tree with one more file. -/
def addFile (t : FileTree) (path : String) (content : ByteArray) : FileTree :=
  let t := ((Files.Path.parent? path).map fun dir => (t.ensureDirectory dir).2).getD t
  match t.create path with
  | .ok (place, t) => (t.write place content).toOption.getD t
  | .error _ => t

/-- A tree with one more directory. -/
def addDirectory (t : FileTree) (path : String) : FileTree :=
  (t.ensureDirectory path).2

/-- Read a file, if it is there, into a tree. -/
def readInto (t : FileTree) (path : String) : IO FileTree := do
  try return addFile t path (← IO.FS.readBinFile path)
  catch _ => return t

/-- Read a directory, if it is there, into a tree; without the contents of its files if only their
names matter. -/
def readDirInto (t : FileTree) (path : String) (namesOnly : Bool) : IO FileTree := do
  try
    let entries ← ((← IO.currentDir) / path).readDir
    let mut t := addDirectory t path
    for e in entries do
      let inner := Files.Path.join path e.fileName
      if ← e.path.isDir then t := addDirectory t inner
      else if namesOnly then t := addFile t inner .empty
      else t ← readInto t inner
    return t
  catch _ => return t

/-- The variables that can hold a setting. -/
def readEnvironment : IO Environment := do
  let mut env : Environment := []
  for v in Config.Variable.all do
    if let some value ← IO.getEnv v.name then env := env ++ [(v.name, value)]
  return env

/-- Read a stream to its end. -/
partial def readAll (stream : IO.FS.Stream) (content : ByteArray) : IO ByteArray := do
  let more ← stream.read 65536
  if more.isEmpty then return content else readAll stream (content ++ more)

/-- The moment of the clock. -/
def now : IO Batch.Stamp := do
  let seconds := (← Std.Time.Timestamp.now).toSecondsSinceUnixEpoch.val
  return .ofSeconds seconds.toNat

/-- All that a command can see. -/
def observe (i : Cli.Invocation) : IO Cli.Surroundings := do
  let environment ← readEnvironment
  let mut files ← readInto .empty i.config
  if let .ok c := (Config.loadOrDefault files environment i.config).result then
    for dir in i.command.writeDirs c do files ← readDirInto files dir true
    for dir in i.command.readDirs c do files ← readDirInto files dir false
  let input ← if i.command.readsInput then readAll (← IO.getStdin) .empty else pure .empty
  return { files, environment, input := input.toList, now := ← now }

/-! ## After a command -/

/-- Write the files that a command made.  None of them may be there. -/
def writeMade (r : Cli.Outcome) : IO Unit := do
  for path in r.madeFiles do
    if let some dir := Files.Path.parent? path then IO.FS.createDirAll dir
    if let .ok content := r.files.read path then
      let file ← IO.FS.Handle.mk path .writeNew
      file.write content

/-- Log the events of a run as the configuration says. -/
def log (i : Cli.Invocation) (s : Cli.Surroundings) (r : Cli.Outcome) : IO Unit := do
  let general := match (Config.loadOrDefault s.files s.environment i.config).result with
    | .ok c => c.general
    | .error _ => {}
  let level := (Trace.Level.ofText? (i.logLevel.getD general.logLevel).toUpper).getD .error
  match Cli.LogFormat.ofName? general.logFormat with
  | some format => for line in format.lines level r.events do IO.eprintln line
  | none => IO.eprintln ("warning: " ++ Cli.LogFormat.unknownMessage general.logFormat)

/-- Run a command and tell the exit status. -/
def execute (i : Cli.Invocation) : IO UInt32 := do
  let s ← observe i
  let r := i.run s
  writeMade r
  log i s r
  let palette : Cli.Palette := ⟨← (← IO.getStdout).isTty⟩
  IO.print (r.output i.output palette)
  if let some f := r.failure then IO.eprintln ("error: " ++ f.message)
  return r.exitCode.toUInt32

end ThreatMarker.Main

def main (words : List String) : IO UInt32 := do
  match ThreatMarker.Cli.Invocation.ofWords words with
  | .ok i => ThreatMarker.Main.execute i
  | .error fault =>
      if fault.exitCode = 0 then IO.println fault.message
      else IO.eprintln ("error: " ++ fault.message)
      return fault.exitCode.toUInt32
