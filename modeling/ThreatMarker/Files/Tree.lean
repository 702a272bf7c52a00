import ThreatMarker.Files.Path
import Std.Data.HashMap
/-
# File trees

The files that a run can see, as a value: a map from places to what is there.  Relative paths begin
in the working directory, of whose surroundings only two devices are known: one that takes everything
and one that has no room.

A path is followed name by name, and everything before its last name has to be a directory.
-/

namespace ThreatMarker.Files

set_option autoImplicit false

/-- Why the system refuses an operation. -/
inductive Fault where
  | noEntry
  | notDirectory
  | isDirectory
  | alreadyExists
  | nameTooLong
  | noSpace
  | zeroInName
  | notUtf8
  deriving Repr, DecidableEq

def Fault.message : Fault → String
  | .noEntry => "No such file or directory (os error 2)"
  | .notDirectory => "Not a directory (os error 20)"
  | .isDirectory => "Is a directory (os error 21)"
  | .alreadyExists => "File exists (os error 17)"
  | .nameTooLong => "File name too long (os error 36)"
  | .noSpace => "No space left on device (os error 28)"
  | .zeroInName => "file name contained an unexpected NUL byte"
  | .notUtf8 => "stream did not contain valid UTF-8"

/-- What can be at a place. -/
inductive Node where
  | directory
  | file (content : ByteArray)
  | device (full : Bool)
  deriving Inhabited

def Node.isDirectory : Node → Bool
  | .directory => true
  | _ => false

def Node.isFile : Node → Bool
  | .file _ => true
  | _ => false

/-- A place: names below the working directory or below the root, the last one first. -/
structure Place where
  absolute : Bool
  names : List String
  deriving Repr, DecidableEq

namespace Place

def workingDirectory : Place := ⟨false, []⟩

/-- The text by which a place is found: names after a slash each. -/
def key (p : Place) : String :=
  p.names.foldr (fun name text => text ++ "/" ++ name) (if p.absolute then "" else ".")

def child (p : Place) (name : String) : Place := { p with names := name :: p.names }

/-- The directory above.  The surroundings of the working directory are not known. -/
def above (p : Place) : Place :=
  match p.names with
  | _ :: rest => { p with names := rest }
  | [] => ⟨true, []⟩

end Place

/-- Files and directories by the keys of their places. -/
structure FileTree where
  nodes : Std.HashMap String Node

/-- The limit on the bytes of a name. -/
def maxNameLength : Nat := 255

/-- The limit on the bytes of a path, which includes a mark for its end. -/
def maxPathLength : Nat := 4096

namespace FileTree

/-- A tree with an empty working directory. -/
def empty : FileTree :=
  ⟨Std.HashMap.ofList [
    (Place.key ⟨false, []⟩, .directory),
    (Place.key ⟨true, []⟩, .directory),
    (Place.key ⟨true, ["dev"]⟩, .directory),
    (Place.key ⟨true, ["null", "dev"]⟩, .device false),
    (Place.key ⟨true, ["full", "dev"]⟩, .device true)]⟩

/-- What is at a place. -/
def node? (t : FileTree) (p : Place) : Option Node := t.nodes[p.key]?

def put (t : FileTree) (p : Place) (n : Node) : FileTree := ⟨t.nodes.insert p.key n⟩

theorem node?_empty : empty.node? .workingDirectory = some .directory := by
  simp only [empty, node?, Std.HashMap.ofList_cons, Std.HashMap.insertMany_cons,
    Std.HashMap.insertMany_nil, Std.HashMap.getElem?_insert]
  rfl

theorem node?_put (t : FileTree) (p q : Place) (n : Node) :
    (t.put p n).node? q = if p.key = q.key then some n else t.node? q := by
  simp [node?, put, Std.HashMap.getElem?_insert]

/-! ## Following paths -/

/-- Take a step from a place that has to be a directory. -/
def step (t : FileTree) (p : Place) (name : String) : Except Fault Place :=
  match t.node? p with
  | none => .error .noEntry
  | some n =>
      if !n.isDirectory then .error .notDirectory
      else if name = "." then .ok p
      else if name = ".." then .ok p.above
      else if maxNameLength < name.utf8ByteSize then .error .nameTooLong
      else .ok (p.child name)

/-- Take steps one after the other. -/
def walk (t : FileTree) : Place → List String → Except Fault Place
  | p, [] => .ok p
  | p, name :: rest =>
      match t.step p name with
      | .error e => .error e
      | .ok p => walk t p rest

/-- The place that a path leads to.  Nothing has to be there. -/
def locate (t : FileTree) (path : String) : Except Fault Place :=
  if path.toList.contains '\x00' then .error .zeroInName
  else if path = "" then .error .noEntry
  else if maxPathLength ≤ path.utf8ByteSize then .error .nameTooLong
  else
    let start : Place := if path.toList.head? = some '/' then ⟨true, []⟩ else .workingDirectory
    t.walk start ((Path.pieces path).filter (· ≠ ""))

/-- Whether a path says that it leads to a directory. -/
def asksForDirectory (path : String) : Bool := path.toList.getLast? == some '/'

/-- What a path leads to. -/
def lookup (t : FileTree) (path : String) : Except Fault (Place × Node) :=
  match t.locate path with
  | .error e => .error e
  | .ok p =>
      match t.node? p with
      | none => .error .noEntry
      | some n =>
          if asksForDirectory path && !n.isDirectory then .error .notDirectory else .ok (p, n)

def isDirectory (t : FileTree) (path : String) : Bool :=
  match t.lookup path with
  | .ok (_, n) => n.isDirectory
  | .error _ => false

/-! ## Reading -/

/-- The size that a directory shows. -/
def directorySize : Nat := 4096

/-- The size of what a path leads to. -/
def size (t : FileTree) (path : String) : Except Fault Nat :=
  (t.lookup path).map fun (_, n) =>
    match n with
    | .directory => directorySize
    | .file content => content.size
    | .device _ => 0

/-- Open a file.  A directory can be opened, but not read. -/
def openFile (t : FileTree) (path : String) : Except Fault Node := (t.lookup path).map (·.2)

/-- The content of an open file. -/
def contentOf : Node → Except Fault ByteArray
  | .directory => .error .isDirectory
  | .file content => .ok content
  | .device _ => .ok .empty

/-- The content of a file. -/
def read (t : FileTree) (path : String) : Except Fault ByteArray :=
  match t.openFile path with
  | .error e => .error e
  | .ok n => contentOf n

/-- The content of a file that is a text. -/
def readText (t : FileTree) (path : String) : Except Fault String :=
  match t.read path with
  | .error e => .error e
  | .ok content =>
      match String.fromUTF8? content with
      | some text => .ok text
      | none => .error .notUtf8

/-- Whether a text is the name of something in a directory: a single name that does not stand for the
directory itself or the one above. -/
def isEntryName (name : List Char) : Bool :=
  !name.isEmpty && !name.contains '/' && name != ['.'] && name != ['.', '.']

/-- The name of a key inside a directory, unless the key is of another place. -/
def nameIn? (directory key : String) : Option String :=
  match (directory ++ "/").toList.isPrefixOf? key.toList with
  | some name => if isEntryName name then some (String.ofList name) else none
  | none => none

/-- What is in a directory by name, in no order that could be relied on. -/
def entries (t : FileTree) (path : String) : Except Fault (List (String × Node)) :=
  match t.lookup path with
  | .error e => .error e
  | .ok (p, n) =>
      if !n.isDirectory then .error .notDirectory
      else
        let names := t.nodes.keys.filterMap (nameIn? p.key)
        .ok (names.filterMap fun name => (t.node? (p.child name)).map (fun n => (name, n)))

/-- Entries in the ascending order of their names. -/
def inOrder (entries : List (String × Node)) : List (String × Node) :=
  entries.mergeSort (fun a b => a.1 ≤ b.1)

/-- What is in a directory by name, in ascending order. -/
def list (t : FileTree) (path : String) : Except Fault (List (String × Node)) :=
  (t.entries path).map inOrder

/-! ## Writing -/

/-- Make a directory where nothing is. -/
def makeDirectory (t : FileTree) (path : String) : Except Fault FileTree :=
  match t.locate path with
  | .error e => .error e
  | .ok p =>
      match t.node? p with
      | some _ => .error .alreadyExists
      | none => .ok (t.put p .directory)

/-- Make a directory and those above it that are missing.  Those that were made before a fault
stay. -/
def makeDirectories (t : FileTree) : Nat → String → Except Fault Unit × FileTree
  | 0, _ => (.error .noEntry, t)
  | fuel + 1, path =>
      if path = "" then (.ok (), t)
      else
        match t.makeDirectory path with
        | .ok t => (.ok (), t)
        | .error .noEntry =>
            match Path.parent? path with
            | none => (.error .noEntry, t)
            | some parent =>
                match makeDirectories t fuel parent with
                | (.error e, t) => (.error e, t)
                | (.ok (), t) =>
                    match t.makeDirectory path with
                    | .ok t => (.ok (), t)
                    | .error e => if t.isDirectory path then (.ok (), t) else (.error e, t)
        | .error e => if t.isDirectory path then (.ok (), t) else (.error e, t)

/-- Make a directory with all that it is in. -/
def ensureDirectory (t : FileTree) (path : String) : Except Fault Unit × FileTree :=
  t.makeDirectories (path.length + 1) path

/-- The place of a file that is to be made. -/
def placeOfFile (t : FileTree) (path : String) : Except Fault Place :=
  match t.locate path with
  | .error e => .error e
  | .ok p => if asksForDirectory path then .error .isDirectory else .ok p

/-- Make an empty file, or empty the one that is there. -/
def create (t : FileTree) (path : String) : Except Fault (Place × FileTree) :=
  match t.placeOfFile path with
  | .error e => .error e
  | .ok p =>
      match t.node? p with
      | some .directory => .error .isDirectory
      | some (.device _) => .ok (p, t)
      | _ => .ok (p, t.put p (.file .empty))

/-- Make an empty file where nothing is. -/
def createNew (t : FileTree) (path : String) : Except Fault (Place × FileTree) :=
  match t.placeOfFile path with
  | .error e => .error e
  | .ok p =>
      match t.node? p with
      | some _ => .error .alreadyExists
      | none => .ok (p, t.put p (.file .empty))

/-- Fill a file that was made. -/
def write (t : FileTree) (p : Place) (content : ByteArray) : Except Fault FileTree :=
  match t.node? p with
  | some (.device true) => if content.size = 0 then .ok t else .error .noSpace
  | some (.device false) => .ok t
  | _ => .ok (t.put p (.file content))

end FileTree

end ThreatMarker.Files
