import ThreatMarker.Text.Cut
/-
# Paths

A path is a text whose names are separated by slashes.  Repeated slashes, a slash at the end and
names that are a single point count for nothing, except for a point at the very front.
-/

namespace ThreatMarker.Files

set_option autoImplicit false

/-- A part of a path. -/
inductive Part where
  | root
  | here
  | up
  | name (text : String)
  deriving Repr, DecidableEq

namespace Path

/-- The names between the slashes of a path. -/
def pieces (path : String) : List String := (Text.cutAt '/' path.toList).map String.ofList

/-- The part that a piece stands for, unless it counts for nothing. -/
def part? (first : Bool) (piece : String) : Option Part :=
  if piece = "" then none
  else if piece = "." then (if first then some .here else none)
  else if piece = ".." then some .up
  else some (.name piece)

/-- The parts of a path. -/
def parts (path : String) : List Part :=
  match pieces path with
  | "" :: rest => (if rest.isEmpty then [] else [.root]) ++ rest.filterMap (part? false)
  | first :: rest => (part? true first).toList ++ rest.filterMap (part? false)
  | [] => []

/-- A path from a directory on; a path from the root stays what it is. -/
def join (dir name : String) : String :=
  if dir = "" || name.toList.head? = some '/' then name
  else if dir.toList.getLast? = some '/' then dir ++ name
  else dir ++ "/" ++ name

def partText : Part → String
  | .root => ""
  | .here => "."
  | .up => ".."
  | .name text => text

/-- The path that parts make. -/
def ofParts : List Part → String
  | [.root] => "/"
  | ps => String.intercalate "/" (ps.map partText)

/-- The path without its last part; the root and the empty path have none. -/
def parent? (path : String) : Option String :=
  match (parts path).reverse with
  | [] => none
  | .root :: _ => none
  | _ :: rest => some (ofParts rest.reverse)

/-- What stands after the last point of a name, unless the point is at the front. -/
def extension? (name : String) : Option String :=
  let after := (name.toList.reverse.takeWhile (· != '.')).reverse
  let before := name.toList.length - after.length
  if before ≤ 1 then none else some (String.ofList after)

/-- Whether a text can begin the name of a file: it is a single name without separators of any
system. -/
def isPlainName (text : String) : Bool :=
  match parts text with
  | [.name _] => !text.toList.contains '/' && !text.toList.contains '\\'
  | _ => false

end Path

end ThreatMarker.Files
