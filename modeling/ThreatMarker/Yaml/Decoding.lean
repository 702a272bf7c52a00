import ThreatMarker.Yaml.Atom
import ThreatMarker.Decode.Format
/-
# Decoding a YAML document

A string is the text of a scalar of any kind.  An empty plain scalar may stand for an empty list or
structure.  A choice is a scalar, or a tag of the document's own making before nothing.  A document
that breaks off is read as far as it goes, because a value before the break may be wrong.
-/

namespace ThreatMarker.Yaml

set_option autoImplicit false

open Decode (Cause Step Content Fields Entry Choice Format)

namespace Node

/-- The node that an alias stands for. -/
def resolved : Node → Node
  | .alias target => target.resolved
  | node => node

/-- Why a node is not what is expected. -/
def refusal (node : Node) (expected : String) : Cause :=
  match node.resolved with
  | .scalar tag text style =>
      match Atom.ofScalar tag text style with
      | .ok atom => .invalidType atom.describe expected
      | .error cause => cause
  | .sequence _ _ _ => .invalidType "sequence" expected
  | .mapping _ _ _ => .invalidType "map" expected
  | .endless isMapping => .invalidType (if isMapping then "map" else "sequence") expected
  | _ => .malformed

def readString (node : Node) (expected : String) : Except Cause String :=
  match node.resolved with
  | .scalar _ text _ => .ok (String.ofList text)
  | other => .error (other.refusal expected)

/-- Whether a scalar may be read as a whole number: it is plain, or a block with the tag of whole
numbers. -/
def mayBeInteger (tag : Option (List Char)) (style : ScalarStyle) : Bool :=
  style == .plain || (style == .literal && tag == some (Atom.basicTag "int"))

def readNatural (kind : String) (limit : Nat) (node : Node) : Except Cause Nat :=
  match node.resolved with
  | .scalar tag text style =>
      let read := if mayBeInteger tag style then readUnsigned? text else none
      match read.filter (· < Nat.pow 2 64) with
      | some n =>
          if n ≤ limit then .ok n
          else .error (.invalidValue (Atom.describe (.integer n)) kind)
      | none => .error (node.refusal kind)
  | other => .error (other.refusal kind)

/-- What is wrong with the value after a tag that is a choice: it has to be nothing. -/
def payloadFault (node : Node) : Option Cause :=
  match node.resolved with
  | .scalar _ text _ =>
      if text.isEmpty || readNull? text then none
      else some (.invalidValue (Atom.quotedText text) "null")
  | other => some (other.refusal "unit")

/-- The name of a tag of the document's own making. -/
def localName? (tag : Option (List Char)) : Option String :=
  match tag with
  | some ('!' :: name) => some (String.ofList name)
  | _ => none

def readChoice (node : Node) : Except Cause Choice :=
  let expected := "a YAML tag starting with '!'"
  match node.resolved with
  | .scalar tag text _ =>
      match localName? tag with
      | some name => .ok ⟨name, node.payloadFault⟩
      | none => .ok ⟨String.ofList text, none⟩
  | .sequence tag items whole =>
      match localName? tag with
      | some name => .ok ⟨name, (Node.sequence tag items whole).payloadFault⟩
      | none => .error (node.refusal expected)
  | .mapping tag entries whole =>
      match localName? tag with
      | some name => .ok ⟨name, (Node.mapping tag entries whole).payloadFault⟩
      | none => .error (node.refusal expected)
  | other => .error (other.refusal expected)

/-- Whether a node may stand for an empty collection. -/
def isBlank (node : Node) : Bool :=
  match node.resolved with
  | .nothing => true
  | .scalar _ text style => text.isEmpty && style == .plain
  | _ => false

def readItems (node : Node) : Except Cause (List Node × Bool) :=
  if node.isBlank then .ok ([], true)
  else
    match node.resolved with
    | .sequence _ items whole => .ok (items, whole)
    | .endless false => .error .malformed
    | other => .error (other.refusal "a sequence")

/-- The step to the value of a key: it goes by the text of the key. -/
def step (key : Node) : Step :=
  match key with
  | .scalar _ text _ => .member (String.ofList text)
  | _ => .unnamed

/-- A key and its value. -/
def entry (key value : Node) : Entry Node :=
  { name := key.readString "field identifier", step := key.step, value }

def readFields (kind : String) (node : Node) : Except Cause (Fields Node) :=
  if node.isBlank then .ok (.named [] true)
  else
    match node.resolved with
    | .mapping _ entries whole => .ok (.named (entries.map (fun e => entry e.1 e.2)) whole)
    | .endless true => .error .malformed
    | other => .error (other.refusal kind)

/-- Whether all of a node was read. -/
def isWhole : Node → Bool
  | .nothing => true
  | .broken => false
  | .endless _ => true
  | .alias _ => true
  | .scalar _ _ _ => true
  | .sequence _ items whole => whole && allWhole items
  | .mapping _ entries whole => whole && allPairsWhole entries
where
  allWhole : List Node → Bool
    | [] => true
    | n :: rest => n.isWhole && allWhole rest
  allPairsWhole : List (Node × Node) → Bool
    | [] => true
    | (k, v) :: rest => k.isWhole && v.isWhole && allPairsWhole rest

/-- What a scalar without a declared shape is. -/
def atomContent : Atom → Except Cause Content
  | .null => .ok .other
  | .bool b => .ok (.bool b)
  | .integer n => .ok (.integer n)
  | .wide n => .error (.invalidType (Atom.describe (.wide n)) "any value")
  | .real x => .ok (.real x)
  | .text s => .ok (.text (String.ofList s))

mutual

/-- A node of any shape inside `depth` collections. -/
def readContent (depth : Nat) : Node → Except Decode.Fault Content
  | .nothing => .ok .other
  | .broken => .error { cause := .malformed }
  | .endless _ => .error { cause := .malformed }
  | .alias target => target.readContent depth
  | .scalar tag text style =>
      if Atom.isLocalTag tag then .error { cause := .malformed }
      else
        match Atom.ofScalar tag text style with
        | .ok atom => Format.here (atomContent atom)
        | .error cause => .error { cause }
  | .sequence tag items whole =>
      if Atom.isLocalTag tag || depthLimit ≤ depth then .error { cause := .malformed }
      else
        match itemsContent (depth + 1) 0 items with
        | .error fault => .error fault
        | .ok contents => if whole then .ok (.list contents) else .error { cause := .malformed }
  | .mapping tag entries whole =>
      if Atom.isLocalTag tag || depthLimit ≤ depth then .error { cause := .malformed }
      else
        match entriesContent (depth + 1) entries with
        | .error fault => .error fault
        | .ok () => if whole then .ok .other else .error { cause := .malformed }

/-- Items of any shape, counted from `index`. -/
def itemsContent (depth index : Nat) : List Node → Except Decode.Fault (List Content)
  | [] => .ok []
  | n :: rest =>
      match Format.inside (.item index) (n.readContent depth) with
      | .error fault => .error fault
      | .ok c =>
          match itemsContent depth (index + 1) rest with
          | .error fault => .error fault
          | .ok cs => .ok (c :: cs)

/-- Keys and values of any shape. -/
def entriesContent (depth : Nat) : List (Node × Node) → Except Decode.Fault Unit
  | [] => .ok ()
  | (k, v) :: rest =>
      match k.readContent depth with
      | .error fault => .error fault
      | .ok _ =>
          match Format.inside k.step (v.readContent depth) with
          | .error fault => .error fault
          | .ok _ => entriesContent depth rest

end

end Node

/-- How values are read from a YAML document. -/
def format : Format Node where
  string node := node.readString "a string"
  natural kind limit node := node.readNatural kind limit
  choice := Node.readChoice
  items := Node.readItems
  fields := Node.readFields
  content := Node.readContent
  skip node := if node.isWhole then .ok () else .error .malformed
  surplus _ := none

end ThreatMarker.Yaml
