import ThreatMarker.Yaml.Event
/-
# Nodes

The document that the events of a stream describe, as a tree.  A stream that breaks off leaves a tree
that breaks off at the same place: `Node.broken` stands where the next node should have begun, and a
collection knows whether its end was seen.  A reader meets what is wrong in the order of the text.

An alias stands for the node that its anchor named last.  An alias inside the node that it names
would make the tree infinite, and aliases of aliases can make it too large; `Node.endless` stands for
a node of which no more is known than its kind.
-/

namespace ThreatMarker.Yaml

set_option autoImplicit false

/-- The nesting beyond which a document is not read. -/
def depthLimit : Nat := 128

/-- How many aliases may be followed for each event of a document. -/
def aliasLimit : Nat := 100

inductive Node where
  | nothing
  | broken
  | endless (isMapping : Bool)
  | alias (target : Node)
  | scalar (tag : Option (List Char)) (text : List Char) (style : ScalarStyle)
  | sequence (tag : Option (List Char)) (items : List Node) (whole : Bool)
  | mapping (tag : Option (List Char)) (entries : List (Node × Node)) (whole : Bool)
  deriving Repr, Inhabited

/-- A named node, and how many aliases are followed when all of it is read. -/
structure Anchored where
  name : List Char
  node : Node
  aliases : Nat
  deriving Repr

/-- The nodes that anchors name, the latest first. -/
abbrev Anchors := List Anchored

/-- A collection that is being read: its kind, its tag, its anchor, and the nodes in it so far, the
last one first. -/
structure OpenCollection where
  isMapping : Bool
  properties : Properties
  nodes : List Node := []
  aliases : Nat := 0
  deriving Repr

namespace OpenCollection

/-- Keys with their values; a key without a value has a broken one. -/
def pairs : List Node → List (Node × Node)
  | k :: v :: rest => (k, v) :: pairs rest
  | [k] => [(k, .broken)]
  | [] => []

def close (o : OpenCollection) (whole : Bool) : Node :=
  let nodes := o.nodes.reverse
  if o.isMapping then .mapping o.properties.tag (pairs nodes) whole
  else .sequence o.properties.tag nodes whole

end OpenCollection

/-- The state of reading a tree: open collections, innermost first; the nodes that are named; the
root, once it is complete; and how many aliases may be followed. -/
structure Builder where
  limit : Nat
  stack : List OpenCollection := []
  anchors : Anchors := []
  root : Option Node := none
  deriving Repr

namespace Builder

/-- Put a complete node in its place. -/
def add (b : Builder) (node : Node) (aliases : Nat) : Builder :=
  match b.stack with
  | o :: rest =>
      { b with stack := { o with nodes := node :: o.nodes, aliases := o.aliases + aliases } :: rest }
  | [] => { b with root := b.root.or (some node) }

/-- Let an anchor name a node. -/
def name (b : Builder) (anchor : Option (List Char)) (node : Node) : Builder :=
  match anchor with
  | some a => { b with anchors := ⟨a, node, 0⟩ :: b.anchors }
  | none => b

def enter (b : Builder) (isMapping : Bool) (p : Properties) : Builder :=
  { b.name p.anchor (.endless isMapping) with
    stack := { isMapping, properties := p } :: b.stack }

/-- Replace what the anchor of a collection named while it was open. -/
def settle (anchor : Option (List Char)) (node : Node) (aliases : Nat) (anchors : Anchors) :
    Anchors :=
  match anchor with
  | none => anchors
  | some a =>
      match anchors.span (fun e => e.name != a) with
      | (newer, ⟨_, .endless _, _⟩ :: older) => newer ++ ⟨a, node, aliases⟩ :: older
      | _ => anchors

def leave (b : Builder) : Builder :=
  match b.stack with
  | o :: rest =>
      let node := if b.limit < o.aliases then .endless o.isMapping else o.close true
      let anchors := settle o.properties.anchor node o.aliases b.anchors
      { b with stack := rest, anchors := anchors }.add node o.aliases
  | [] => b

/-- The tree of a document that breaks off here. -/
def breakOff (b : Builder) : Node :=
  match b.root with
  | some node => node
  | none =>
      match b.stack with
      | [] => .broken
      | inner :: outer =>
          outer.foldl (fun node o => { o with nodes := node :: o.nodes }.close false)
            (inner.close false)

/-- Read one event; `none` where an alias has no anchor. -/
def step (b : Builder) : Event → Option Builder
  | .alias a =>
      match b.anchors.find? (fun e => e.name == a) with
      | some e => some (b.add (.alias e.node) (e.aliases + 1))
      | none => none
  | .scalar p text style =>
      let node := Node.scalar p.tag text style
      some ((b.name p.anchor node).add node 0)
  | .sequenceStart p => some (b.enter false p)
  | .mappingStart p => some (b.enter true p)
  | .sequenceEnd => some b.leave
  | .mappingEnd => some b.leave
  | _ => some b

end Builder

/-- The first document of a stream and whether the stream ends well after it. -/
structure Document where
  root : Node
  sound : Bool
  deriving Repr

namespace Document

/-- Read the events of the first document. -/
def build : Builder → List Event → Document
  | b, [] => ⟨b.breakOff, false⟩
  | b, .documentEnd :: rest => ⟨b.root.getD .nothing, rest == [.streamEnd]⟩
  | _, .streamEnd :: _ => ⟨.nothing, true⟩
  | b, e :: rest =>
      match b.step e with
      | some b => build b rest
      | none => ⟨b.breakOff, false⟩

def ofText (text : List Char) : Document :=
  let (events, _) := Event.ofText text
  build { limit := aliasLimit * events.length } events

end Document

end ThreatMarker.Yaml
