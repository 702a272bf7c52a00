import ThreatMarker.Yaml.Token
/-
# Events

A YAML stream as a sequence of events: documents, collections, scalars and aliases.  The grammar is a
machine with one state for each place in a collection and a stack of the states to return to.

`Event.ofText` gives the events before the first fault together with that fault, because a reader may
find something else wrong in the events before the fault is met.
-/

namespace ThreatMarker.Yaml

set_option autoImplicit false

/-- The properties that may stand before a node. -/
structure Properties where
  anchor : Option (List Char) := none
  tag : Option (List Char) := none
  deriving Repr, DecidableEq

inductive Event where
  | streamStart
  | streamEnd
  | documentStart
  | documentEnd
  | alias (name : List Char)
  | scalar (properties : Properties) (text : List Char) (style : ScalarStyle)
  | sequenceStart (properties : Properties)
  | sequenceEnd
  | mappingStart (properties : Properties)
  | mappingEnd
  deriving Repr, DecidableEq

/-- A place in the grammar. -/
inductive Place where
  | streamStart
  | implicitDocumentStart
  | documentStart
  | documentContent
  | documentEnd
  | blockNode
  | blockSequenceFirst
  | blockSequenceNext
  | indentlessSequence
  | blockMappingFirst
  | blockMappingKey
  | blockMappingValue
  | flowSequenceFirst
  | flowSequenceNext
  | flowPairKey
  | flowPairValue
  | flowPairEnd
  | flowMappingFirst
  | flowMappingNext
  | flowMappingValue
  | flowMappingNoValue
  | finished
  deriving Repr, DecidableEq

/-- The machine: where the tokens come from, the place in the grammar, the places to return to, and
the tag handles of the document. -/
structure Grammar where
  scanner : Scanner
  place : Place := .streamStart
  stack : List Place := []
  handles : List (List Char × List Char) := []
  deriving Repr, DecidableEq

/-- The handles that every document has. -/
def defaultHandles : List (List Char × List Char) :=
  [(['!'], ['!']), (['!', '!'], "tag:yaml.org,2002:".toList)]

namespace Grammar

/-- The next token. -/
def token (g : Grammar) : Except Fault (Token × Grammar) :=
  match g.scanner.peek? with
  | .ok (t, s) => .ok (t, { g with scanner := s })
  | .error e => .error e

/-- Take the next token. -/
def advance (g : Grammar) : Grammar := { g with scanner := g.scanner.drop }

/-- Return to the place on top of the stack. -/
def pop (g : Grammar) : Grammar :=
  match g.stack with
  | p :: rest => { g with place := p, stack := rest }
  | [] => { g with place := .finished }

def goto (g : Grammar) (p : Place) : Grammar := { g with place := p }

/-- Return to a place after the next node. -/
def returningTo (g : Grammar) (p : Place) : Grammar := { g with stack := p :: g.stack }

/-- The node that was left out. -/
def emptyScalar : Event := .scalar {} [] .plain

/-- Leave out a node and go on at a place. -/
def skipNode (g : Grammar) (p : Place) : Except Fault (Event × Grammar) :=
  .ok (emptyScalar, g.goto p)

/-! ## Documents -/

/-- The directives before a document. -/
def readDirectives :
    Nat → Bool → List (List Char × List Char) → Grammar →
      Except Fault (List (List Char × List Char) × Grammar)
  | 0, _, _, _ => .error .unfinished
  | fuel + 1, versioned, handles, g =>
      match g.token with
      | .error e => .error e
      | .ok (.directive (.version major minor), g) =>
          if versioned || major != 1 || !(minor == 1 || minor == 2) then .error .directive
          else readDirectives fuel true handles g.advance
      | .ok (.directive (.tag handle tagPrefix), g) =>
          if handles.any (fun h => h.1 == handle) then .error .directive
          else readDirectives fuel versioned (handles ++ [(handle, tagPrefix)]) g.advance
      | .ok (_, g) => .ok (handles, g)

/-- The directives before a document, with the handles that they leave as they are. -/
def takeDirectives (g : Grammar) : Except Fault Grammar := do
  let (handles, g) ← readDirectives (g.scanner.cursor.remaining + 4) false [] g
  let rest := defaultHandles.filter (fun h => !handles.any (fun k => k.1 == h.1))
  .ok { g with handles := handles ++ rest }

/-- Step over the markers that end the document before. -/
def skipDocumentEnds : Nat → Grammar → Except Fault Grammar
  | 0, _ => .error .unfinished
  | fuel + 1, g =>
      match g.token with
      | .error e => .error e
      | .ok (.documentEnd, g) => skipDocumentEnds fuel g.advance
      | .ok (_, g) => .ok g

def documentStart (g : Grammar) (implicit : Bool) : Except Fault (Event × Grammar) := do
  let g ← if implicit then .ok g else skipDocumentEnds (g.scanner.cursor.remaining + 4) g
  let explicitStart := fun (g : Grammar) => do
    let g ← g.takeDirectives
    match ← g.token with
    | (.documentStart, g) =>
        .ok (Event.documentStart, (g.advance.returningTo .documentEnd).goto .documentContent)
    | _ => .error Fault.documentStartExpected
  match ← g.token with
  | (.streamEnd, g) => .ok (.streamEnd, g.advance.goto .finished)
  | (.directive _, g) => explicitStart g
  | (.documentStart, g) => explicitStart g
  | (_, g) =>
      if implicit then do
        let g ← g.takeDirectives
        .ok (.documentStart, (g.returningTo .documentEnd).goto .blockNode)
      else explicitStart g

def documentEnd (g : Grammar) : Except Fault (Event × Grammar) := do
  match ← g.token with
  | (.documentEnd, g) => .ok (.documentEnd, g.advance.goto .documentStart)
  | (_, g) => .ok (.documentEnd, g.goto .documentStart)

/-! ## Nodes -/

/-- The tag that a handle and a suffix stand for. -/
def resolveTag (g : Grammar) (handle suffix : List Char) : Except Fault (List Char) :=
  if handle.isEmpty then .ok suffix
  else
    match g.handles.find? (fun h => h.1 == handle) with
    | some h => .ok (h.2 ++ suffix)
    | none => .error .undefinedHandle

/-- The anchor and the tag before a node, in either order. -/
def properties (g : Grammar) :
    Except Fault (Option (List Char) × Option (List Char × List Char) × Grammar) := do
  match ← g.token with
  | (.anchor name, g) =>
      match ← g.advance.token with
      | (.tag handle suffix, g) => .ok (some name, some (handle, suffix), g.advance)
      | (_, g) => .ok (some name, none, g)
  | (.tag handle suffix, g) =>
      match ← g.advance.token with
      | (.anchor name, g) => .ok (some name, some (handle, suffix), g.advance)
      | (_, g) => .ok (none, some (handle, suffix), g)
  | (_, g) => .ok (none, none, g)

/-- The beginning of a node.  Blocks may begin only where `block` allows it, and a sequence that is
not indented deeper than its key only where `indentless` does. -/
def node (g : Grammar) (block indentless : Bool) : Except Fault (Event × Grammar) := do
  match ← g.token with
  | (.alias name, g) => .ok (.alias name, g.advance.pop)
  | (_, g) =>
      let (anchor, tagParts, g) ← g.properties
      let tag ← match tagParts with
        | some (handle, suffix) => do .ok (some (← g.resolveTag handle suffix))
        | none => .ok none
      let p : Properties := { anchor, tag }
      let blockOnly := fun (e : Except Fault (Event × Grammar)) => if block then e else
        if anchor.isSome || tag.isSome then .ok (.scalar p [] .plain, g.pop)
        else .error Fault.nodeExpected
      match ← g.token with
      | (.blockEntry, g) =>
          if indentless then .ok (.sequenceStart p, g.goto .indentlessSequence)
          else if anchor.isSome || tag.isSome then .ok (.scalar p [] .plain, g.pop)
          else .error .nodeExpected
      | (.scalar text style, g) =>
          let tag := if tag == some ['!'] then none else tag
          .ok (.scalar { p with tag } text style, g.advance.pop)
      | (.flowSequenceStart, g) => .ok (.sequenceStart p, g.goto .flowSequenceFirst)
      | (.flowMappingStart, g) => .ok (.mappingStart p, g.goto .flowMappingFirst)
      | (.blockSequenceStart, g) =>
          blockOnly (.ok (.sequenceStart p, g.goto .blockSequenceFirst))
      | (.blockMappingStart, g) => blockOnly (.ok (.mappingStart p, g.goto .blockMappingFirst))
      | (_, g) =>
          if anchor.isSome || tag.isSome then .ok (.scalar p [] .plain, g.pop)
          else .error .nodeExpected

/-! ## Block collections -/

def blockSequence (g : Grammar) : Except Fault (Event × Grammar) := do
  match ← g.token with
  | (.blockEntry, g) =>
      match ← g.advance.token with
      | (.blockEntry, g) => g.skipNode .blockSequenceNext
      | (.blockEnd, g) => g.skipNode .blockSequenceNext
      | (_, g) => (g.returningTo .blockSequenceNext).node true false
  | (.blockEnd, g) => .ok (.sequenceEnd, g.advance.pop)
  | _ => .error .entryExpected

def indentlessSequence (g : Grammar) : Except Fault (Event × Grammar) := do
  match ← g.token with
  | (.blockEntry, g) =>
      match ← g.advance.token with
      | (.blockEntry, g) => g.skipNode .indentlessSequence
      | (.key, g) => g.skipNode .indentlessSequence
      | (.value, g) => g.skipNode .indentlessSequence
      | (.blockEnd, g) => g.skipNode .indentlessSequence
      | (_, g) => (g.returningTo .indentlessSequence).node true false
  | (_, g) => .ok (.sequenceEnd, g.pop)

/-- The node after a key or a value mark in a block mapping; `next` is where to go on. -/
def blockMappingNode (g : Grammar) (next : Place) : Except Fault (Event × Grammar) := do
  match ← g.token with
  | (.key, g) => g.skipNode next
  | (.value, g) => g.skipNode next
  | (.blockEnd, g) => g.skipNode next
  | (_, g) => (g.returningTo next).node true true

def blockMappingKey (g : Grammar) : Except Fault (Event × Grammar) := do
  match ← g.token with
  | (.key, g) => g.advance.blockMappingNode .blockMappingValue
  | (.blockEnd, g) => .ok (.mappingEnd, g.advance.pop)
  | _ => .error .keyExpected

def blockMappingValue (g : Grammar) : Except Fault (Event × Grammar) := do
  match ← g.token with
  | (.value, g) => g.advance.blockMappingNode .blockMappingKey
  | (_, g) => g.skipNode .blockMappingKey

/-! ## Flow collections -/

/-- The entry of a flow sequence after its comma. -/
def flowSequenceEntry (g : Grammar) : Except Fault (Event × Grammar) := do
  match ← g.token with
  | (.flowSequenceEnd, g) => .ok (.sequenceEnd, g.advance.pop)
  | (.key, g) => .ok (.mappingStart {}, g.advance.goto .flowPairKey)
  | (_, g) => (g.returningTo .flowSequenceNext).node false false

def flowSequence (g : Grammar) (first : Bool) : Except Fault (Event × Grammar) := do
  match ← g.token with
  | (.flowSequenceEnd, g) => .ok (.sequenceEnd, g.advance.pop)
  | (t, g) =>
      if first then g.flowSequenceEntry
      else if t == .flowEntry then g.advance.flowSequenceEntry
      else .error .commaExpected

def flowPairKey (g : Grammar) : Except Fault (Event × Grammar) := do
  match ← g.token with
  | (.value, g) => g.advance.skipNode .flowPairValue
  | (.flowEntry, g) => g.advance.skipNode .flowPairValue
  | (.flowSequenceEnd, g) => g.advance.skipNode .flowPairValue
  | (_, g) => (g.returningTo .flowPairValue).node false false

def flowPairValue (g : Grammar) : Except Fault (Event × Grammar) := do
  match ← g.token with
  | (.value, g) =>
      match ← g.advance.token with
      | (.flowEntry, g) => g.skipNode .flowPairEnd
      | (.flowSequenceEnd, g) => g.skipNode .flowPairEnd
      | (_, g) => (g.returningTo .flowPairEnd).node false false
  | (_, g) => g.skipNode .flowPairEnd

def flowPairEnd (g : Grammar) : Except Fault (Event × Grammar) := do
  let (_, g) ← g.token
  .ok (.mappingEnd, g.goto .flowSequenceNext)

/-- The entry of a flow mapping after its comma. -/
def flowMappingEntry (g : Grammar) : Except Fault (Event × Grammar) := do
  match ← g.token with
  | (.flowMappingEnd, g) => .ok (.mappingEnd, g.advance.pop)
  | (.key, g) =>
      match ← g.advance.token with
      | (.value, g) => g.skipNode .flowMappingValue
      | (.flowEntry, g) => g.skipNode .flowMappingValue
      | (.flowMappingEnd, g) => g.skipNode .flowMappingValue
      | (_, g) => (g.returningTo .flowMappingValue).node false false
  | (_, g) => (g.returningTo .flowMappingNoValue).node false false

def flowMapping (g : Grammar) (first : Bool) : Except Fault (Event × Grammar) := do
  match ← g.token with
  | (.flowMappingEnd, g) => .ok (.mappingEnd, g.advance.pop)
  | (t, g) =>
      if first then g.flowMappingEntry
      else if t == .flowEntry then g.advance.flowMappingEntry
      else .error .commaExpected

def flowMappingValue (g : Grammar) : Except Fault (Event × Grammar) := do
  match ← g.token with
  | (.value, g) =>
      match ← g.advance.token with
      | (.flowEntry, g) => g.skipNode .flowMappingNext
      | (.flowMappingEnd, g) => g.skipNode .flowMappingNext
      | (_, g) => (g.returningTo .flowMappingNext).node false false
  | (_, g) => g.skipNode .flowMappingNext

def flowMappingNoValue (g : Grammar) : Except Fault (Event × Grammar) := do
  let (_, g) ← g.token
  g.skipNode .flowMappingNext

/-! ## The stream -/

/-- The next event. -/
def next (g : Grammar) : Except Fault (Event × Grammar) :=
  match g.place with
  | .streamStart => do
      let (_, g) ← g.token
      .ok (.streamStart, g.advance.goto .implicitDocumentStart)
  | .implicitDocumentStart => g.documentStart true
  | .documentStart => g.documentStart false
  | .documentContent => do
      match ← g.token with
      | (.directive _, g) => .ok (emptyScalar, g.pop)
      | (.documentStart, g) => .ok (emptyScalar, g.pop)
      | (.documentEnd, g) => .ok (emptyScalar, g.pop)
      | (.streamEnd, g) => .ok (emptyScalar, g.pop)
      | (_, g) => g.node true false
  | .documentEnd => g.documentEnd
  | .blockNode => g.node true false
  | .blockSequenceFirst => do
      let (_, g) ← g.token
      g.advance.blockSequence
  | .blockSequenceNext => g.blockSequence
  | .indentlessSequence => g.indentlessSequence
  | .blockMappingFirst => do
      let (_, g) ← g.token
      g.advance.blockMappingKey
  | .blockMappingKey => g.blockMappingKey
  | .blockMappingValue => g.blockMappingValue
  | .flowSequenceFirst => do
      let (_, g) ← g.token
      g.advance.flowSequence true
  | .flowSequenceNext => g.flowSequence false
  | .flowPairKey => g.flowPairKey
  | .flowPairValue => g.flowPairValue
  | .flowPairEnd => g.flowPairEnd
  | .flowMappingFirst => do
      let (_, g) ← g.token
      g.advance.flowMapping true
  | .flowMappingNext => g.flowMapping false
  | .flowMappingValue => g.flowMappingValue
  | .flowMappingNoValue => g.flowMappingNoValue
  | .finished => .ok (.streamEnd, g)

/-- The events up to the end of the stream or the first fault, the last one first in `acc`. -/
def run : Nat → List Event → Grammar → List Event × Option Fault
  | 0, acc, _ => (acc.reverse, some .unfinished)
  | fuel + 1, acc, g =>
      match g.next with
      | .error e => (acc.reverse, some e)
      | .ok (.streamEnd, _) => ((Event.streamEnd :: acc).reverse, none)
      | .ok (e, g) => run fuel (e :: acc) g

end Grammar

/-- The events of a text before its first fault, and that fault. -/
def Event.ofText (text : List Char) : List Event × Option Fault :=
  Grammar.run (8 * text.length + 32) [] { scanner := .ofText text }

end ThreatMarker.Yaml
