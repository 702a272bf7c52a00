import ThreatMarker.Yaml.Scalar
import ThreatMarker.Yaml.Markup
/-
# Tokens

The tokens of a YAML text and the machine that finds them one after the other.

Whether a scalar is a key is known only when the colon after it is seen.  A token that may begin a
key on one line is therefore noted as a `KeyCandidate`, and the key token is inserted before it when
the colon comes.  Hence tokens wait in a queue: `Scanner.peek?` fetches until the first of them is
settled, and no further, so that everything before a fault can still be read.
-/

namespace ThreatMarker.Yaml

set_option autoImplicit false

inductive Token where
  | streamStart
  | streamEnd
  | directive (value : Directive)
  | documentStart
  | documentEnd
  | blockSequenceStart
  | blockMappingStart
  | blockEnd
  | flowSequenceStart
  | flowSequenceEnd
  | flowMappingStart
  | flowMappingEnd
  | blockEntry
  | flowEntry
  | key
  | value
  | alias (name : List Char)
  | anchor (name : List Char)
  | tag (handle suffix : List Char)
  | scalar (text : List Char) (style : ScalarStyle)
  deriving Repr, DecidableEq

/-- A token that may turn out to begin a key: its number in the stream, whether it must, and where
it stands. -/
structure KeyCandidate where
  number : Nat
  required : Bool
  place : Cursor
  deriving Repr, DecidableEq

/-- The machine: the text ahead, the tokens found and not yet taken, how many were taken, the open
indentations, and the candidate of every open flow collection and of the block around them.  At the
top level there is no indentation. -/
structure Scanner where
  cursor : Cursor
  queue : List Token := []
  taken : Nat := 0
  indent : Option Nat := none
  outerIndents : List (Option Nat) := []
  keyAllowed : Bool := true
  candidate : Option KeyCandidate := none
  outerCandidates : List (Option KeyCandidate) := []
  started : Bool := false
  ended : Bool := false
  deriving Repr, DecidableEq

namespace Scanner

def ofText (text : List Char) : Scanner := { cursor := { rest := text } }

def inFlow (s : Scanner) : Bool := !s.outerCandidates.isEmpty

def push (s : Scanner) (t : Token) : Scanner := { s with queue := s.queue ++ [t] }

/-- Insert a token before the one with a number. -/
def insertAt (s : Scanner) (number : Nat) (t : Token) : Scanner :=
  { s with
    queue := s.queue.take (number - s.taken) ++ t :: s.queue.drop (number - s.taken) }

/-! ## Key candidates -/

/-- A key stands on one line and within 1024 characters. -/
def isStale (s : Scanner) (k : KeyCandidate) : Bool :=
  k.place.line < s.cursor.line || k.place.index + 1024 < s.cursor.index

/-- Drop a candidate that can be a key no more. -/
def refresh (s : Scanner) : Option KeyCandidate → Except Fault (Option KeyCandidate)
  | none => .ok none
  | some k =>
      if s.isStale k then if k.required then .error .keyUnfinished else .ok none
      else .ok (some k)

/-- Drop all candidates that can be keys no more. -/
def dropStale (s : Scanner) : Except Fault Scanner := do
  let outer ← s.outerCandidates.reverse.mapM s.refresh
  let inner ← s.refresh s.candidate
  .ok { s with candidate := inner, outerCandidates := outer.reverse }

/-- Drop the innermost candidate. -/
def dropCandidate (s : Scanner) : Except Fault Scanner :=
  if s.candidate.any (·.required) then .error .keyUnfinished else .ok { s with candidate := none }

/-- Note that the next token may begin a key. -/
def noteCandidate (s : Scanner) : Except Fault Scanner :=
  if s.keyAllowed then do
    let k : KeyCandidate :=
      { number := s.taken + s.queue.length
        required := !s.inFlow && s.indent == some s.cursor.column
        place := { s.cursor with rest := [] } }
    .ok { (← s.dropCandidate) with candidate := some k }
  else .ok s

/-! ## Indentation -/

/-- Open a block at a column, if it is indented deeper; `insert` puts the token in its place. -/
def openBlock (s : Scanner) (column : Nat) (t : Token) (insert : Scanner → Token → Scanner) :
    Scanner :=
  if !s.inFlow && s.indent.all (· < column) then
    insert { s with indent := some column, outerIndents := s.indent :: s.outerIndents } t
  else s

/-- Close the blocks that are indented deeper than a column; all of them for no column. -/
def closeBlocks (column : Option Nat) : List (Option Nat) → Scanner → Scanner
  | [], s => s
  | outer :: rest, s =>
      if s.indent.any (fun n => column.all (· < n)) then
        closeBlocks column rest { s.push .blockEnd with indent := outer, outerIndents := rest }
      else s

/-- Close the blocks that are indented deeper than a column. -/
def unindent (s : Scanner) (column : Option Nat) : Scanner :=
  if s.inFlow then s else closeBlocks column s.outerIndents s

/-! ## Between tokens -/

/-- Skip blanks, comments and line breaks.  In a block a tab does not indent, and a new line may
begin a key. -/
def skipGap : Nat → Scanner → Scanner
  | 0, s => s
  | fuel + 1, s =>
      let c := s.cursor
      let c := if c.index == 0 && c.isAt '\ufeff' then c.skip else c
      let c := c.skipWhile (fun x => x == ' ' || ((s.inFlow || !s.keyAllowed) && x == '\t'))
      let c := if c.isAt '#' then c.skipLine else c
      if c.atBreak then
        skipGap fuel { s with cursor := c.skipBreak, keyAllowed := s.keyAllowed || !s.inFlow }
      else { s with cursor := c }

/-! ## Single tokens -/

/-- A token of `width` characters that needs nothing else. -/
def emit (s : Scanner) (t : Token) (width : Nat := 1) : Scanner :=
  { s with cursor := s.cursor.skipMany width }.push t

/-- The end of the text closes every block. -/
def fetchEnd (s : Scanner) : Except Fault Scanner := do
  let c := s.cursor
  let c := if c.column == 0 then c else { c with column := 0, line := c.line + 1 }
  let s ← ({ s with cursor := c }.unindent none).dropCandidate
  .ok { s.push .streamEnd with keyAllowed := false, ended := true }

def fetchDirective (s : Scanner) : Except Fault Scanner := do
  let s ← (s.unindent none).dropCandidate
  let (d, c) ← readDirective s.cursor
  .ok ({ s with cursor := c, keyAllowed := false }.push (.directive d))

def fetchMarker (s : Scanner) (t : Token) : Except Fault Scanner := do
  let s ← (s.unindent none).dropCandidate
  .ok { s.emit t 3 with keyAllowed := false }

def fetchFlowStart (s : Scanner) (t : Token) : Except Fault Scanner := do
  let s ← s.noteCandidate
  .ok
    { s.emit t with
      keyAllowed := true
      candidate := none
      outerCandidates := s.candidate :: s.outerCandidates }

def fetchFlowEnd (s : Scanner) (t : Token) : Except Fault Scanner := do
  let s ← s.dropCandidate
  let s := match s.outerCandidates with
    | k :: rest => { s with candidate := k, outerCandidates := rest }
    | [] => s
  .ok { s.emit t with keyAllowed := false }

def fetchFlowEntry (s : Scanner) : Except Fault Scanner := do
  .ok { (← s.dropCandidate).emit .flowEntry with keyAllowed := true }

def fetchBlockEntry (s : Scanner) : Except Fault Scanner := do
  if !s.inFlow && !s.keyAllowed then .error .entryNotAllowed
  let s := s.openBlock s.cursor.column .blockSequenceStart push
  .ok { (← s.dropCandidate).emit .blockEntry with keyAllowed := true }

def fetchKey (s : Scanner) : Except Fault Scanner := do
  if !s.inFlow && !s.keyAllowed then .error .keyNotAllowed
  let s := s.openBlock s.cursor.column .blockMappingStart push
  .ok { (← s.dropCandidate).emit .key with keyAllowed := !s.inFlow }

def fetchValue (s : Scanner) : Except Fault Scanner :=
  match s.candidate with
  | some k =>
      let s := s.insertAt k.number .key
      let s := s.openBlock k.place.column .blockMappingStart (fun s t => s.insertAt k.number t)
      .ok { s.emit .value with candidate := none, keyAllowed := false }
  | none =>
      if !s.inFlow && !s.keyAllowed then .error .valueNotAllowed
      else
        let s := s.openBlock s.cursor.column .blockMappingStart push
        .ok { s.emit .value with keyAllowed := !s.inFlow }

def fetchAnchor (s : Scanner) (token : List Char → Token) : Except Fault Scanner := do
  let s ← s.noteCandidate
  let (name, c) ← readAnchor s.cursor
  .ok ({ s with cursor := c, keyAllowed := false }.push (token name))

def fetchTag (s : Scanner) : Except Fault Scanner := do
  let s ← s.noteCandidate
  let (handle, suffix, c) ← readTag s.inFlow s.cursor
  .ok ({ s with cursor := c, keyAllowed := false }.push (.tag handle suffix))

def fetchBlockScalar (s : Scanner) (folded : Bool) : Except Fault Scanner := do
  let s ← s.dropCandidate
  let (text, c) ← readBlock folded s.indent s.cursor
  let style := if folded then ScalarStyle.folded else .literal
  .ok ({ s with cursor := c, keyAllowed := true }.push (.scalar text style))

def fetchQuoted (s : Scanner) (single : Bool) : Except Fault Scanner := do
  let s ← s.noteCandidate
  let (text, c) ← readQuoted single s.cursor
  let style := if single then ScalarStyle.singleQuoted else .doubleQuoted
  .ok ({ s with cursor := c, keyAllowed := false }.push (.scalar text style))

def fetchPlain (s : Scanner) : Except Fault Scanner := do
  let s ← s.noteCandidate
  let indent := match s.indent with
    | some n => n + 1
    | none => 0
  let (text, broken, c) ← readPlain s.inFlow indent s.cursor
  .ok ({ s with cursor := c, keyAllowed := broken }.push (.scalar text .plain))

/-! ## The next token -/

/-- The characters that begin no plain scalar, or only before certain others. -/
def isIndicator (c : Char) : Bool := "-?:,[]\x7b\x7d#&*!|>'\"%@`".toList.contains c

/-- Whether a plain scalar begins at the cursor. -/
def beginsPlain (s : Scanner) : Bool :=
  match s.cursor.peek? with
  | none => false
  | some x =>
      !(isBlankChar x || isBreak x || isIndicator x)
        || (x == '-' && !(s.cursor.ahead? 1).any isBlankChar)
        || (!s.inFlow && (x == '?' || x == ':') && !s.cursor.gapAhead 1)

/-- Find the token that begins at the cursor. -/
def fetchHere (s : Scanner) (x : Char) : Except Fault Scanner :=
  let c := s.cursor
  if c.column == 0 && x == '%' then s.fetchDirective
  else if c.atMarker '-' then s.fetchMarker .documentStart
  else if c.atMarker '.' then s.fetchMarker .documentEnd
  else if x == '[' then s.fetchFlowStart .flowSequenceStart
  else if x == '\x7b' then s.fetchFlowStart .flowMappingStart
  else if x == ']' then s.fetchFlowEnd .flowSequenceEnd
  else if x == '\x7d' then s.fetchFlowEnd .flowMappingEnd
  else if x == ',' then s.fetchFlowEntry
  else if x == '-' && c.gapAhead 1 then s.fetchBlockEntry
  else if x == '?' && (s.inFlow || c.gapAhead 1) then s.fetchKey
  else if x == ':' && (s.inFlow || c.gapAhead 1) then s.fetchValue
  else if x == '*' then s.fetchAnchor .alias
  else if x == '&' then s.fetchAnchor .anchor
  else if x == '!' then s.fetchTag
  else if x == '|' && !s.inFlow then s.fetchBlockScalar false
  else if x == '>' && !s.inFlow then s.fetchBlockScalar true
  else if x == '\'' then s.fetchQuoted true
  else if x == '"' then s.fetchQuoted false
  else if s.beginsPlain then s.fetchPlain
  else .error .unexpectedCharacter

/-- Find the next token. -/
def fetch (s : Scanner) : Except Fault Scanner :=
  if !s.started then
    if s.cursor.rest.all isPrintable then .ok { s.push .streamStart with started := true }
    else .error .controlCharacter
  else do
    let s := skipGap (s.cursor.remaining + 1) s
    let s ← s.dropStale
    let s := s.unindent (some s.cursor.column)
    match s.cursor.peek? with
    | none => s.fetchEnd
    | some x => s.fetchHere x

/-- Whether some candidate could still make the first token of the queue a key. -/
def headUnsettled (s : Scanner) : Bool :=
  (s.candidate :: s.outerCandidates).any (fun k => k.any (fun k => k.number == s.taken))

/-- Fetch until the first token is settled. -/
def settle : Nat → Scanner → Except Fault Scanner
  | 0, _ => .error .unfinished
  | fuel + 1, s =>
      if s.queue.isEmpty then
        match s.fetch with
        | .error e => .error e
        | .ok s => settle fuel s
      else
        match s.dropStale with
        | .error e => .error e
        | .ok s =>
            if s.headUnsettled then
              match s.fetch with
              | .error e => .error e
              | .ok s => settle fuel s
            else .ok s

/-- The next token; the scanner remembers what it had to read to find it. -/
def peek? (s : Scanner) : Except Fault (Token × Scanner) :=
  match settle (s.cursor.remaining + 4) s with
  | .error e => .error e
  | .ok s =>
      match s.queue with
      | t :: _ => .ok (t, s)
      | [] => .error .unfinished

/-- The scanner after its next token. -/
def drop (s : Scanner) : Scanner := { s with queue := s.queue.drop 1, taken := s.taken + 1 }

end Scanner

end ThreatMarker.Yaml
