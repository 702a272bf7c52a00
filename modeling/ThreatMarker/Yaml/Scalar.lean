import ThreatMarker.Yaml.Cursor
/-
# The text of a scalar

Three ways to write a scalar and how each is read: quoted, block and plain.  In all of them a line
break inside the scalar folds: a single break becomes a space, and of several the first disappears.

A fold under way is kept in `Folding`: the blanks since the last character, or, once a break was
seen, that first break and the breaks after it.
-/

namespace ThreatMarker.Yaml

set_option autoImplicit false

/-- How a scalar is written. -/
inductive ScalarStyle where
  | plain
  | singleQuoted
  | doubleQuoted
  | literal
  | folded
  deriving Repr, DecidableEq

/-! ## Folding -/

/-- What was read since the last character of a flow scalar; `blanks` and `moreBreaks` have the most
recent character first. -/
structure Folding where
  blanks : List Char := []
  firstBreak : List Char := []
  moreBreaks : List Char := []
  broken : Bool := false
  deriving Repr, DecidableEq

namespace Folding

/-- What a fold adds to the scalar, most recent first. -/
def reversedText (f : Folding) : List Char :=
  if f.broken then
    if f.firstBreak.head? == some '\n' then
      if f.moreBreaks.isEmpty then [' '] else f.moreBreaks
    else f.moreBreaks ++ f.firstBreak
  else f.blanks

def addBlank (f : Folding) (c : Char) : Folding :=
  if f.broken then f else { f with blanks := c :: f.blanks }

def addBreak (f : Folding) (text : List Char) : Folding :=
  if f.broken then { f with moreBreaks := text.reverse ++ f.moreBreaks }
  else { f with blanks := [], firstBreak := text, broken := true }

end Folding

/-- Read blanks and breaks.  `guard` may refuse a tab once a break was seen. -/
def readFold (guard : Cursor → Bool) :
    Nat → Folding → Cursor → Except Fault (Folding × Cursor)
  | 0, f, c => .ok (f, c)
  | fuel + 1, f, c =>
      match c.peek? with
      | none => .ok (f, c)
      | some x =>
          if isBlankChar x then
            if f.broken && x == '\t' && guard c then .error .tabIndentation
            else readFold guard fuel (f.addBlank x) c.skip
          else if isBreak x then
            let (text, c) := c.takeBreak
            readFold guard fuel (f.addBreak text) c
          else .ok (f, c)

/-! ## Quoted scalars -/

def hexDigit? (c : Char) : Option Nat :=
  if c.isDigit then some (c.toNat - '0'.toNat)
  else if 'a' ≤ c && c ≤ 'f' then some (c.toNat - 'a'.toNat + 10)
  else if 'A' ≤ c && c ≤ 'F' then some (c.toNat - 'A'.toNat + 10)
  else none

/-- The character with the number that the digits write. -/
def codePoint? (digits : List Char) : Option Char :=
  match digits.mapM hexDigit? with
  | none => none
  | some values =>
      let n := values.foldl (fun acc d => acc * 16 + d) 0
      if h : n.isValidChar then some (Char.ofNatAux n h) else none

/-- The character that a short escape stands for. -/
def shortEscape? : Char → Option Char
  | '0' => some '\x00'
  | 'a' => some '\x07'
  | 'b' => some '\x08'
  | 't' => some '\t'
  | '\t' => some '\t'
  | 'n' => some '\n'
  | 'v' => some '\x0b'
  | 'f' => some '\x0c'
  | 'r' => some '\r'
  | 'e' => some '\x1b'
  | ' ' => some ' '
  | '"' => some '"'
  | '/' => some '/'
  | '\\' => some '\\'
  | 'N' => some '\u0085'
  | '_' => some '\u00a0'
  | 'L' => some '\u2028'
  | 'P' => some '\u2029'
  | _ => none

/-- The number of hexadecimal digits that a long escape takes. -/
def escapeLength? : Char → Option Nat
  | 'x' => some 2
  | 'u' => some 4
  | 'U' => some 8
  | _ => none

/-- Read an escape, whose backslash the cursor stands at. -/
def readEscape (c : Cursor) : Except Fault (Char × Cursor) :=
  match c.ahead? 1 with
  | none => .error .escape
  | some x =>
      match shortEscape? x with
      | some y => .ok (y, c.skipMany 2)
      | none =>
          match escapeLength? x with
          | none => .error .escape
          | some n =>
              let digits := (c.rest.drop 2).take n
              if digits.length < n then .error .escape
              else
                match codePoint? digits with
                | some y => .ok (y, c.skipMany (2 + n))
                | none => .error .escape

/-- Read the characters of a quoted scalar up to its closing quote, most recent first in `acc`. -/
def readQuotedText (single : Bool) :
    Nat → List Char → Cursor → Except Fault (List Char × Cursor)
  | 0, _, _ => .error .quoteUnclosed
  | fuel + 1, acc, c =>
      let fold := fun (f : Folding) (acc : List Char) (c : Cursor) =>
        match readFold (fun _ => false) (c.remaining + 1) f c with
        | .error e => .error e
        | .ok (f, c) =>
            if c.atDocumentIndicator then .error .documentIndicator
            else readQuotedText single fuel (f.reversedText ++ acc) c
      match c.rest with
      | [] => .error .quoteUnclosed
      | x :: more =>
          if isBlankChar x || isBreak x then fold {} acc c
          else if single then
            if x == '\'' then
              if more.head? == some '\'' then readQuotedText single fuel ('\'' :: acc) (c.skipMany 2)
              else .ok (acc.reverse, c.skip)
            else readQuotedText single fuel (x :: acc) c.skip
          else if x == '"' then .ok (acc.reverse, c.skip)
          else if x == '\\' then
            if more.head?.any isBreak then fold { broken := true } acc c.skip.skipBreak
            else
              match readEscape c with
              | .error e => .error e
              | .ok (y, c) => readQuotedText single fuel (y :: acc) c
          else readQuotedText single fuel (x :: acc) c.skip

/-- Read a quoted scalar, whose opening quote the cursor stands at. -/
def readQuoted (single : Bool) (c : Cursor) : Except Fault (List Char × Cursor) :=
  let c := c.skip
  if c.atDocumentIndicator then .error .documentIndicator
  else readQuotedText single (c.remaining + 1) [] c

/-! ## Plain scalars -/

/-- The indicators that end a plain scalar inside brackets. -/
def isFlowIndicator (c : Char) : Bool :=
  c == ',' || c == '[' || c == ']' || c == '\x7b' || c == '\x7d'

/-- Read the characters of one stretch of a plain scalar, most recent first in `acc`. -/
def readPlainStretch (inFlow : Bool) :
    Nat → List Char → Cursor → Except Fault (List Char × Cursor)
  | 0, acc, c => .ok (acc, c)
  | fuel + 1, acc, c =>
      match c.peek? with
      | none => .ok (acc, c)
      | some x =>
          if isBlankChar x || isBreak x then .ok (acc, c)
          else if inFlow && x == ':' && (c.ahead? 1).any (fun y => isFlowIndicator y || y == '?')
          then .error .colonInPlain
          else if x == ':' && c.gapAhead 1 then .ok (acc, c)
          else if inFlow && isFlowIndicator x then .ok (acc, c)
          else readPlainStretch inFlow fuel (x :: acc) c.skip

/-- Read a plain scalar stretch by stretch; `pending` is the fold since the last stretch.  The flag
of the result tells whether the scalar ended after a line break. -/
def readPlainText (inFlow : Bool) (indent : Nat) :
    Nat → List Char → Folding → Cursor → Except Fault (List Char × Bool × Cursor)
  | 0, acc, pending, c => .ok (acc.reverse, pending.broken, c)
  | fuel + 1, acc, pending, c =>
      if c.atDocumentIndicator || c.isAt '#' then .ok (acc.reverse, pending.broken, c)
      else
        match readPlainStretch inFlow (c.remaining + 1) [] c with
        | .error e => .error e
        | .ok (stretch, c) =>
            let (acc, pending) :=
              if stretch.isEmpty then (acc, pending)
              else (stretch ++ (pending.reversedText ++ acc), {})
            if !(c.atBlank || c.atBreak) then .ok (acc.reverse, pending.broken, c)
            else
              match readFold (fun c => c.column < indent) (c.remaining + 1) pending c with
              | .error e => .error e
              | .ok (pending, c) =>
                  if !inFlow && c.column < indent then .ok (acc.reverse, pending.broken, c)
                  else readPlainText inFlow indent fuel acc pending c

/-- Read a plain scalar, in a block indented less than `indent`. -/
def readPlain (inFlow : Bool) (indent : Nat) (c : Cursor) :
    Except Fault (List Char × Bool × Cursor) :=
  readPlainText inFlow indent (c.remaining + 1) [] {} c

/-! ## Block scalars -/

/-- What becomes of the line breaks at the end of a block scalar. -/
inductive Chomping where
  | strip
  | clip
  | keep
  deriving Repr, DecidableEq

def Chomping.ofChar? : Char → Option Chomping
  | '-' => some .strip
  | '+' => some .keep
  | _ => none

/-- The indentation indicator, a digit other than zero. -/
def readIncrement (c : Cursor) : Except Fault (Option Nat × Cursor) :=
  match c.peek? with
  | some x =>
      if x == '0' then .error .blockHeader
      else if x.isDigit then .ok (some (x.toNat - '0'.toNat), c.skip)
      else .ok (none, c)
  | none => .ok (none, c)

/-- Chomping and indentation indicators, in either order. -/
def readBlockHeader (c : Cursor) : Except Fault (Chomping × Option Nat × Cursor) :=
  match c.peek?.bind Chomping.ofChar? with
  | some chomping =>
      match readIncrement c.skip with
      | .error e => .error e
      | .ok (increment, c) => .ok (chomping, increment, c)
  | none =>
      match readIncrement c with
      | .error e => .error e
      | .ok (none, c) => .ok (.clip, none, c)
      | .ok (some n, c) =>
          match c.peek?.bind Chomping.ofChar? with
          | some chomping => .ok (chomping, some n, c.skip)
          | none => .ok (.clip, some n, c)

/-- Read indentation and empty lines.  `indent` is the indentation of the block, if it is known;
`deepest` is the deepest indentation seen; `breaks` has the most recent character first. -/
def readBlockGap (indent : Option Nat) :
    Nat → Nat → List Char → Cursor → Except Fault (Nat × List Char × Cursor)
  | 0, deepest, breaks, c => .ok (deepest, breaks.reverse, c)
  | fuel + 1, deepest, breaks, c =>
      let spaces := (c.rest.takeWhile (· == ' ')).length
      let c := c.skipMany (match indent with
        | some n => min spaces (n - c.column)
        | none => spaces)
      let deepest := max deepest c.column
      if indent.all (fun n => c.column < n) && c.isAt '\t' then .error .tabIndentation
      else if c.atBreak then
        let (text, c) := c.takeBreak
        readBlockGap indent fuel deepest (text.reverse ++ breaks) c
      else .ok (deepest, breaks.reverse, c)

/-- What was read of a block scalar: its text, most recent first, the break after the last line,
the empty lines after that, and whether the last line began with a blank. -/
structure BlockText where
  acc : List Char := []
  lastBreak : List Char := []
  gap : List Char := []
  blankBefore : Bool := false
  deriving Repr, DecidableEq

namespace BlockText

/-- What stands between the last line and the one that begins with a blank or not. -/
def join (b : BlockText) (folded blank : Bool) : List Char :=
  if folded && b.lastBreak.head? == some '\n' && !b.blankBefore && !blank then
    if b.gap.isEmpty then [' '] else b.gap
  else b.lastBreak ++ b.gap

def chomp (b : BlockText) : Chomping → List Char
  | .strip => b.acc.reverse
  | .clip => b.acc.reverse ++ b.lastBreak
  | .keep => b.acc.reverse ++ b.lastBreak ++ b.gap

end BlockText

/-- Read the lines of a block scalar that is indented by `indent`. -/
def readBlockLines (folded : Bool) (indent : Nat) :
    Nat → BlockText → Cursor → Except Fault (BlockText × Cursor)
  | 0, b, c => .ok (b, c)
  | fuel + 1, b, c =>
      if c.column != indent || c.atEnd then .ok (b, c)
      else
        let blank := c.atBlank
        let joined := b.join folded blank
        let (line, c) := c.takeWhile (fun x => !isBreak x)
        let (lastBreak, c) := c.takeBreak
        match readBlockGap (some indent) (c.remaining + 1) 0 [] c with
        | .error e => .error e
        | .ok (_, gap, c) =>
            let acc := line.reverse ++ (joined.reverse ++ b.acc)
            readBlockLines folded indent fuel ⟨acc, lastBreak, gap, blank⟩ c

/-- Read a block scalar, whose indicator the cursor stands at, inside a block indented by
`parent`; there is no such block at the top level. -/
def readBlock (folded : Bool) (parent : Option Nat) (c : Cursor) :
    Except Fault (List Char × Cursor) := do
  let (chomping, increment, c) ← readBlockHeader c.skip
  let c ← c.finishLine .blockHeader
  let given := increment.map (fun n => parent.getD 0 + n)
  let (deepest, gap, c) ← readBlockGap given (c.remaining + 1) 0 [] c
  let least := match parent with
    | some n => n + 1
    | none => 1
  let indent := given.getD (max deepest (max least 1))
  let (b, c) ← readBlockLines folded indent (c.remaining + 1) { gap } c
  .ok (b.chomp chomping, c)

end ThreatMarker.Yaml
