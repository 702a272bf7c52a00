/-
# A place in a YAML text

A cursor is the rest of the text together with the place it has been read to.  Line and column decide
indentation and how far a key on one line may reach; the index counts characters.

The line breaks are CR LF, CR, LF, NEL, LS and PS.  A break that is read into a scalar becomes a line
feed, except that LS and PS stay what they are.
-/

namespace ThreatMarker.Yaml

set_option autoImplicit false

/-- What is wrong with a text that is no YAML stream. -/
inductive Fault where
  | controlCharacter
  | unexpectedCharacter
  | keyUnfinished
  | entryNotAllowed
  | keyNotAllowed
  | valueNotAllowed
  | directive
  | anchor
  | tag
  | undefinedHandle
  | blockHeader
  | tabIndentation
  | documentIndicator
  | quoteUnclosed
  | escape
  | colonInPlain
  | documentStartExpected
  | nodeExpected
  | entryExpected
  | keyExpected
  | commaExpected
  | undefinedAlias
  | endOfStream
  | unfinished
  deriving Repr, DecidableEq

/-- The rest of a text of `total` characters, and the place where it begins. -/
structure Cursor where
  rest : List Char
  total : Nat := rest.length
  index : Nat := 0
  line : Nat := 0
  column : Nat := 0
  deriving Repr, DecidableEq, Inhabited

def isBreak (c : Char) : Bool :=
  c == '\n' || c == '\r' || c == '\u0085' || c == '\u2028' || c == '\u2029'

/-- A space or a tab. -/
def isBlankChar (c : Char) : Bool := c == ' ' || c == '\t'

/-- Letters, digits, hyphen and underscore, which make up names. -/
def isNameChar (c : Char) : Bool := c.isAlphanum || c == '_' || c == '-'

namespace Cursor

/-- How many characters are ahead. -/
def remaining (c : Cursor) : Nat := c.total - c.index

/-- The next character. -/
def peek? (c : Cursor) : Option Char := c.rest.head?

/-- The character `n` places ahead. -/
def ahead? (c : Cursor) (n : Nat) : Option Char := c.rest[n]?

def atEnd (c : Cursor) : Bool := c.rest.isEmpty

def isAt (c : Cursor) (x : Char) : Bool := c.peek? == some x

def atBlank (c : Cursor) : Bool := c.peek?.any isBlankChar

def atBreak (c : Cursor) : Bool := c.peek?.any isBreak

/-- A break or the end of the text. -/
def atBreakOrEnd (c : Cursor) : Bool := c.peek?.all isBreak

/-- Whether a blank, a break or the end stands `n` places ahead. -/
def gapAhead (c : Cursor) (n : Nat) : Bool :=
  (c.ahead? n).all (fun x => isBlankChar x || isBreak x)

/-- A blank, a break or the end. -/
def atGap (c : Cursor) : Bool := c.gapAhead 0

/-- Step over one character of a line. -/
def skip (c : Cursor) : Cursor :=
  { c with rest := c.rest.drop 1, index := c.index + 1, column := c.column + 1 }

def skipMany (c : Cursor) (n : Nat) : Cursor :=
  { c with rest := c.rest.drop n, index := c.index + n, column := c.column + n }

/-- Step over a line break and give what it adds to a scalar; nothing if there is none. -/
def takeBreak (c : Cursor) : List Char × Cursor :=
  let after := fun (n : Nat) =>
    { c with rest := c.rest.drop n, index := c.index + n, line := c.line + 1, column := 0 }
  match c.rest with
  | '\r' :: '\n' :: _ => (['\n'], after 2)
  | x :: _ =>
      if x == '\u2028' || x == '\u2029' then ([x], after 1)
      else if isBreak x then (['\n'], after 1)
      else ([], c)
  | [] => ([], c)

def skipBreak (c : Cursor) : Cursor := c.takeBreak.2

/-- Step over the characters of a line that satisfy `p`, and give them. -/
def takeWhile (p : Char → Bool) (c : Cursor) : List Char × Cursor :=
  let taken := c.rest.takeWhile p
  (taken, c.skipMany taken.length)

def skipWhile (p : Char → Bool) (c : Cursor) : Cursor := (c.takeWhile p).2

/-- Step over the rest of the line. -/
def skipLine (c : Cursor) : Cursor := c.skipWhile (fun x => !isBreak x)

/-- Whether a document marker stands at the beginning of a line. -/
def atMarker (c : Cursor) (mark : Char) : Bool :=
  c.column == 0 && [mark, mark, mark].isPrefixOf c.rest && c.gapAhead 3

def atDocumentIndicator (c : Cursor) : Bool := c.atMarker '-' || c.atMarker '.'

/-- Blanks and a comment, then the end of the line. -/
def finishLine (fault : Fault) (c : Cursor) : Except Fault Cursor :=
  let c := c.skipWhile isBlankChar
  let c := if c.isAt '#' then c.skipLine else c
  if c.atBreakOrEnd then .ok c.skipBreak else .error fault

end Cursor

/-- The characters that a stream may hold. -/
def isPrintable (c : Char) : Bool :=
  let n := c.toNat
  n == 0x09 || n == 0x0A || n == 0x0D || (0x20 ≤ n && n ≤ 0x7E) || n == 0x85
    || (0xA0 ≤ n && n ≤ 0xD7FF) || (0xE000 ≤ n && n ≤ 0xFFFD) || 0x10000 ≤ n

end ThreatMarker.Yaml
