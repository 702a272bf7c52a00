import ThreatMarker.Unicode.Blank
/-
# The combined log format

A line of the combined format is `address - - [timestamp] "method path protocol" status size
"referer" "agent"`, with any text after it.  Address, method, path and protocol are runs of
characters that are not blank, status and size are runs of decimal digits, and timestamp, referer and
agent are texts without a line break, each as short as the rest of the line allows.

`Entry.ofChars?` reads a line into its parts and `Entry.text` writes them back.
-/

namespace ThreatMarker.Line

set_option autoImplicit false

open Unicode (isBlank isDecimalDigit)
open List (isPrefixOf?)

/-- The parts of a line. -/
structure Entry where
  address : List Char
  timestamp : List Char
  method : List Char
  path : List Char
  protocol : List Char
  status : List Char
  size : List Char
  referer : List Char
  agent : List Char
  tail : List Char
  deriving Repr, DecidableEq

namespace Entry

/-- Between the address and the timestamp. -/
def afterAddress : List Char := [' ', '-', ' ', '-', ' ', '[']

/-- Between the timestamp and the method. -/
def afterTimestamp : List Char := [']', ' ', '"']

/-- Between the protocol and the status. -/
def afterProtocol : List Char := ['"', ' ']

/-- Between the size and the referer. -/
def beforeReferer : List Char := [' ', '"']

/-- Between the referer and the agent. -/
def afterReferer : List Char := ['"', ' ', '"']

/-- The line that parts make. -/
def text (e : Entry) : List Char :=
  e.address ++ afterAddress ++ e.timestamp ++ afterTimestamp ++ e.method ++ [' '] ++ e.path ++ [' ']
    ++ e.protocol ++ afterProtocol ++ e.status ++ [' '] ++ e.size ++ beforeReferer ++ e.referer
    ++ afterReferer ++ e.agent ++ ['"'] ++ e.tail

/-- A text that is not empty and has no blank. -/
def IsToken (t : List Char) : Prop := t ≠ [] ∧ ∀ c ∈ t, isBlank c = false

/-- A text that is not empty and has decimal digits only. -/
def IsNumber (t : List Char) : Prop := t ≠ [] ∧ ∀ c ∈ t, isDecimalDigit c = true

/-- A text on one line. -/
def IsInline (t : List Char) : Prop := '\n' ∉ t

/-- What the parts of a line may be. -/
structure WellFormed (e : Entry) : Prop where
  address : IsToken e.address
  timestamp : IsInline e.timestamp
  method : IsToken e.method
  path : IsToken e.path
  protocol : IsToken e.protocol
  status : IsNumber e.status
  size : IsNumber e.size
  referer : IsInline e.referer
  agent : IsInline e.agent

/-! ## Reading -/

/-- The longest run of characters of a class, which must not be empty. -/
def run? (p : Char → Bool) (cs : List Char) : Option (List Char × List Char) :=
  let front := cs.takeWhile p
  if front.isEmpty then none else some (front, cs.dropWhile p)

/-- The shortest text on one line before a mark, and what follows the mark.  The characters before
`cs` are in `before` with the last one first. -/
def upToFrom? (mark before : List Char) : List Char → Option (List Char × List Char)
  | [] => (isPrefixOf? mark []).map (fun rest => (before.reverse, rest))
  | c :: cs =>
      match isPrefixOf? mark (c :: cs) with
      | some rest => some (before.reverse, rest)
      | none => if c = '\n' then none else upToFrom? mark (c :: before) cs

/-- The shortest text on one line before a mark, and what follows the mark. -/
def upTo? (mark cs : List Char) : Option (List Char × List Char) := upToFrom? mark [] cs

/-- A run of characters that are not blank, without the quote at its end. -/
def quotedToken? (cs : List Char) : Option (List Char × List Char) :=
  match run? (fun c => !isBlank c) cs with
  | none => none
  | some (token, rest) =>
      if 1 < token.length ∧ token.getLast? = some '"' then some (token.dropLast, rest) else none

/-- Read what follows the timestamp; `address` and `timestamp` are what stands before it, the latter
with its last character first. -/
def afterTimestamp? (address timestamp cs : List Char) : Option Entry := do
  let (method, cs) ← run? (fun c => !isBlank c) cs
  let cs ← isPrefixOf? [' '] cs
  let (path, cs) ← run? (fun c => !isBlank c) cs
  let cs ← isPrefixOf? [' '] cs
  let (protocol, cs) ← quotedToken? cs
  let cs ← isPrefixOf? [' '] cs
  let (status, cs) ← run? isDecimalDigit cs
  let cs ← isPrefixOf? [' '] cs
  let (size, cs) ← run? isDecimalDigit cs
  let cs ← isPrefixOf? beforeReferer cs
  let (referer, cs) ← upTo? afterReferer cs
  let (agent, tail) ← upTo? ['"'] cs
  some { address, timestamp := timestamp.reverse, method, path, protocol, status, size, referer, agent,
         tail }

/-- Try the timestamp `before`, the last character first, then longer ones. -/
def fromTimestamp? (address : List Char) : List Char → List Char → Option Entry
  | before, cs =>
      let here := (isPrefixOf? afterTimestamp cs).bind (afterTimestamp? address before)
      match here, cs with
      | some e, _ => some e
      | none, [] => none
      | none, c :: rest => if c = '\n' then none else fromTimestamp? address (c :: before) rest

/-- Read the parts of a line without blanks at its ends. -/
def ofChars? (cs : List Char) : Option Entry := do
  let (address, cs) ← run? (fun c => !isBlank c) cs
  let cs ← isPrefixOf? afterAddress cs
  fromTimestamp? address [] cs

end Entry

end ThreatMarker.Line
