import ThreatMarker.Yaml.Cursor
/-
# Names, tags and directives

The lexical rules of everything in a YAML text that is neither structure nor scalar: anchors and
aliases, tags, and the two directives that may stand before a document.
-/

namespace ThreatMarker.Yaml

set_option autoImplicit false

/-! ## Anchors -/

/-- The characters that may follow the name of an anchor, besides a blank, a break and the end. -/
def endsName (c : Char) : Bool := "?:,]\x7d%@`".toList.contains c

/-- The name of an anchor or an alias, whose indicator the cursor stands at. -/
def readAnchor (c : Cursor) : Except Fault (List Char × Cursor) :=
  let (name, c) := c.skip.takeWhile isNameChar
  if name.isEmpty || !(c.atGap || c.peek?.any endsName) then .error .anchor else .ok (name, c)

/-! ## Tags -/

/-- The characters that may stand in a tag; the flow indicators only between angle brackets. -/
def isTagChar (bracketed : Bool) (c : Char) : Bool :=
  isNameChar c || ";/?:@&=+$.!~*'()".toList.contains c || (bracketed && ",[]".toList.contains c)

def tagHexDigit? (c : Char) : Option Nat :=
  if c.isDigit then some (c.toNat - '0'.toNat)
  else if 'a' ≤ c && c ≤ 'f' then some (c.toNat - 'a'.toNat + 10)
  else if 'A' ≤ c && c ≤ 'F' then some (c.toNat - 'A'.toNat + 10)
  else none

/-- One byte written as a percent sign and two digits. -/
def readOctet : List Char → Option (Nat × List Char)
  | '%' :: a :: b :: rest =>
      match tagHexDigit? a, tagHexDigit? b with
      | some x, some y => some (x * 16 + y, rest)
      | _, _ => none
  | _ => none

/-- The number of a character, of which `value` was read, after its trailing bytes. -/
def readTrailing : Nat → Nat → List Char → Option Nat
  | 0, value, _ => some value
  | n + 1, value, cs =>
      match readOctet cs with
      | some (octet, rest) =>
          if octet / 64 == 2 then readTrailing n (value * 64 + octet % 64) rest else none
      | none => none

/-- How many bytes follow the first byte of a character, and what that byte says of the character. -/
def leadingOctet? (octet : Nat) : Option (Nat × Nat) :=
  if octet < 0x80 then some (0, octet)
  else if octet / 32 == 6 then some (1, octet % 32)
  else if octet / 16 == 14 then some (2, octet % 16)
  else if octet / 8 == 30 then some (3, octet % 8)
  else none

/-- A character whose UTF-8 bytes are escaped one by one, and how many bytes there are. -/
def readEscapedChar (cs : List Char) : Option (Char × Nat) := do
  let (octet, rest) ← readOctet cs
  let (more, value) ← leadingOctet? octet
  let value ← readTrailing more value rest
  if h : value.isValidChar then some (Char.ofNatAux value h, more + 1) else none

/-- The characters of a tag, most recent first in `acc`. -/
def readTagText (bracketed : Bool) :
    Nat → List Char → Cursor → Except Fault (List Char × Cursor)
  | 0, acc, c => .ok (acc.reverse, c)
  | fuel + 1, acc, c =>
      match c.peek? with
      | none => .ok (acc.reverse, c)
      | some x =>
          if x == '%' then
            match readEscapedChar c.rest with
            | none => .error .tag
            | some (y, octets) =>
                readTagText bracketed fuel (y :: acc) (c.skipMany (3 * octets))
          else if isTagChar bracketed x then readTagText bracketed fuel (x :: acc) c.skip
          else .ok (acc.reverse, c)

/-- The handle at the beginning of a tag: `!`, `!!` or `!name!`; without its second mark what was
read is the beginning of the tag itself. -/
def readHandle (c : Cursor) : Except Fault (List Char × Cursor) :=
  if c.isAt '!' then
    let (name, c) := c.skip.takeWhile isNameChar
    if c.isAt '!' then .ok ('!' :: (name ++ ['!']), c.skip) else .ok ('!' :: name, c)
  else .error .tag

/-- A tag as handle and suffix, read from its first mark. -/
def readTag (inFlow : Bool) (c : Cursor) : Except Fault (List Char × List Char × Cursor) := do
  let fuel := c.remaining + 1
  let (handle, suffix, c) ←
    if c.ahead? 1 == some '<' then do
      let (suffix, c) ← readTagText true fuel [] (c.skipMany 2)
      if suffix.isEmpty || !c.isAt '>' then .error .tag
      .ok (([] : List Char), suffix, c.skip)
    else do
      let (handle, c) ← readHandle c
      if handle.length > 1 && handle.getLast? == some '!' then do
        let (suffix, c) ← readTagText false fuel [] c
        if suffix.isEmpty then .error .tag
        .ok (handle, suffix, c)
      else do
        let (suffix, c) ← readTagText false fuel (handle.drop 1).reverse c
        if suffix.isEmpty then .ok (([] : List Char), ['!'], c) else .ok (['!'], suffix, c)
  if (inFlow && c.isAt ',') || c.atGap then .ok (handle, suffix, c) else .error .tag

/-! ## Directives -/

/-- What a directive says. -/
inductive Directive where
  | version (major minor : Nat)
  | tag (handle tagPrefix : List Char)
  deriving Repr, DecidableEq

/-- A number of at most nine digits. -/
def readVersionNumber (c : Cursor) : Except Fault (Nat × Cursor) :=
  let (digits, c) := c.takeWhile Char.isDigit
  if digits.isEmpty || 9 < digits.length then .error .directive
  else .ok (digits.foldl (fun n d => n * 10 + (d.toNat - '0'.toNat)) 0, c)

/-- A directive up to the end of its line, read from its percent sign. -/
def readDirective (c : Cursor) : Except Fault (Directive × Cursor) := do
  let (name, c) := c.skip.takeWhile isNameChar
  if name.isEmpty || !c.atGap then .error .directive
  let c := c.skipWhile isBlankChar
  let (directive, c) ←
    match String.ofList name with
    | "YAML" => do
        let (major, c) ← readVersionNumber c
        if !c.isAt '.' then .error .directive
        let (minor, c) ← readVersionNumber c.skip
        .ok (Directive.version major minor, c)
    | "TAG" => do
        let (handle, c) ← readHandle c
        if handle.length > 1 && handle.getLast? != some '!' then .error .directive
        if !c.atBlank then .error .directive
        let c := c.skipWhile isBlankChar
        let (tagPrefix, c) ← readTagText true (c.remaining + 1) [] c
        if tagPrefix.isEmpty || !c.atGap then .error .directive
        .ok (Directive.tag handle tagPrefix, c)
    | _ => .error .directive
  .ok (directive, ← c.finishLine .directive)

end ThreatMarker.Yaml
