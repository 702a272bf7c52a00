import ThreatMarker.Yaml.Node
import ThreatMarker.Decode.Fault
import ThreatMarker.Decimal.Shortest
import ThreatMarker.Decimal.Natural
import ThreatMarker.Text.Quoted
/-
# What scalars mean

A plain scalar without a tag is nothing, a truth value, a number or else a text, decided by how it is
written.  Numbers are decimal, hexadecimal, octal or binary; a decimal number with a needless zero in
front is a text.  A tag decides the kind before the writing does.
-/

namespace ThreatMarker.Yaml

set_option autoImplicit false

open Decimal (Binary64 digitCount)
open Decode (Cause)

/-- The meaning of a scalar.  A wide number has more than 64 bits. -/
inductive Atom where
  | null
  | bool (b : Bool)
  | integer (n : Int)
  | wide (n : Int)
  | real (x : Binary64)
  | text (s : List Char)
  deriving Repr, DecidableEq

/-! ## Numbers -/

/-- The value of a digit of a base up to sixteen. -/
def digitOf? (base : Nat) (c : Char) : Option Nat :=
  let value :=
    if c.isDigit then some (c.toNat - '0'.toNat)
    else if 'a' ≤ c ∧ c ≤ 'f' then some (c.toNat - 'a'.toNat + 10)
    else if 'A' ≤ c ∧ c ≤ 'F' then some (c.toNat - 'A'.toNat + 10)
    else none
  value.filter (· < base)

/-- The value of digits of a base, at least one. -/
def readBase? (base : Nat) (ds : List Char) : Option Nat :=
  if ds.isEmpty then none
  else ds.foldl (fun n d => n.bind fun n => (digitOf? base d).map (n * base + ·)) (some 0)

/-- Whether a text is digits with a needless zero in front, after a sign or not. -/
def hasNeedlessZero (text : List Char) : Bool :=
  let digits := match text with
    | '-' :: ds => ds
    | '+' :: ds => ds
    | ds => ds
  match digits with
  | '0' :: d :: ds => (d :: ds).all Char.isDigit
  | _ => false

/-- The magnitude of a number: a marked base, or decimal. -/
def readMagnitude? (text : List Char) : Option Nat :=
  let marked := match text with
    | '0' :: 'x' :: ds => readBase? 16 ds
    | '0' :: 'o' :: ds => readBase? 8 ds
    | '0' :: 'b' :: ds => readBase? 2 ds
    | _ => none
  marked.or (if hasNeedlessZero text then none else readBase? 10 text)

/-- A whole number that is not negative, after a plus sign or not. -/
def readUnsigned? (text : List Char) : Option Nat :=
  match text with
  | '+' :: rest => readMagnitude? rest
  | rest => readMagnitude? rest

/-- A whole number of up to 128 bits. -/
def readInteger? (text : List Char) : Option Int :=
  match readUnsigned? text with
  | some n => if n < Nat.pow 2 128 then some n else none
  | none =>
      match text with
      | '-' :: rest =>
          match readMagnitude? rest with
          | some n => if n ≤ Nat.pow 2 127 then some (-(n : Int)) else none
          | none => none
      | _ => none

/-- Whether a whole number has at most 64 bits. -/
def isNarrow (n : Int) : Bool := -(Nat.pow 2 63 : Int) ≤ n && n < (Nat.pow 2 64 : Int)

def Atom.ofInteger (n : Int) : Atom := if isNarrow n then .integer n else .wide n

/-- A number that need not be whole. -/
def readReal? (text : List Char) : Option Binary64 :=
  let unsigned := match text with
    | '+' :: rest => rest
    | rest => rest
  let signed := text.head? == some '+' && (unsigned.head? == some '+' || unsigned.head? == some '-')
  let isOneOf := fun (t : List Char) (names : List String) => names.any (fun n => n.toList == t)
  if signed then none
  else if isOneOf unsigned [".inf", ".Inf", ".INF"] then some (.infinite false)
  else if isOneOf text ["-.inf", "-.Inf", "-.INF"] then some (.infinite true)
  else if isOneOf text [".nan", ".NaN", ".NAN"] then some .nan
  else (Binary64.ofText? unsigned).filter Binary64.isFinite

/-! ## Words -/

def readNull? (text : List Char) : Bool :=
  ["null", "Null", "NULL", "~"].any (fun n => n.toList == text)

def readBool? (text : List Char) : Option Bool :=
  if ["true", "True", "TRUE"].any (fun n => n.toList == text) then some true
  else if ["false", "False", "FALSE"].any (fun n => n.toList == text) then some false
  else none

/-! ## Scalars -/

namespace Atom

/-- The meaning of a plain scalar. -/
def ofPlain (text : List Char) : Atom :=
  if text.isEmpty || readNull? text then .null
  else
    match readBool? text with
    | some b => .bool b
    | none =>
        match readInteger? text with
        | some n => .ofInteger n
        | none =>
            match if hasNeedlessZero text then none else readReal? text with
            | some x => .real x
            | none => .text text

/-- A text in a message. -/
def quotedText (text : List Char) : String := "string " ++ Text.quoted (String.ofList text)

/-- The tags of the basic kinds. -/
def basicTag (name : String) : List Char := "tag:yaml.org,2002:".toList ++ name.toList

/-- Whether a tag is of the document's own making. -/
def isLocalTag (tag : Option (List Char)) : Bool := (tag.bind List.head?) == some '!'

/-- The meaning of a scalar, or why it has none. -/
def ofScalar (tag : Option (List Char)) (text : List Char) (style : ScalarStyle) :
    Except Cause Atom :=
  let wrong := fun (expected : String) => Cause.invalidValue (quotedText text) expected
  match tag with
  | none => .ok (if style == .plain then ofPlain text else .text text)
  | some t =>
      if t == basicTag "bool" then
        match readBool? text with
        | some b => .ok (.bool b)
        | none => .error (wrong "a boolean")
      else if t == basicTag "int" then
        match readInteger? text with
        | some n => .ok (.ofInteger n)
        | none => .error (wrong "an integer")
      else if t == basicTag "float" then
        match readReal? text with
        | some x => .ok (.real x)
        | none => .error (wrong "a float")
      else if t == basicTag "null" then
        if readNull? text then .ok .null else .error (wrong "null")
      else if isLocalTag tag && style == .plain then .ok (ofPlain text)
      else .ok (.text text)

/-- An atom in a message. -/
def describe : Atom → String
  | .null => "unit value"
  | .bool b => "boolean " ++ Decode.tick (if b then "true" else "false")
  | .integer n => "integer " ++ Decode.tick (toString n)
  | .wide n =>
      "integer " ++ Decode.tick (toString n) ++ (if n < 0 then " as i128" else " as u128")
  | .real x => "floating point " ++ Decode.tick x.pointedText
  | .text s => quotedText s

end Atom

end ThreatMarker.Yaml
