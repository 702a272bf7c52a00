import ThreatMarker.Json.Value
/-
# Reading JSON

`Value.parse?` reads one value from a text.  The members of an object are put in ascending order of
their names, and of several with one name the last counts.

The reader is one recursion on a fuel that the wrapper sets to the length of the text: every call
consumes a character.
-/

namespace ThreatMarker.Json

set_option autoImplicit false

open Decimal (Binary64)

def isSpace (c : Char) : Bool := c == ' ' || c == '\n' || c == '\r' || c == '\t'

def skipSpace (cs : List Char) : List Char := cs.dropWhile isSpace

/-! ## Strings -/

def hexValue? (c : Char) : Option Nat :=
  if c.isDigit then some (c.toNat - '0'.toNat)
  else if 'a' ≤ c && c ≤ 'f' then some (c.toNat - 'a'.toNat + 10)
  else if 'A' ≤ c && c ≤ 'F' then some (c.toNat - 'A'.toNat + 10)
  else none

/-- Four hexadecimal digits. -/
def readUnit? : List Char → Option (Nat × List Char)
  | a :: b :: c :: d :: rest =>
      match hexValue? a, hexValue? b, hexValue? c, hexValue? d with
      | some a, some b, some c, some d => some (((a * 16 + b) * 16 + c) * 16 + d, rest)
      | _, _, _, _ => none
  | _ => none

/-- A character given by one code unit or by a pair of surrogates. -/
def readUnicode? (cs : List Char) : Option (Char × List Char) :=
  match readUnit? cs with
  | none => none
  | some (u, rest) =>
      if u < 0xD800 || 0xDFFF < u then some (Char.ofNat u, rest)
      else
        match rest with
        | '\\' :: 'u' :: more =>
            match readUnit? more with
            | some (v, rest) =>
                if u < 0xDC00 && 0xDC00 ≤ v && v ≤ 0xDFFF then
                  some (Char.ofNat (0x10000 + (u - 0xD800) * 0x400 + (v - 0xDC00)), rest)
                else none
            | none => none
        | _ => none

def shortEscape? : Char → Option Char
  | '"' => some '"'
  | '\\' => some '\\'
  | '/' => some '/'
  | 'b' => some '\x08'
  | 'f' => some '\x0c'
  | 'n' => some '\n'
  | 'r' => some '\r'
  | 't' => some '\t'
  | _ => none

/-- The rest of a string, the characters read so far last first. -/
def readString? : Nat → List Char → List Char → Option (String × List Char)
  | 0, _, _ => none
  | fuel + 1, acc, cs =>
      match cs with
      | '"' :: rest => some (String.ofList acc.reverse, rest)
      | '\\' :: 'u' :: rest =>
          match readUnicode? rest with
          | some (c, rest) => readString? fuel (c :: acc) rest
          | none => none
      | '\\' :: x :: rest =>
          match shortEscape? x with
          | some c => readString? fuel (c :: acc) rest
          | none => none
      | c :: rest => if c.toNat < 0x20 then none else readString? fuel (c :: acc) rest
      | [] => none

/-! ## Numbers -/

/-- A number as a value.  A whole number that does not fit 64 bits, and minus zero, are binary. -/
def ofNumberText? (text : List Char) : Option Value :=
  let (negative, body) := match text with
    | '-' :: ds => (true, ds)
    | ds => (false, ds)
  if body.all Char.isDigit then
    let n := Binary64.ofDigits body
    if body.isEmpty || (body.length > 1 && body.head? == some '0') then none
    else if negative then
      if n = 0 || Nat.pow 2 63 < n then some (.real (.ofDecimal true n 0)) else some (.int (-(n : Int)))
    else if Nat.pow 2 64 ≤ n then some (.real (.ofDecimal false n 0))
    else some (.int n)
  else (Binary64.ofText? text).map .real

def isNumberChar (c : Char) : Bool :=
  c.isDigit || c == '-' || c == '+' || c == '.' || c == 'e' || c == 'E'

/-! ## Values -/

/-- Put a member in its place in ascending order. -/
def insertMember (name : String) (v : Value) : List (String × Value) → List (String × Value)
  | [] => [(name, v)]
  | (n, w) :: rest =>
      if name < n then (name, v) :: (n, w) :: rest
      else if name == n then (name, v) :: rest
      else (n, w) :: insertMember name v rest

mutual

def readValue? : Nat → List Char → Option (Value × List Char)
  | 0, _ => none
  | fuel + 1, cs =>
      match skipSpace cs with
      | '"' :: rest => (readString? (rest.length + 1) [] rest).map (fun (s, r) => (.string s, r))
      | '[' :: rest =>
          match skipSpace rest with
          | ']' :: rest => some (.array [], rest)
          | rest => readItems? fuel [] rest
      | '\x7b' :: rest =>
          match skipSpace rest with
          | '\x7d' :: rest => some (.object [], rest)
          | rest => readMembers? fuel [] rest
      | 't' :: 'r' :: 'u' :: 'e' :: rest => some (.bool true, rest)
      | 'f' :: 'a' :: 'l' :: 's' :: 'e' :: rest => some (.bool false, rest)
      | 'n' :: 'u' :: 'l' :: 'l' :: rest => some (.null, rest)
      | cs =>
          (ofNumberText? (cs.takeWhile isNumberChar)).map (fun v => (v, cs.dropWhile isNumberChar))

def readItems? : Nat → List Value → List Char → Option (Value × List Char)
  | 0, _, _ => none
  | fuel + 1, acc, cs =>
      match readValue? fuel cs with
      | none => none
      | some (v, rest) =>
          match skipSpace rest with
          | ',' :: rest => readItems? fuel (v :: acc) rest
          | ']' :: rest => some (.array (v :: acc).reverse, rest)
          | _ => none

def readMembers? : Nat → List (String × Value) → List Char → Option (Value × List Char)
  | 0, _, _ => none
  | fuel + 1, acc, cs =>
      match skipSpace cs with
      | '"' :: rest =>
          match readString? (rest.length + 1) [] rest with
          | none => none
          | some (name, rest) =>
              match skipSpace rest with
              | ':' :: rest =>
                  match readValue? fuel rest with
                  | none => none
                  | some (v, rest) =>
                      let acc := insertMember name v acc
                      match skipSpace rest with
                      | ',' :: rest => readMembers? fuel acc rest
                      | '\x7d' :: rest => some (.object acc, rest)
                      | _ => none
              | _ => none
      | _ => none

end

/-- Read a text that holds one value. -/
def Value.parse? (text : String) : Option Value :=
  let cs := text.toList
  match readValue? (cs.length + 1) cs with
  | some (v, rest) => if (skipSpace rest).isEmpty then some v else none
  | none => none

end ThreatMarker.Json
