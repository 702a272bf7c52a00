import ThreatMarker.Toml.Table
import ThreatMarker.Toml.Text
import ThreatMarker.Toml.Time
/-
# Reading a TOML document

A document is a list of statements, one a line: a header of a table, a header of an element of an
array of tables, or a name with its value.  `Value.parse?` reads the statements and builds the table
that they describe; it gives nothing if a statement or its place is wrong.
-/

namespace ThreatMarker.Toml

set_option autoImplicit false

open Decimal (Binary64)

/-- The number of collections that may be open at once. -/
def depthLimit : Nat := 80

/-! ## Blanks and comments -/

def skipBlanks (cs : List Char) : List Char := cs.dropWhile isBlank

/-- What follows a comment, if there is one. -/
def skipComment? (cs : List Char) : Option (List Char) :=
  match cs with
  | '#' :: rest =>
      let after := rest.dropWhile isTextChar
      if after.isEmpty || (afterBreak? after).isSome then some after else none
  | _ => some cs

/-- Skip blanks, comments and line breaks. -/
def skipLines? : Nat → List Char → Option (List Char)
  | 0, _ => none
  | fuel + 1, cs =>
      match skipComment? (skipBlanks cs) with
      | none => none
      | some cs =>
          match afterBreak? cs with
          | some rest => skipLines? fuel rest
          | none => some cs

def skipAll? (cs : List Char) : Option (List Char) := skipLines? (cs.length + 1) cs

/-! ## Names -/

def isBareChar (c : Char) : Bool := c.isAlphanum || c == '_' || c == '-'

/-- One name. -/
def readKey? (cs : List Char) : Option (String × List Char) :=
  match cs with
  | '"' :: rest => readOneLine? '"' rest
  | '\'' :: rest => readOneLine? '\'' rest
  | _ =>
      let bare := cs.takeWhile isBareChar
      if bare.isEmpty then none else some (String.ofList bare, cs.dropWhile isBareChar)

/-- Names between points, and the text after them without blanks. -/
def readPath? : Nat → List Char → Option (List String × List Char)
  | 0, _ => none
  | fuel + 1, cs =>
      match readKey? (skipBlanks cs) with
      | none => none
      | some (key, rest) =>
          match skipBlanks rest with
          | '.' :: rest => (readPath? fuel rest).map (fun (keys, rest) => (key :: keys, rest))
          | rest => some ([key], rest)

/-! ## Scalars -/

/-- The value of a digit, if it belongs to the base. -/
def digit? (base : Nat) (c : Char) : Option Nat := (hexValue? c).filter (· < base)

/-- Digits of a base, with single underscores between them. -/
def readDigits? (base : Nat) : List Char → Option (List Nat)
  | [] => none
  | [c] => (digit? base c).map ([·])
  | c :: '_' :: rest =>
      match digit? base c, readDigits? base rest with
      | some d, some ds => some (d :: ds)
      | _, _ => none
  | c :: rest =>
      match digit? base c, readDigits? base rest with
      | some d, some ds => some (d :: ds)
      | _, _ => none

def digitsValue (base : Nat) (ds : List Nat) : Nat := ds.foldl (fun n d => n * base + d) 0

/-- A whole number; it has a value only if it has at most 128 bits. -/
def ofInteger (n : Int) : Value :=
  if -(Nat.pow 2 127 : Int) ≤ n ∧ n < (Nat.pow 2 128 : Int) then .integer n else .outOfRange

/-- Decimal digits without a needless zero in front. -/
def readWhole? (cs : List Char) : Option (List Nat) :=
  match readDigits? 10 cs with
  | some (0 :: _ :: _) => none
  | other => other

/-- A sign, and what follows it. -/
def readSign (cs : List Char) : Bool × List Char :=
  match cs with
  | '-' :: rest => (true, rest)
  | '+' :: rest => (false, rest)
  | _ => (false, cs)

/-- The exponent after its letter. -/
def readExponent? (cs : List Char) : Option Int :=
  let (negative, digits) := readSign cs
  (readDigits? 10 digits).map fun ds =>
    let n := (digitsValue 10 ds : Int)
    if negative then -n else n

/-- A number with a point or an exponent. -/
def readReal? (negative : Bool) (cs : List Char) : Option Value :=
  let isExponent := fun c => c == 'e' || c == 'E'
  let mantissa := cs.takeWhile (fun c => !isExponent c)
  let whole := mantissa.takeWhile (· != '.')
  let fraction? := match mantissa.dropWhile (· != '.') with
    | [] => some []
    | _ :: rest => readDigits? 10 rest
  let exponent? := match cs.dropWhile (fun c => !isExponent c) with
    | [] => some 0
    | _ :: rest => readExponent? rest
  match readWhole? whole, fraction?, exponent? with
  | some whole, some fraction, some exponent =>
      let x := Binary64.ofDecimal negative (digitsValue 10 (whole ++ fraction))
        (exponent - fraction.length)
      some (if x.isFinite then .real x else .outOfRange)
  | _, _, _ => none

/-- A number. -/
def readNumber? (cs : List Char) : Option Value :=
  match cs with
  | '0' :: 'x' :: ds => (readDigits? 16 ds).map fun ds => ofInteger (digitsValue 16 ds)
  | '0' :: 'o' :: ds => (readDigits? 8 ds).map fun ds => ofInteger (digitsValue 8 ds)
  | '0' :: 'b' :: ds => (readDigits? 2 ds).map fun ds => ofInteger (digitsValue 2 ds)
  | _ =>
      let (negative, body) := readSign cs
      if body == "inf".toList then some (.real (.infinite negative))
      else if body == "nan".toList then some (.real .nan)
      else
        match readWhole? body with
        | some ds =>
            let n := (digitsValue 10 ds : Int)
            some (ofInteger (if negative then -n else n))
        | none =>
            if body.any (fun c => c == '.' || c == 'e' || c == 'E') then readReal? negative body
            else none

/-- A character that a value without quotes does not contain. -/
def isDelimiter (c : Char) : Bool := " \t\n\r,]\x7d#=".toList.contains c

/-- The text of a value without quotes.  A date may be followed by a blank and a time. -/
def scalarText (cs : List Char) : List Char × List Char :=
  let word := cs.takeWhile (fun c => !isDelimiter c)
  let rest := cs.dropWhile (fun c => !isDelimiter c)
  match rest with
  | ' ' :: more =>
      let time := more.takeWhile (fun c => !isDelimiter c)
      let startsTime := (fixedDigits? 2 time).any (fun e => e.2.head? == some ':')
      if afterDate? word == some [] && startsTime then
        (word ++ ' ' :: time, more.dropWhile (fun c => !isDelimiter c))
      else (word, rest)
  | _ => (word, rest)

/-- A value without quotes. -/
def readScalar? (word : List Char) : Option Value :=
  if word == "true".toList then some (.bool true)
  else if word == "false".toList then some (.bool false)
  else if isTime word then some .time
  else readNumber? word

/-! ## Values -/

mutual

/-- A value, inside `depth` collections. -/
def readValue? : Nat → Nat → List Char → Option (Value × List Char)
  | 0, _, _ => none
  | fuel + 1, depth, cs =>
      match cs with
      | '"' :: '"' :: '"' :: rest => (readManyLines? '"' rest).map (fun (s, r) => (.string s, r))
      | '\'' :: '\'' :: '\'' :: rest =>
          (readManyLines? '\'' rest).map (fun (s, r) => (.string s, r))
      | '"' :: rest => (readOneLine? '"' rest).map (fun (s, r) => (.string s, r))
      | '\'' :: rest => (readOneLine? '\'' rest).map (fun (s, r) => (.string s, r))
      | '[' :: rest => if depth < depthLimit then readItems? fuel (depth + 1) [] rest else none
      | '\x7b' :: rest => if depth < depthLimit then readEntries? fuel (depth + 1) [] rest else none
      | _ =>
          let (word, rest) := scalarText cs
          (readScalar? word).map (fun v => (v, rest))

/-- The rest of an array, the items so far last first. -/
def readItems? : Nat → Nat → List Value → List Char → Option (Value × List Char)
  | 0, _, _, _ => none
  | fuel + 1, depth, acc, cs =>
      match skipAll? cs with
      | none => none
      | some (']' :: rest) => some (.array acc.reverse, rest)
      | some cs =>
          match readValue? fuel depth cs with
          | none => none
          | some (v, rest) =>
              match skipAll? rest with
              | some (',' :: rest) => readItems? fuel depth (v :: acc) rest
              | some (']' :: rest) => some (.array (v :: acc).reverse, rest)
              | _ => none

/-- The rest of a table between braces. -/
def readEntries? : Nat → Nat → Entries → List Char → Option (Value × List Char)
  | 0, _, _, _ => none
  | fuel + 1, depth, es, cs =>
      match skipAll? cs with
      | none => none
      | some ('\x7d' :: rest) => some (.table (sortedEntries es), rest)
      | some cs =>
          match readAssignment? fuel depth cs with
          | none => none
          | some (path, v, rest) =>
              match es.assignPath v path with
              | none => none
              | some es =>
                  match skipAll? rest with
                  | some (',' :: rest) => readEntries? fuel depth es rest
                  | some ('\x7d' :: rest) => some (.table (sortedEntries es), rest)
                  | _ => none

/-- A name and its value. -/
def readAssignment? : Nat → Nat → List Char → Option (List String × Value × List Char)
  | 0, _, _ => none
  | fuel + 1, depth, cs =>
      match readPath? (cs.length + 1) cs with
      | some (path, '=' :: rest) =>
          (readValue? fuel depth (skipBlanks rest)).map (fun (v, rest) => (path, v, rest))
      | _ => none

end

/-! ## Documents -/

inductive Statement where
  | header (path : List String)
  | element (path : List String)
  | assignment (path : List String) (v : Value)
  deriving Repr

/-- One statement. -/
def readStatement? (cs : List Char) : Option (Statement × List Char) :=
  match cs with
  | '[' :: '[' :: rest =>
      match readPath? (rest.length + 1) rest with
      | some (path, ']' :: ']' :: rest) => some (.element path, rest)
      | _ => none
  | '[' :: rest =>
      match readPath? (rest.length + 1) rest with
      | some (path, ']' :: rest) => some (.header path, rest)
      | _ => none
  | _ =>
      (readAssignment? (2 * cs.length + 4) 0 cs).map (fun (path, v, rest) =>
        (.assignment path v, rest))

/-- The statements of a document, one a line. -/
def readStatements? : Nat → List Char → Option (List Statement)
  | 0, _ => none
  | fuel + 1, cs =>
      match skipAll? cs with
      | none => none
      | some [] => some []
      | some cs =>
          match readStatement? cs with
          | none => none
          | some (s, rest) =>
              match skipComment? (skipBlanks rest) with
              | none => none
              | some rest =>
                  if rest.isEmpty then some [s]
                  else
                    match afterBreak? rest with
                    | some rest => (readStatements? fuel rest).map (s :: ·)
                    | none => none

/-- A document that is being read: the table of the last header, and all entries. -/
structure Progress where
  current : List String := []
  entries : Entries := []

namespace Progress

/-- A change of the table that the last name of a path is in. -/
def inParent (f : String → Entries → Option Entries) (path : List String) (es : Entries) :
    Option Entries :=
  match path.getLast? with
  | some key => es.within (f key) path.dropLast
  | none => none

/-- Carry out a statement. -/
def step (p : Progress) : Statement → Option Progress
  | .header path =>
      (inParent Entries.declare path p.entries).map fun entries => { current := path, entries }
  | .element path =>
      (inParent Entries.append path p.entries).map fun entries => { current := path, entries }
  | .assignment path v =>
      (p.entries.within (fun es => es.assignPath v path) p.current).map fun entries =>
        { p with entries }

end Progress

/-- The text without the mark that it may begin with. -/
def dropMark : List Char → List Char
  | '\uFEFF' :: rest => rest
  | cs => cs

/-- Read a document. -/
def Value.parse? (text : String) : Option Value :=
  let cs := dropMark text.toList
  match readStatements? (cs.length + 1) cs with
  | none => none
  | some statements =>
      (statements.foldlM Progress.step {}).map fun p => .table (sortedEntries p.entries)

end ThreatMarker.Toml
