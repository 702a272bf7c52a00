/-
# Strings of a TOML document

A string stands between double quotes, with escapes, or between single quotes, without.  Three quotes
allow line breaks; the first break is dropped, and in the kind with escapes a backslash at the end of
a line hides the blanks that follow it.
-/

namespace ThreatMarker.Toml

set_option autoImplicit false

/-- A character that may stand in a string or a comment. -/
def isTextChar (c : Char) : Bool := c == '\t' || (0x20 ≤ c.toNat && c.toNat != 0x7F)

/-- A line break at the front of a text. -/
def afterBreak? : List Char → Option (List Char)
  | '\n' :: rest => some rest
  | '\r' :: '\n' :: rest => some rest
  | _ => none

def isBlank (c : Char) : Bool := c == ' ' || c == '\t'

def hexValue? (c : Char) : Option Nat :=
  if c.isDigit then some (c.toNat - '0'.toNat)
  else if 'a' ≤ c ∧ c ≤ 'f' then some (c.toNat - 'a'.toNat + 10)
  else if 'A' ≤ c ∧ c ≤ 'F' then some (c.toNat - 'A'.toNat + 10)
  else none

/-- A character given by `count` hexadecimal digits. -/
def hexChar? (count : Nat) (cs : List Char) : Option (Char × List Char) :=
  let ds := cs.take count
  match ds.mapM hexValue? with
  | none => none
  | some values =>
      let n := values.foldl (fun n d => n * 16 + d) 0
      if ds.length = count ∧ (n < 0xD800 ∨ (0xE000 ≤ n ∧ n < 0x110000)) then
        some (Char.ofNat n, cs.drop count)
      else none

/-- The character that an escape stands for, after the backslash. -/
def escape? : List Char → Option (Char × List Char)
  | 'b' :: rest => some ('\x08', rest)
  | 't' :: rest => some ('\t', rest)
  | 'n' :: rest => some ('\n', rest)
  | 'f' :: rest => some ('\x0c', rest)
  | 'r' :: rest => some ('\r', rest)
  | 'e' :: rest => some ('\x1b', rest)
  | '"' :: rest => some ('"', rest)
  | '\\' :: rest => some ('\\', rest)
  | 'x' :: rest => hexChar? 2 rest
  | 'u' :: rest => hexChar? 4 rest
  | 'U' :: rest => hexChar? 8 rest
  | _ => none

/-- The rest of a string on one line, the characters so far last first. -/
def readLine? (quote : Char) : Nat → List Char → List Char → Option (String × List Char)
  | 0, _, _ => none
  | fuel + 1, acc, cs =>
      match cs with
      | [] => none
      | c :: rest =>
          if c = quote then some (String.ofList acc.reverse, rest)
          else if c = '\\' ∧ quote = '"' then
            match escape? rest with
            | some (x, rest) => readLine? quote fuel (x :: acc) rest
            | none => none
          else if isTextChar c then readLine? quote fuel (c :: acc) rest
          else none

/-- Skip blanks and line breaks. -/
def skipHidden : Nat → List Char → List Char
  | 0, cs => cs
  | fuel + 1, cs =>
      match afterBreak? cs with
      | some rest => skipHidden fuel rest
      | none =>
          match cs with
          | c :: rest => if isBlank c then skipHidden fuel rest else cs
          | [] => []

/-- What follows a hidden end of line, after the backslash. -/
def hiddenBreak? (cs : List Char) : Option (List Char) :=
  match afterBreak? (cs.dropWhile isBlank) with
  | some rest => some (skipHidden (rest.length + 1) rest)
  | none => none

/-- The rest of a string on many lines, the characters so far last first. -/
def readLines? (quote : Char) : Nat → List Char → List Char → Option (String × List Char)
  | 0, _, _ => none
  | fuel + 1, acc, cs =>
      match cs with
      | [] => none
      | c :: rest =>
          if c = quote then
            let count := min (cs.takeWhile (· == quote)).length 5
            let kept := if count < 3 then count else count - 3
            let acc := List.replicate kept quote ++ acc
            let rest := cs.drop count
            if count < 3 then readLines? quote fuel acc rest
            else some (String.ofList acc.reverse, rest)
          else if c = '\\' ∧ quote = '"' then
            match hiddenBreak? rest with
            | some rest => readLines? quote fuel acc rest
            | none =>
                match escape? rest with
                | some (x, rest) => readLines? quote fuel (x :: acc) rest
                | none => none
          else
            match afterBreak? cs with
            | some after =>
                let written := cs.take (cs.length - after.length)
                readLines? quote fuel (written.reverse ++ acc) after
            | none => if isTextChar c then readLines? quote fuel (c :: acc) rest else none

/-- A string on many lines, after its first quotes. -/
def readManyLines? (quote : Char) (cs : List Char) : Option (String × List Char) :=
  let cs := (afterBreak? cs).getD cs
  readLines? quote (cs.length + 1) [] cs

/-- A string on one line, after its first quote. -/
def readOneLine? (quote : Char) (cs : List Char) : Option (String × List Char) :=
  readLine? quote (cs.length + 1) [] cs

end ThreatMarker.Toml
