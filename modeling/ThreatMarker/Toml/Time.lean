import ThreatMarker.Decimal.Binary64
/-
# Dates and times

A date, a time of day, or both, with or without an offset from universal time.  The seconds may be
left out, and the day has to exist.
-/

namespace ThreatMarker.Toml

set_option autoImplicit false

/-- A number of exactly `count` digits. -/
def fixedDigits? (count : Nat) (cs : List Char) : Option (Nat × List Char) :=
  let ds := cs.take count
  if ds.length = count ∧ ds.all Char.isDigit then
    some (Decimal.Binary64.ofDigits ds, cs.drop count)
  else none

/-- What follows a character. -/
def expect? (c : Char) : List Char → Option (List Char)
  | x :: rest => if x = c then some rest else none
  | [] => none

def isLeapYear (y : Nat) : Bool := (y % 4 == 0 && y % 100 != 0) || y % 400 == 0

def daysInMonth (y m : Nat) : Nat :=
  if m = 2 then (if isLeapYear y then 29 else 28)
  else if m = 4 ∨ m = 6 ∨ m = 9 ∨ m = 11 then 30
  else 31

/-- What follows a date. -/
def afterDate? (cs : List Char) : Option (List Char) := do
  let (y, cs) ← fixedDigits? 4 cs
  let cs ← expect? '-' cs
  let (m, cs) ← fixedDigits? 2 cs
  let cs ← expect? '-' cs
  let (d, cs) ← fixedDigits? 2 cs
  if 1 ≤ m ∧ m ≤ 12 ∧ 1 ≤ d ∧ d ≤ daysInMonth y m then some cs else none

/-- What follows the digits after a point, if there is a point. -/
def afterFraction? (cs : List Char) : Option (List Char) :=
  match cs with
  | '.' :: rest =>
      if (rest.head?.map Char.isDigit).getD false then some (rest.dropWhile Char.isDigit) else none
  | _ => some cs

/-- What follows the seconds, if there are any. -/
def afterSeconds? (cs : List Char) : Option (List Char) :=
  match cs with
  | ':' :: rest =>
      match fixedDigits? 2 rest with
      | some (s, rest) => if s ≤ 60 then afterFraction? rest else none
      | none => none
  | _ => some cs

/-- What follows a time of day. -/
def afterTime? (cs : List Char) : Option (List Char) := do
  let (h, cs) ← fixedDigits? 2 cs
  let cs ← expect? ':' cs
  let (m, cs) ← fixedDigits? 2 cs
  if h ≤ 23 ∧ m ≤ 59 then afterSeconds? cs else none

/-- Whether the rest of a date and time is an offset, or nothing. -/
def isOffset (cs : List Char) : Bool :=
  match cs with
  | [] => true
  | ['Z'] => true
  | ['z'] => true
  | sign :: rest =>
      if sign = '+' ∨ sign = '-' then
        match (do
          let (h, rest) ← fixedDigits? 2 rest
          let rest ← expect? ':' rest
          let (m, rest) ← fixedDigits? 2 rest
          if h ≤ 23 ∧ m ≤ 59 then some rest else none) with
        | some [] => true
        | _ => false
      else false

/-- Whether a text is a date, a time or both. -/
def isTime (cs : List Char) : Bool :=
  match afterDate? cs with
  | some [] => true
  | some (c :: rest) =>
      if c = 'T' ∨ c = 't' ∨ c = ' ' then ((afterTime? rest).map isOffset).getD false else false
  | none => afterTime? cs == some []

end ThreatMarker.Toml
