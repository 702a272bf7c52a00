import ThreatMarker.Json.Printer
/-
# Writing TOML

A string is written in the first form that can show it without escapes: between double quotes, between
single quotes, or in the long form of either.  If no form can, it stands between double quotes, in the
long form if it has a line break, with escapes.
-/

namespace ThreatMarker.Toml

set_option autoImplicit false

/-- How a string is delimited. -/
inductive Quoting where
  | basic
  | literal
  | longBasic
  | longLiteral
  deriving Repr, DecidableEq

namespace Quoting

def delimiter : Quoting → List Char
  | .basic => ['"']
  | .literal => ['\'']
  | .longBasic => ['"', '"', '"']
  | .longLiteral => ['\'', '\'', '\'']

def isLong : Quoting → Bool
  | .longBasic | .longLiteral => true
  | .basic | .literal => false

def hasEscapes : Quoting → Bool
  | .basic | .longBasic => true
  | .literal | .longLiteral => false

end Quoting

/-- The length of the longest run of a character, after a run of `current` and a longest of
`longest`. -/
def longestRunFrom (c : Char) : Nat → Nat → List Char → Nat
  | _, longest, [] => longest
  | current, longest, x :: rest =>
      if x = c then longestRunFrom c (current + 1) (max longest (current + 1)) rest
      else longestRunFrom c 0 longest rest

def longestRun (c : Char) (cs : List Char) : Nat := longestRunFrom c 0 0 cs

/-- A control character that cannot be written as it is.  Tabs and line breaks can. -/
def isForbidden (c : Char) : Bool :=
  (c.toNat < 0x20 && c != '\t' && c != '\n') || c.toNat == 0x7F

/-- The form in which a string is written. -/
def quotingFor (cs : List Char) : Quoting :=
  let broken := cs.contains '\n'
  let forbidden := cs.any isForbidden
  let backslash := cs.contains '\\'
  let doubles := longestRun '"' cs
  let singles := longestRun '\'' cs
  if !forbidden && !backslash && doubles == 0 && !broken then .basic
  else if !forbidden && singles == 0 && !broken then .literal
  else if !forbidden && !backslash && doubles ≤ 2 then .longBasic
  else if !forbidden && singles ≤ 2 then .longLiteral
  else if broken then .longBasic
  else .basic

/-- How a character other than a double quote is written where escapes are known. -/
def escapeChar (long : Bool) (c : Char) : List Char :=
  if c = '\n' then (if long then ['\n'] else ['\\', 'n'])
  else if c = '\x08' then ['\\', 'b']
  else if c = '\t' then ['\\', 't']
  else if c = '\x0c' then ['\\', 'f']
  else if c = '\r' then ['\\', 'r']
  else if c = '\\' then ['\\', '\\']
  else if isForbidden c then '\\' :: 'u' :: (Json.hexDigits 4 c.toNat).map Char.toUpper
  else [c]

/-- How many double quotes in a row stand for themselves. -/
def freeQuotes (long : Bool) : Nat := if long then 2 else 0

/-- Characters with escapes after a run of `run` double quotes. -/
def escapeFrom (long : Bool) : Nat → List Char → List Char
  | _, [] => []
  | run, c :: rest =>
      if c = '"' then
        if run < freeQuotes long then '"' :: escapeFrom long (run + 1) rest
        else '\\' :: '"' :: escapeFrom long 0 rest
      else escapeChar long c ++ escapeFrom long 0 rest

/-- A string as it is written.  A long string with a line break begins on a line of its own. -/
def stringText (s : String) : String :=
  let cs := s.toList
  let q := quotingFor cs
  let opening := if q.isLong && cs.contains '\n' then ['\n'] else []
  let content := if q.hasEscapes then escapeFrom q.isLong 0 cs else cs
  String.ofList (q.delimiter ++ opening ++ content ++ q.delimiter)

/-- One line of a table. -/
def entryText (name value : String) : String := name ++ " = " ++ value ++ "\n"

end ThreatMarker.Toml
