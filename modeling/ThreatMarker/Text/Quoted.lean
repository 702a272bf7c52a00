import ThreatMarker.Unicode.Category
import ThreatMarker.Unicode.Property
import ThreatMarker.Json.Printer
/-
# Quoted text

How a text is shown inside a message: between double quotes, with a backslash before the quote and
the backslash, short escapes for the usual control characters, and the code point in hexadecimal for
every other character that has no shape of its own.
-/

namespace ThreatMarker.Text

set_option autoImplicit false

/-- The code points that are shown by their number: controls, formats, surrogates, private and
unassigned code points, separators, and marks that extend the character before them. -/
def shapeless (_ : Unit) : Unicode.CharSet :=
  ["cc", "cf", "cs", "co", "cn", "zl", "zp", "zs"].foldl
    (fun acc name => acc.union ((Unicode.category? name).getD .empty))
    ((Unicode.property? "grext").getD .empty)

/-- Whether a character is shown as it is.  ASCII is decided without the tables. -/
def isShown (c : Char) : Bool :=
  if c.toNat < 0x7F then 0x20 ≤ c.toNat else !(shapeless ()).contains c

/-- A character by its number. -/
def byNumber (c : Char) : List Char :=
  ['\\', 'u', '\x7b'] ++ Nat.toDigits 16 c.toNat ++ ['\x7d']

/-- How a character is shown between quotes. -/
def quotedChar (c : Char) : List Char :=
  match c with
  | '\x00' => ['\\', '0']
  | '\t' => ['\\', 't']
  | '\r' => ['\\', 'r']
  | '\n' => ['\\', 'n']
  | '"' => ['\\', '"']
  | '\\' => ['\\', '\\']
  | c => if isShown c then [c] else byNumber c

/-- A text between double quotes. -/
def quoted (s : String) : String := String.ofList ('"' :: (s.toList.flatMap quotedChar ++ ['"']))

/-- A list of texts, each between quotes. -/
def quotedList (xs : List String) : String := "[" ++ String.intercalate ", " (xs.map quoted) ++ "]"

/-- How a character of a path is shown between quotes: a single quote has a backslash before it as
well. -/
def quotedPathChar (c : Char) : List Char := if c = '\'' then ['\\', '\''] else quotedChar c

/-- A path that may be absent. -/
def quotedOptionalPath : Option String → String
  | some s => "Some(" ++ String.ofList ('"' :: (s.toList.flatMap quotedPathChar ++ ['"'])) ++ ")"
  | none => "None"

end ThreatMarker.Text
