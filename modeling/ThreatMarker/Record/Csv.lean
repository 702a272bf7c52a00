import ThreatMarker.Record.Basic
/-
# Comma-separated text

A record is one line of fields between commas.  A field with a comma, a quote or a line break stands
between quotes, and a quote inside it is written twice; so does the only field of a record if it is
empty.
-/

namespace ThreatMarker.Csv

set_option autoImplicit false

/-- A character that a field without quotes does not contain. -/
def isSpecial (c : Char) : Bool := c == ',' || c == '"' || c == '\n' || c == '\r'

/-- A character between quotes. -/
def quotedChar (c : Char) : List Char := if c = '"' then ['"', '"'] else [c]

/-- A field between quotes. -/
def quoted (field : List Char) : List Char := '"' :: (field.flatMap quotedChar ++ ['"'])

/-- A field as it is written. -/
def writeField (field : List Char) : List Char :=
  if field.any isSpecial then quoted field else field

/-- Fields between commas. -/
def writeFields : List (List Char) → List Char
  | [] => []
  | [f] => writeField f
  | f :: rest => writeField f ++ ',' :: writeFields rest

/-- A record with its line break. -/
def writeRecord (fields : List (List Char)) : List Char :=
  (if fields = [[]] then quoted [] else writeFields fields) ++ ['\n']

/-- Rows under the names of their columns. -/
def ofRows (rows : List Row) : String :=
  String.ofList ((Row.columns :: rows.map Row.cells).flatMap fun fields =>
    writeRecord (fields.map String.toList))

end ThreatMarker.Csv
