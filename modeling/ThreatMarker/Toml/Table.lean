import ThreatMarker.Toml.Value
/-
# Building tables

The statements of a document fill tables.  A table comes into being by a header of its own, by the
header of a table inside it, or by a name with points.  A header may complete a table of the second
kind, and names with points may add to one of the third; nothing else is given twice.
-/

namespace ThreatMarker.Toml

set_option autoImplicit false

/-- How a table came into being. -/
inductive Origin where
  | declared
  | passed
  | dotted
  deriving Repr, DecidableEq

/-- What a name stands for while a document is read.  The elements of an array of tables are kept
with the last one first. -/
inductive Item where
  | value (v : Value)
  | table (origin : Origin) (entries : List (String × Item))
  | tables (elements : List (List (String × Item)))
  deriving Repr, Inhabited

abbrev Entries := List (String × Item)

namespace Entries

/-- Change what a name stands for; `none` stands for a name that is not there. -/
def alter (key : String) (f : Option Item → Option Item) : Entries → Option Entries
  | [] => (f none).map (fun item => [(key, item)])
  | (k, item) :: rest =>
      if k = key then (f (some item)).map (fun item => (k, item) :: rest)
      else (alter key f rest).map ((k, item) :: ·)

/-- Change the table that the names of a header lead to. -/
def within (f : Entries → Option Entries) : List String → Entries → Option Entries
  | [], es => f es
  | k :: ks, es =>
      es.alter k fun
        | none => (within f ks []).map (.table .passed)
        | some (.table origin sub) => (within f ks sub).map (.table origin)
        | some (.tables (last :: rest)) => (within f ks last).map (fun t => .tables (t :: rest))
        | some _ => none

/-- Give a name its value. -/
def assign (v : Value) (key : String) (es : Entries) : Option Entries :=
  es.alter key fun
    | none => some (.value v)
    | some _ => none

/-- Give a name with points its value. -/
def assignPath (v : Value) : List String → Entries → Option Entries
  | [], _ => none
  | [key], es => es.assign v key
  | k :: ks, es =>
      es.alter k fun
        | none => (assignPath v ks []).map (.table .dotted)
        | some (.table .dotted sub) => (assignPath v ks sub).map (.table .dotted)
        | some (.table .passed sub) =>
            if ks.length = 1 then none else (assignPath v ks sub).map (.table .passed)
        | some _ => none

/-- Declare a table. -/
def declare (key : String) (es : Entries) : Option Entries :=
  es.alter key fun
    | none => some (.table .declared [])
    | some (.table .passed sub) => some (.table .declared sub)
    | some _ => none

/-- Begin another element of an array of tables. -/
def append (key : String) (es : Entries) : Option Entries :=
  es.alter key fun
    | none => some (.tables [[]])
    | some (.tables elements) => some (.tables ([] :: elements))
    | some _ => none

end Entries

/-- Put an entry into its place in ascending order of the names. -/
def insertEntry (e : String × Value) : List (String × Value) → List (String × Value)
  | [] => [e]
  | x :: rest => if e.1 < x.1 then e :: x :: rest else x :: insertEntry e rest

mutual

/-- The value that an item stands for. -/
def Item.toValue : Item → Value
  | .value v => v
  | .table _ entries => .table (sortedEntries entries)
  | .tables elements => .array (elementValues elements).reverse

def sortedEntries : List (String × Item) → List (String × Value)
  | [] => []
  | (k, item) :: rest => insertEntry (k, item.toValue) (sortedEntries rest)

def elementValues : List (List (String × Item)) → List Value
  | [] => []
  | es :: rest => .table (sortedEntries es) :: elementValues rest

end

end ThreatMarker.Toml
