import ThreatMarker.Failure
import ThreatMarker.Record.Csv
/-
# Output files

Rows are written to a new file whose name tells when it was made.  A name that is taken gets a number;
a file that is there is never touched.
-/

namespace ThreatMarker.Batch

set_option autoImplicit false

open Files (FileTree Place)

/-! ## Time stamps -/

/-- A moment in local time. -/
structure Stamp where
  year : Int
  month : Nat
  day : Nat
  hour : Nat
  minute : Nat
  second : Nat
  deriving Repr, DecidableEq

namespace Stamp

/-- Digits with zeros in front up to a width. -/
def padded (width n : Nat) : String :=
  let ds := toString n
  String.ofList (List.replicate (width - ds.length) '0') ++ ds

/-- A year has four digits; one that does not fit them has a sign. -/
def yearText (y : Int) : String :=
  if 0 ≤ y ∧ y ≤ 9999 then padded 4 y.toNat
  else (if y < 0 then "-" else "+") ++ padded 4 y.natAbs

def text (s : Stamp) : String :=
  yearText s.year ++ padded 2 s.month ++ padded 2 s.day ++ padded 2 s.hour ++ padded 2 s.minute
    ++ padded 2 s.second

def isLeapYear (y : Int) : Bool := (y % 4 == 0 && y % 100 != 0) || y % 400 == 0

def daysInMonth (y : Int) (m : Nat) : Nat :=
  if m = 2 then (if isLeapYear y then 29 else 28)
  else if m = 4 ∨ m = 6 ∨ m = 9 ∨ m = 11 then 30
  else 31

/-- Whether there is such a moment. -/
def isReal (s : Stamp) : Bool :=
  -262143 ≤ s.year && s.year ≤ 262142 && 1 ≤ s.month && s.month ≤ 12 && 1 ≤ s.day
    && s.day ≤ daysInMonth s.year s.month && s.hour ≤ 23 && s.minute ≤ 59 && s.second ≤ 59

end Stamp

/-! ## Names -/

/-- How many names are tried. -/
def maxAttempts : Nat := 10000

/-- The name of an output file without its number. -/
def outputStem (namePrefix : String) (stamp : Stamp) : String := namePrefix ++ "_" ++ stamp.text

/-- The name that is tried after `n` others. -/
def outputName (stem : String) (n : Nat) : String :=
  if n = 0 then stem ++ ".csv" else stem ++ "_" ++ toString n ++ ".csv"

/-- A file that was made. -/
structure NewFile where
  path : String
  place : Place
  deriving Repr, DecidableEq

/-- Try the names from `n` on, `fuel` of them. -/
def tryNames (t : FileTree) (dir stem : String) : Nat → Nat → Except Failure (NewFile × FileTree)
  | 0, _ =>
      .error (.batch (Files.Path.join dir (outputName stem 0))
        ("no free output name after " ++ toString maxAttempts ++ " attempts"))
  | fuel + 1, n =>
      let path := Files.Path.join dir (outputName stem n)
      match t.createNew path with
      | .ok (place, t) => .ok (⟨path, place⟩, t)
      | .error .alreadyExists => tryNames t dir stem fuel (n + 1)
      | .error e => .error (.batch path ("failed to create output: " ++ e.message))

/-- Make a new output file, and its directory if it is missing. -/
def createOutput (t : FileTree) (dir namePrefix : String) (stamp : Stamp) :
    Except Failure NewFile × FileTree :=
  match t.ensureDirectory dir with
  | (.error e, t) => (.error (.batch dir ("failed to create output directory: " ++ e.message)), t)
  | (.ok (), t) =>
      match tryNames t dir (outputStem namePrefix stamp) maxAttempts 0 with
      | .error f => (.error f, t)
      | .ok (file, t) => (.ok file, t)

/-! ## Rows -/

/-- Fill a file with rows. -/
def writeRows (t : FileTree) (place : Place) (rows : List Row) : Except Failure FileTree :=
  match t.write place (Csv.ofRows rows).toUTF8 with
  | .ok t => .ok t
  | .error e => .error (.io e.message)

/-- Write rows to a file of a given name, whatever was there, and make its directory. -/
def writeCsv (t : FileTree) (rows : List Row) (path : String) : Except Failure FileTree :=
  match t.ensureDirectory ((Files.Path.parent? path).getD "") with
  | (.error e, _) => .error (.io e.message)
  | (.ok (), t) =>
      match t.create path with
      | .error e => .error (.batch path ("failed to create output: " ++ e.message))
      | .ok (place, t) => writeRows t place rows

end ThreatMarker.Batch
