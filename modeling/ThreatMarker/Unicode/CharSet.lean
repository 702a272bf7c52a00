/-
# Sets of characters

A set of code points is a list of inclusive ranges in ascending order.  The operations here keep the
list ascending and coalesced, so that `contains` may stop at the first range that begins past the
character: a test of an ASCII character looks at the first few ranges only, however large the set.

Everything recurses on the list of ranges: a range is added by `insertRange`, the complement is made of
the `gaps`, and the other operations are built from these two.
-/

namespace ThreatMarker.Unicode

set_option autoImplicit false

/-- The largest code point. -/
def maxCodePoint : Nat := 0x10FFFF

/-- A set of characters as ascending inclusive ranges of code points. -/
structure CharSet where
  ranges : List (Nat × Nat)
  deriving Repr, DecidableEq, Inhabited

namespace CharSet

/-! ## Ranges -/

/-- Membership in ascending ranges; stops at the first range that begins past `n`. -/
def memRanges : List (Nat × Nat) → Nat → Bool
  | [], _ => false
  | (lo, hi) :: rest, n =>
      if n < lo then false else if n ≤ hi then true else memRanges rest n

/-- Add a range to ascending ranges, joining it with those it meets or touches. -/
def insertRange (lo hi : Nat) : List (Nat × Nat) → List (Nat × Nat)
  | [] => [(lo, hi)]
  | (a, b) :: rest =>
      if hi + 1 < a then (lo, hi) :: (a, b) :: rest
      else if b + 1 < lo then (a, b) :: insertRange lo hi rest
      else insertRange (min lo a) (max hi b) rest

/-- The code points from `start` on that lie in none of the ascending ranges. -/
def gaps (start : Nat) : List (Nat × Nat) → List (Nat × Nat)
  | [] => if start ≤ maxCodePoint then [(start, maxCodePoint)] else []
  | (a, b) :: rest =>
      if start < a then (start, a - 1) :: gaps (b + 1) rest else gaps (b + 1) rest

/-! ## Sets -/

def empty : CharSet := ⟨[]⟩

/-- Every character. -/
def univ : CharSet := ⟨[(0, maxCodePoint)]⟩

def range (lo hi : Nat) : CharSet := ⟨[(lo, hi)]⟩

def singleton (c : Char) : CharSet := range c.toNat c.toNat

def contains (s : CharSet) (c : Char) : Bool := memRanges s.ranges c.toNat

/-- The set of the given ranges, in any order. -/
def ofRanges (rs : List (Nat × Nat)) : CharSet :=
  ⟨rs.foldl (fun acc r => insertRange r.1 r.2 acc) []⟩

def union (s t : CharSet) : CharSet :=
  ⟨t.ranges.foldl (fun acc r => insertRange r.1 r.2 acc) s.ranges⟩

def compl (s : CharSet) : CharSet := ⟨gaps 0 s.ranges⟩

def inter (s t : CharSet) : CharSet := (s.compl.union t.compl).compl

def diff (s t : CharSet) : CharSet := s.inter t.compl

def symmDiff (s t : CharSet) : CharSet := (s.diff t).union (t.diff s)

/-- Every member is an ASCII character. -/
def isAscii (s : CharSet) : Bool := s.ranges.all (fun r => r.2 < 128)

end CharSet

end ThreatMarker.Unicode
