import ThreatMarker.Decimal.Binary64
/-
# Natural numbers

The text of a natural number: ASCII digits, after a plus sign or not.
-/

namespace ThreatMarker.Decimal

set_option autoImplicit false

/-- Read ASCII digits, at least one. -/
def readDigits? (ds : List Char) : Option Nat :=
  if ds.isEmpty || !ds.all Char.isDigit then none else some (Binary64.ofDigits ds)

/-- Read a natural number of at most `limit`. -/
def readNatural? (limit : Nat) (text : List Char) : Option Nat :=
  let digits := match text with
    | '+' :: ds => ds
    | ds => ds
  (readDigits? digits).filter (· ≤ limit)

/-- The largest number of 32 bits. -/
def maxNat32 : Nat := Nat.pow 2 32 - 1

/-- The largest number of 64 bits. -/
def maxNat64 : Nat := Nat.pow 2 64 - 1

theorem readNatural?_le {limit n : Nat} {text : List Char} (h : readNatural? limit text = some n) :
    n ≤ limit := by
  simp only [readNatural?, Option.filter_eq_some_iff, decide_eq_true_eq] at h
  exact h.2

end ThreatMarker.Decimal
