import ThreatMarker.Regex.Expr
import ThreatMarker.Unicode.Utf8Ranges
/-
# The size of a compiled pattern

A pattern is refused if the automaton that matches its UTF-8 text from right to left would be too
large.  The automaton is not built here; `Expr.cost` computes its size in bytes.  A state takes 32
bytes, an edge of a byte class 8 more, and an edge of a choice 4 more.  A class that is not confined
to ASCII is a tree of byte ranges with one state for each prefix of an encoded range.
-/

namespace ThreatMarker.Regex

set_option autoImplicit false

open Unicode (CharSet)

/-- The bytes that one state takes. -/
def stateCost : Nat := 32

/-- The bytes that one edge of a byte class takes. -/
def edgeCost : Nat := 8

/-- The bytes that one branch of a choice takes. -/
def branchCost : Nat := 4

/-- The size of the automaton of a class. -/
def setCost (s : CharSet) : Nat :=
  match s.ranges with
  | [(lo, hi)] =>
      if lo == hi then stateCost * Unicode.utf8Length lo
      else if s.isAscii then 2 * stateCost + edgeCost
      else treeCost s
  | ranges => if s.isAscii then 2 * stateCost + edgeCost * ranges.length else treeCost s
where
  /-- The size of the tree of encoded ranges of a class. -/
  treeCost (s : CharSet) : Nat :=
    let sequences := s.ranges.flatMap (fun r => Unicode.utf8Ranges r.1 r.2)
    2 * stateCost + stateCost * Unicode.countPrefixes sequences + branchCost * sequences.length

/-- The size of the automaton of an expression. -/
def Expr.cost : Expr → Nat
  | .empty => stateCost
  | .chars s => setCost s
  | .look _ => stateCost
  | .concat a b => a.cost + b.cost
  | .alternate a b => a.cost + b.cost + 2 * stateCost + 2 * branchCost
  | .times least most body =>
      let choice := stateCost + 2 * branchCost
      match most with
      | none => max least 1 * body.cost + choice
      | some m => least * body.cost + (m - least) * (body.cost + choice) + stateCost

/-- The largest automaton that is accepted. -/
def sizeLimit : Nat := 1048576

end ThreatMarker.Regex
