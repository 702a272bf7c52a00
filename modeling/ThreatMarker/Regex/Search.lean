import ThreatMarker.Regex.Expr
import ThreatMarker.Regex.Positions
/-
# Searching a text

`Expr.ends t e s` is the set of places where a match of `e` in the text `t` can end if it begins at
a place of `s`.  Sets of places make the search total and free of backtracking: a sequence composes
two such maps, a choice unites them, and a repetition iterates one.  An iteration only continues from
places it has not reached before, so that it ends after at most as many rounds as the text has
places.

A text matches if some place of it begins a match.  Which match is preferred plays no part in that,
so greedy and lazy repetition are the same thing here.
-/

namespace ThreatMarker.Regex

set_option autoImplicit false

/-- A text with constant-time access. -/
abbrev Text := Array Char

/-! ## Conditions on a place -/

/-- The character before a place. -/
def Text.before? (t : Text) (i : Nat) : Option Char := if i = 0 then none else t[i - 1]?

/-- A word character, in the sense of the whole character database or of ASCII. -/
def isWordChar (unicode : Bool) (c : Option Char) : Bool :=
  match c with
  | none => false
  | some c =>
      if c.toNat < 128 then asciiWord.contains c else unicode && unicodeWord.contains c

/-- Whether a condition holds at a place. -/
def Look.holds (t : Text) (i : Nat) : Look → Bool
  | .textStart => i == 0
  | .textEnd => i == t.size
  | .lineStart => i == 0 || t.before? i == some '\n'
  | .lineEnd => i == t.size || t[i]? == some '\n'
  | .lineStartCrlf =>
      i == 0 || t.before? i == some '\n' || (t.before? i == some '\r' && t[i]? != some '\n')
  | .lineEndCrlf =>
      i == t.size || t[i]? == some '\r' || (t[i]? == some '\n' && t.before? i != some '\r')
  | .boundary u => isWordChar u (t.before? i) != isWordChar u t[i]?
  | .notBoundary u => isWordChar u (t.before? i) == isWordChar u t[i]?
  | .wordStart u => !isWordChar u (t.before? i) && isWordChar u t[i]?
  | .wordEnd u => isWordChar u (t.before? i) && !isWordChar u t[i]?
  | .wordStartHalf u => !isWordChar u (t.before? i)
  | .wordEndHalf u => !isWordChar u t[i]?

/-! ## Ends of matches -/

/-- Apply a map of places `n` times; an empty set stays empty. -/
def iterate (f : Positions → Positions) : Nat → Positions → Positions
  | 0, s => s
  | n + 1, s => if s.isEmpty then [] else iterate f n (f s)

/-- All places reached from `frontier` in at most `rounds` rounds, together with those in `seen`. -/
def saturate (f : Positions → Positions) : Nat → Positions → Positions → Positions
  | 0, seen, _ => seen
  | rounds + 1, seen, frontier =>
      let fresh := Positions.diff (f frontier) seen
      if fresh.isEmpty then seen else saturate f rounds (Positions.union fresh seen) fresh

/-- Where the matches that begin in a set of places can end. -/
def Expr.ends (t : Text) : Expr → Positions → Positions
  | .empty, s => s
  | .chars set, s => (s.filter (fun i => (t[i]?).any set.contains)).map (· + 1)
  | .look kind, s => s.filter (fun i => kind.holds t i)
  | .concat a b, s =>
      let mid := a.ends t s
      if mid.isEmpty then [] else b.ends t mid
  | .alternate a b, s => Positions.union (a.ends t s) (b.ends t s)
  | .times least most body, s =>
      let start := iterate (body.ends t) least s
      let rounds := match most with
        | some m => min (m - least) (t.size + 1)
        | none => t.size + 1
      saturate (body.ends t) rounds start start

/-- Whether the expression matches somewhere in the text. -/
def Expr.occursIn (e : Expr) (t : Text) : Bool := !(e.ends t (Positions.upTo t.size)).isEmpty

end ThreatMarker.Regex
