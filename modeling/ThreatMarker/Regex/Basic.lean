import ThreatMarker.Regex.Search
import ThreatMarker.Regex.Size
/-
# Regular expressions

`Regex.compile?` reads a pattern, without regard to case unless the pattern says otherwise, and
refuses one whose automaton is too large.  `Regex.isMatch` searches a text for it.
-/

namespace ThreatMarker

set_option autoImplicit false

/-- A pattern that was read and accepted. -/
structure Regex where
  source : String
  expr : Regex.Expr
  deriving Repr, DecidableEq

namespace Regex

/-- Read a pattern without regard to case. -/
def compile? (pattern : String) : Except PatternError Regex := do
  let tree ← Ast.parse pattern.toList
  let (expr, _) ← Expr.ofAst { caseInsensitive := true } tree
  if expr.cost ≤ sizeLimit then .ok ⟨pattern, expr⟩ else .error .tooLarge

/-- Whether the pattern matches somewhere in the text. -/
def isMatch (r : Regex) (text : String) : Bool := r.expr.occursIn text.toList.toArray

end Regex

end ThreatMarker
