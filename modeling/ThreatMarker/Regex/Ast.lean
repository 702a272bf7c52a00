import ThreatMarker.Unicode.CharSet
/-
# Patterns as they are written

The tree of a pattern before any flag is applied: which characters a literal or a class stands for
is decided later, by `Expr.ofAst`.  `Ast.depth` counts the nesting of groups, repetitions, branches
and brackets, which `Pattern.parse` bounds.
-/

namespace ThreatMarker.Regex

set_option autoImplicit false

/-- Why a pattern is refused. -/
inductive PatternError where
  | groupUnclosed
  | groupUnopened
  | groupNameInvalid
  | groupNameRepeated
  | lookAround
  | backreference
  | flagUnrecognized
  | flagRepeated
  | flagDangling
  | flagsUnfinished
  | repetitionMissing
  | repetitionUnclosed
  | repetitionInvalid
  | decimalInvalid
  | escapeUnfinished
  | escapeUnrecognized
  | escapeHexInvalid
  | boundaryUnrecognized
  | classUnclosed
  | classRangeInvalid
  | classRangeLiteral
  | classEscapeInvalid
  | nestTooDeep
  | unicodeNotAllowed
  | bytesNotAllowed
  | propertyUnknown
  | tooLarge
  deriving Repr, DecidableEq

/-- A setting that a pattern can switch for the rest of a group. -/
inductive Flag where
  | caseInsensitive
  | multiLine
  | dotMatchesNewline
  | swapGreed
  | unicode
  | crlf
  | verbose
  deriving Repr, DecidableEq

/-- The letter of a flag. -/
def Flag.ofChar? : Char → Option Flag
  | 'i' => some .caseInsensitive
  | 'm' => some .multiLine
  | 's' => some .dotMatchesNewline
  | 'U' => some .swapGreed
  | 'u' => some .unicode
  | 'R' => some .crlf
  | 'x' => some .verbose
  | _ => none

/-- A flag and the value it is set to. -/
abbrev FlagChange := Flag × Bool

/-- The classes `\d`, `\s` and `\w`. -/
inductive Shorthand where
  | digit
  | space
  | word
  deriving Repr, DecidableEq

/-- The class named by `\p`. -/
inductive PropertyQuery where
  | named (name : String)
  | valued (name value : String)
  deriving Repr, DecidableEq

/-- The classes written `[:name:]` inside brackets. -/
inductive PosixClass where
  | alnum | alpha | ascii | blank | cntrl | digit | graph | lower | print | punct | space | upper
  | word | xdigit
  deriving Repr, DecidableEq

/-- The set operators inside brackets. -/
inductive SetOp where
  | inter
  | diff
  | symmDiff
  deriving Repr, DecidableEq

/-- What stands between brackets. -/
inductive ClassAst where
  | empty
  | range (lo hi : Char)
  | posix (kind : PosixClass) (negated : Bool)
  | shorthand (kind : Shorthand) (negated : Bool)
  | property (query : PropertyQuery) (negated : Bool)
  | bracket (negated : Bool) (inner : ClassAst)
  | union (first second : ClassAst)
  | combine (op : SetOp) (first second : ClassAst)
  deriving Repr, DecidableEq

/-- A condition on a place in the text, as it is written. -/
inductive Assertion where
  | lineStart
  | lineEnd
  | textStart
  | textEnd
  | boundary
  | notBoundary
  | wordStart
  | wordEnd
  | wordStartHalf
  | wordEndHalf
  deriving Repr, DecidableEq

/-- A pattern as it is written. -/
inductive Ast where
  | empty
  | flags (changes : List FlagChange)
  | literal (value : Char)
  | dot
  | assertion (kind : Assertion)
  | shorthand (kind : Shorthand) (negated : Bool)
  | property (query : PropertyQuery) (negated : Bool)
  | bracket (negated : Bool) (inner : ClassAst)
  | times (least : Nat) (most : Option Nat) (body : Ast)
  | group (changes : List FlagChange) (body : Ast)
  | concat (first second : Ast)
  | alternate (first second : Ast)
  deriving Repr, DecidableEq

/-! ## Depth -/

namespace ClassAst

/-- How deeply brackets, set operators and lists of items are nested. -/
def depth : ClassAst → Nat
  | .bracket _ inner => inner.depth + 1
  | .combine _ a b => max a.depth b.depth + 1
  | .union a b =>
      match a with
      | .union _ _ => max a.depth (b.depth + 1)
      | _ => max a.depth b.depth + 1
  | _ => 0

end ClassAst

namespace Ast

/-- How deeply groups, repetitions, sequences, branches and brackets are nested.  A sequence or a
list of branches counts once, however many parts it has. -/
def depth : Ast → Nat
  | .bracket _ inner => inner.depth + 1
  | .times _ _ body => body.depth + 1
  | .group _ body => body.depth + 1
  | .concat a b =>
      match b with
      | .concat _ _ => max (a.depth + 1) b.depth
      | _ => max a.depth b.depth + 1
  | .alternate a b =>
      match b with
      | .alternate _ _ => max (a.depth + 1) b.depth
      | _ => max a.depth b.depth + 1
  | _ => 0

/-- A sequence of parts. -/
def ofSequence : List Ast → Ast
  | [] => .empty
  | [a] => a
  | a :: rest => .concat a (ofSequence rest)

/-- A choice of branches. -/
def ofBranches : List Ast → Ast
  | [] => .empty
  | [a] => a
  | a :: rest => .alternate a (ofBranches rest)

end Ast

end ThreatMarker.Regex
