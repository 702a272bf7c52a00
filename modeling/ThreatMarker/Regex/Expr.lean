import ThreatMarker.Regex.Parser
import ThreatMarker.Unicode.Folding
import ThreatMarker.Unicode.Script
/-
# Patterns as sets of texts

An `Expr` is what a pattern means once its flags are applied: every class is a set of characters and
every assertion one condition on a place.  `Expr.ofAst` applies the flags from left to right; a flag
that is set inside a group holds to the end of the group.

Classes fold before they negate: `[^a]` without regard to case excludes `a` and `A`.  Patterns match
text, so a class that could match part of a character is refused (`bytesNotAllowed`).
-/

namespace ThreatMarker.Regex

set_option autoImplicit false

open Unicode (CharSet)

/-- A condition on a place in the text. -/
inductive Look where
  | textStart
  | textEnd
  | lineStart
  | lineEnd
  | lineStartCrlf
  | lineEndCrlf
  | boundary (unicode : Bool)
  | notBoundary (unicode : Bool)
  | wordStart (unicode : Bool)
  | wordEnd (unicode : Bool)
  | wordStartHalf (unicode : Bool)
  | wordEndHalf (unicode : Bool)
  deriving Repr, DecidableEq

/-- A regular expression over characters. -/
inductive Expr where
  | empty
  | chars (set : CharSet)
  | look (kind : Look)
  | times (least : Nat) (most : Option Nat) (body : Expr)
  | concat (first second : Expr)
  | alternate (first second : Expr)
  deriving Repr, DecidableEq

/-- The settings in force at one place of a pattern. -/
structure Flags where
  caseInsensitive : Bool := false
  multiLine : Bool := false
  dotMatchesNewline : Bool := false
  unicode : Bool := true
  crlf : Bool := false
  deriving Repr, DecidableEq

namespace Flags

def set (f : Flags) : FlagChange → Flags
  | (.caseInsensitive, b) => { f with caseInsensitive := b }
  | (.multiLine, b) => { f with multiLine := b }
  | (.dotMatchesNewline, b) => { f with dotMatchesNewline := b }
  | (.unicode, b) => { f with unicode := b }
  | (.crlf, b) => { f with crlf := b }
  | (.swapGreed, _) => f
  | (.verbose, _) => f

def setAll (f : Flags) (changes : List FlagChange) : Flags := changes.foldl set f

end Flags

/-! ## Classes -/

/-- `[0-9A-Za-z_]`. -/
def asciiWord : CharSet := ⟨[(0x30, 0x39), (0x41, 0x5A), (0x5F, 0x5F), (0x61, 0x7A)]⟩

/-- Letters, marks, decimal digits, connector punctuation and the two join controls. -/
def unicodeWord : CharSet :=
  let named := fun (s : Option CharSet) => s.getD .empty
  ((((named (Unicode.property? "alphabetic")).union (named (Unicode.category? "m"))).union
    Unicode.decimalDigits).union (named (Unicode.category? "pc"))).union
    (named (Unicode.property? "joinc"))

def PosixClass.set : PosixClass → CharSet
  | .alnum => ⟨[(0x30, 0x39), (0x41, 0x5A), (0x61, 0x7A)]⟩
  | .alpha => ⟨[(0x41, 0x5A), (0x61, 0x7A)]⟩
  | .ascii => ⟨[(0x00, 0x7F)]⟩
  | .blank => ⟨[(0x09, 0x09), (0x20, 0x20)]⟩
  | .cntrl => ⟨[(0x00, 0x1F), (0x7F, 0x7F)]⟩
  | .digit => ⟨[(0x30, 0x39)]⟩
  | .graph => ⟨[(0x21, 0x7E)]⟩
  | .lower => ⟨[(0x61, 0x7A)]⟩
  | .print => ⟨[(0x20, 0x7E)]⟩
  | .punct => ⟨[(0x21, 0x2F), (0x3A, 0x40), (0x5B, 0x60), (0x7B, 0x7E)]⟩
  | .space => ⟨[(0x09, 0x0D), (0x20, 0x20)]⟩
  | .upper => ⟨[(0x41, 0x5A)]⟩
  | .word => asciiWord
  | .xdigit => ⟨[(0x30, 0x39), (0x41, 0x46), (0x61, 0x66)]⟩

/-- The class of a shorthand, over all of the character database or over ASCII. -/
def Shorthand.set (unicode : Bool) : Shorthand → CharSet
  | .digit => if unicode then Unicode.decimalDigits else PosixClass.digit.set
  | .space => if unicode then Unicode.whiteSpace else PosixClass.space.set
  | .word => if unicode then unicodeWord else asciiWord

/-- A name in its loose form: lower case ASCII letters, without blanks, hyphens, underscores and a
leading `is`.  The abbreviation `isc` is a name of its own. -/
def looseName (name : String) : String :=
  let lower := name.toList.map Char.toLower
  let startsWithIs := ['i', 's'].isPrefixOf lower
  let body := if startsWithIs then lower.drop 2 else lower
  let kept := body.filter (fun c => c.toNat < 128 && c != ' ' && c != '_' && c != '-')
  if startsWithIs && kept == ['c'] then "isc" else String.ofList kept

/-- The class of a name that may be a property, a category or a script, in this order. -/
def namedClass? (name : String) : Option CharSet :=
  let property :=
    if name == "cf" || name == "sc" || name == "lc" then none else Unicode.property? name
  match property with
  | some s => some s
  | none =>
      match name with
      | "any" => some .univ
      | "ascii" => some PosixClass.ascii.set
      | "assigned" => (Unicode.category? "cn").map CharSet.compl
      | _ =>
          match Unicode.category? name with
          | some s => some s
          | none => Unicode.script? name

/-- The class of a property query. -/
def PropertyQuery.set? : PropertyQuery → Option CharSet
  | .named name => namedClass? (looseName name)
  | .valued name value =>
      let value := looseName value
      match looseName name with
      | "gc" | "generalcategory" =>
          match value with
          | "any" => some .univ
          | "ascii" => some PosixClass.ascii.set
          | "assigned" => (Unicode.category? "cn").map CharSet.compl
          | _ => Unicode.category? value
      | "sc" | "script" => Unicode.script? value
      | "scx" | "scriptextensions" => Unicode.scriptExtensions? value
      | _ => none

namespace Flags

/-- Fold a class where case does not matter. -/
def fold (f : Flags) (s : CharSet) : CharSet :=
  if f.caseInsensitive then
    if f.unicode then s.foldClosure
    else
      let lower := s.inter PosixClass.lower.set
      let upper := s.inter PosixClass.upper.set
      let shift := fun (t : CharSet) (move : Nat → Nat) =>
        (⟨t.ranges.map (fun r => (move r.1, move r.2))⟩ : CharSet)
      (s.union (shift lower (· - 32))).union (shift upper (· + 32))
  else s

/-- Fold a class and then negate it. -/
def finish (f : Flags) (negated : Bool) (s : CharSet) : CharSet :=
  let s := f.fold s
  if negated then s.compl else s

/-- Outside Unicode mode only a class of ASCII characters matches whole characters. -/
def whole (f : Flags) (s : CharSet) : Except PatternError CharSet :=
  if f.unicode || s.isAscii then .ok s else .error .bytesNotAllowed

/-- The class of a shorthand; it is closed under folding already. -/
def shorthand (f : Flags) (kind : Shorthand) (negated : Bool) : CharSet :=
  let s := kind.set f.unicode
  if negated then s.compl else s

/-- The class of a property; properties belong to Unicode mode. -/
def property (f : Flags) (query : PropertyQuery) (negated : Bool) : Except PatternError CharSet :=
  if f.unicode then
    match query.set? with
    | some s => .ok (f.finish negated s)
    | none => .error .propertyUnknown
  else .error .unicodeNotAllowed

/-- Outside Unicode mode a literal is an ASCII character. -/
def checkLiteral (f : Flags) (c : Char) : Except PatternError Unit :=
  if f.unicode || c.toNat < 128 then .ok () else .error .unicodeNotAllowed

end Flags

/-- The set that stands between brackets, before the outermost folding and negation. -/
def ClassAst.toSet (f : Flags) : ClassAst → Except PatternError CharSet
  | .empty => .ok .empty
  | .range lo hi => do
      f.checkLiteral lo
      f.checkLiteral hi
      .ok (.range lo.toNat hi.toNat)
  | .posix kind negated => f.whole (f.finish negated kind.set)
  | .shorthand kind negated => f.whole (f.shorthand kind negated)
  | .property query negated => f.property query negated
  | .bracket negated inner => do f.whole (f.finish negated (← inner.toSet f))
  | .union a b => do .ok ((← a.toSet f).union (← b.toSet f))
  | .combine op a b => do
      let a := f.fold (← a.toSet f)
      let b := f.fold (← b.toSet f)
      match op with
      | .inter => .ok (a.inter b)
      | .diff => .ok (a.diff b)
      | .symmDiff => .ok (a.symmDiff b)

/-! ## Assertions -/

/-- The condition of an assertion. -/
def Assertion.look (f : Flags) : Assertion → Look
  | .lineStart =>
      if f.multiLine then (if f.crlf then .lineStartCrlf else .lineStart) else .textStart
  | .lineEnd => if f.multiLine then (if f.crlf then .lineEndCrlf else .lineEnd) else .textEnd
  | .textStart => .textStart
  | .textEnd => .textEnd
  | .boundary => .boundary f.unicode
  | .notBoundary => .notBoundary f.unicode
  | .wordStart => .wordStart f.unicode
  | .wordEnd => .wordEnd f.unicode
  | .wordStartHalf => .wordStartHalf f.unicode
  | .wordEndHalf => .wordEndHalf f.unicode

/-! ## Building expressions -/

namespace Expr

/-- A sequence; the empty expression adds nothing to it. -/
def mkConcat : Expr → Expr → Expr
  | .empty, e => e
  | e, .empty => e
  | e₁, e₂ => .concat e₁ e₂

/-- A choice; two classes make one. -/
def mkAlternate : Expr → Expr → Expr
  | .chars s, .chars t => .chars (s.union t)
  | e₁, e₂ => .alternate e₁ e₂

/-- The expression matches the empty text only, where it matches at all. -/
def isEmptyOnly : Expr → Bool
  | .empty => true
  | .chars _ => false
  | .look _ => true
  | .times _ most body => body.isEmptyOnly || most == some 0
  | .concat a b => a.isEmptyOnly && b.isEmptyOnly
  | .alternate a b => a.isEmptyOnly && b.isEmptyOnly

/-- A repetition; repeating what matches only the empty text once is repeating it for ever. -/
def mkTimes (least : Nat) (most : Option Nat) (body : Expr) : Expr :=
  if most == some 0 then .empty
  else
    let least := if body.isEmptyOnly then min least 1 else least
    let most := if body.isEmptyOnly then most.map (min · 1) else most
    if least == 1 && most == some 1 then body else .times least most body

/-- The class of the dot. -/
def dot (f : Flags) : CharSet :=
  if f.dotMatchesNewline then .univ
  else if f.crlf then (CharSet.ofRanges [(0x0A, 0x0A), (0x0D, 0x0D)]).compl
  else (CharSet.singleton '\n').compl

/-- The expression of a tree and the flags in force after it. -/
def ofAst (f : Flags) : Ast → Except PatternError (Expr × Flags)
  | .empty => .ok (.empty, f)
  | .flags changes => .ok (.empty, f.setAll changes)
  | .literal c => do
      f.checkLiteral c
      .ok (.chars (f.fold (.singleton c)), f)
  | .dot => if f.unicode then .ok (.chars (dot f), f) else .error .bytesNotAllowed
  | .assertion kind => .ok (.look (kind.look f), f)
  | .shorthand kind negated => do .ok (.chars (← f.whole (f.shorthand kind negated)), f)
  | .property query negated => do .ok (.chars (← f.property query negated), f)
  | .bracket negated inner => do
      .ok (.chars (← f.whole (f.finish negated (← inner.toSet f))), f)
  | .times least most body => do
      let (e, f') ← ofAst f body
      .ok (mkTimes least most e, f')
  | .group changes body => do
      let (e, _) ← ofAst (f.setAll changes) body
      .ok (e, f)
  | .concat a b => do
      let (e₁, f₁) ← ofAst f a
      let (e₂, f₂) ← ofAst f₁ b
      .ok (mkConcat e₁ e₂, f₂)
  | .alternate a b => do
      let (e₁, f₁) ← ofAst f a
      let (e₂, f₂) ← ofAst f₁ b
      .ok (mkAlternate e₁ e₂, f₂)

end Expr

end ThreatMarker.Regex
