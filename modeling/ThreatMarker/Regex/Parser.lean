import ThreatMarker.Regex.Ast
import ThreatMarker.Unicode.Blank
import ThreatMarker.Unicode.Category
import ThreatMarker.Unicode.Property
/-
# Reading a pattern

`Ast.parse` reads a pattern into its tree.  The reader of the whole pattern is one loop over the
characters with a stack of open groups; the reader of a bracketed class calls itself for nested
brackets.  Both take a fuel that their wrapper sets to the length of the pattern: every step
consumes a character, so it never runs out.

In verbose mode blanks and `#` comments between the parts of a pattern mean nothing, except that
they separate; `skipBlanks` drops them where they may stand.
-/

namespace ThreatMarker.Regex

set_option autoImplicit false

/-- The result of a reader: a value and the rest of the pattern. -/
abbrev Read (α : Type) := Except PatternError (α × List Char)

/-! ## Blanks and comments -/

/-- The pattern after blanks and comments. -/
def dropComments (inComment : Bool) : List Char → List Char
  | [] => []
  | c :: cs =>
      if inComment then dropComments (c != '\n') cs
      else if Unicode.isBlank c then dropComments false cs
      else if c == '#' then dropComments true cs
      else c :: cs

/-- In verbose mode, the pattern after blanks and comments. -/
def skipBlanks (verbose : Bool) (cs : List Char) : List Char :=
  if verbose then dropComments false cs else cs

/-! ## Character classes of the pattern language -/

def isHexDigit (c : Char) : Bool :=
  c.isDigit || ('a' ≤ c && c ≤ 'f') || ('A' ≤ c && c ≤ 'F')

def hexValue (c : Char) : Nat :=
  if c.isDigit then c.toNat - '0'.toNat
  else if 'a' ≤ c && c ≤ 'f' then c.toNat - 'a'.toNat + 10
  else c.toNat - 'A'.toNat + 10

def ofHexDigits (cs : List Char) : Nat := cs.foldl (fun n c => n * 16 + hexValue c) 0

/-- The character with a number, unless it is a surrogate or too large. -/
def scalar? (n : Nat) : Option Char := if h : n.isValidChar then some (Char.ofNatAux n h) else none

/-- Characters that a backslash always takes literally. -/
def isMeta (c : Char) : Bool := "\\.+*?()|[]\x7b\x7d^$#&-~".toList.contains c

/-- Characters that a backslash may stand before although they have no other meaning. -/
def isEscapable (c : Char) : Bool :=
  isMeta c || (c.toNat < 128 && !c.isAlphanum && c != '<' && c != '>')

def isNameStart (c : Char) : Bool :=
  c == '_' || ((Unicode.property? "alphabetic").any (·.contains c))

def isNameRest (c : Char) : Bool :=
  isNameStart c || c == '.' || c == '[' || c == ']' || ((Unicode.category? "n").any (·.contains c))

/-! ## Escapes -/

/-- What a pattern is made of besides groups, classes and operators. -/
inductive Primitive where
  | literal (value : Char)
  | assertion (kind : Assertion)
  | dot
  | shorthand (kind : Shorthand) (negated : Bool)
  | property (query : PropertyQuery) (negated : Bool)
  deriving Repr, DecidableEq

def Primitive.toAst : Primitive → Ast
  | .literal v => .literal v
  | .assertion k => .assertion k
  | .dot => .dot
  | .shorthand k n => .shorthand k n
  | .property q n => .property q n

/-- A literal given by its number. -/
def numericLiteral (digits : List Char) (rest : List Char) : Read Primitive :=
  match scalar? (ofHexDigits digits) with
  | some c => .ok (.literal c, rest)
  | none => .error .escapeHexInvalid

/-- Exactly `n` hexadecimal digits. -/
def readHexDigits (verbose : Bool) : Nat → List Char → List Char → Read (List Char)
  | 0, acc, cs => .ok (acc.reverse, cs)
  | n + 1, acc, cs =>
      match cs with
      | [] => .error .escapeUnfinished
      | c :: rest =>
          if isHexDigit c then readHexDigits verbose n (c :: acc) (skipBlanks verbose rest)
          else .error .escapeHexInvalid

/-- The characters up to a closing brace; blanks among them are dropped in verbose mode. -/
def readBraced (verbose : Bool) : Nat → List Char → List Char → Read (List Char)
  | 0, _, _ => .error .escapeUnfinished
  | fuel + 1, acc, cs =>
      match skipBlanks verbose cs with
      | [] => .error .escapeUnfinished
      | '\x7d' :: rest => .ok (acc.reverse, rest)
      | c :: rest => readBraced verbose fuel (c :: acc) rest

/-- The rest of `\x`, `\u` or `\U`. -/
def readHex (verbose : Bool) (digits : Nat) (cs : List Char) :
    Except PatternError (Primitive × List Char) := do
  match skipBlanks verbose cs with
  | [] => .error .escapeUnfinished
  | '\x7b' :: rest =>
      let (ds, rest) ← readBraced verbose (rest.length + 1) [] rest
      if ds.isEmpty || !ds.all isHexDigit then .error .escapeHexInvalid
      else numericLiteral ds (skipBlanks verbose rest)
  | cs =>
      let (ds, rest) ← readHexDigits verbose digits [] cs
      numericLiteral ds rest

/-- Cut a text at the first place where `mark` stands. -/
def cutAt (mark : List Char) : List Char → List Char → Option (List Char × List Char)
  | _, [] => none
  | before, c :: cs =>
      if mark.isPrefixOf (c :: cs) then some (before.reverse, (c :: cs).drop mark.length)
      else cutAt mark (c :: before) cs

/-- What a class name between braces asks for, and whether it negates. -/
def PropertyQuery.ofName (name : List Char) : PropertyQuery × Bool :=
  let valued := fun (p : List Char × List Char) =>
    PropertyQuery.valued (String.ofList p.1) (String.ofList p.2)
  match cutAt ['!', '='] [] name with
  | some p => (valued p, true)
  | none =>
      match cutAt [':'] [] name with
      | some p => (valued p, false)
      | none =>
          match cutAt ['='] [] name with
          | some p => (valued p, false)
          | none => (.named (String.ofList name), false)

/-- The rest of `\p` or `\P`. -/
def readProperty (verbose negated : Bool) (cs : List Char) :
    Except PatternError (Primitive × List Char) := do
  match skipBlanks verbose cs with
  | [] => .error .escapeUnfinished
  | '\x7b' :: rest =>
      let (name, rest) ← readBraced verbose (rest.length + 1) [] rest
      let (query, differs) := PropertyQuery.ofName name
      .ok (.property query (negated != differs), rest)
  | '\\' :: _ => .error .propertyUnknown
  | c :: rest => .ok (.property (.named (String.singleton c)) negated, skipBlanks verbose rest)

/-- A word boundary that is named in braces, if it is one. -/
def readBoundary (verbose : Bool) (cs : List Char) : Read Primitive :=
  let plain : Read Primitive := .ok (.assertion .boundary, cs)
  let isNameChar := fun (c : Char) => c.isAlpha || c == '-'
  match cs with
  | '\x7b' :: rest =>
      match skipBlanks verbose rest with
      | [] => .error .boundaryUnrecognized
      | c :: rest =>
          if !isNameChar c then plain
          else
            match readBraced verbose (rest.length + 2) [] (c :: rest) with
            | .error _ => .error .boundaryUnrecognized
            | .ok (name, rest) =>
                match String.ofList name with
                | "start" => .ok (.assertion .wordStart, rest)
                | "end" => .ok (.assertion .wordEnd, rest)
                | "start-half" => .ok (.assertion .wordStartHalf, rest)
                | "end-half" => .ok (.assertion .wordEndHalf, rest)
                | _ => .error .boundaryUnrecognized
  | _ => plain

/-- What follows a backslash. -/
def readEscape (verbose : Bool) : List Char → Read Primitive
  | [] => .error .escapeUnfinished
  | c :: rest =>
      let literal := fun (code : Nat) =>
        (.ok (.literal (Char.ofNat code), rest) : Read Primitive)
      let assertion := fun (kind : Assertion) => (.ok (.assertion kind, rest) : Read Primitive)
      let shorthand := fun (kind : Shorthand) (negated : Bool) =>
        (.ok (.shorthand kind negated, rest) : Read Primitive)
      if c.isDigit then .error .backreference
      else if isEscapable c then .ok (.literal c, rest)
      else
        match c with
        | 'x' => readHex verbose 2 rest
        | 'u' => readHex verbose 4 rest
        | 'U' => readHex verbose 8 rest
        | 'p' => readProperty verbose false rest
        | 'P' => readProperty verbose true rest
        | 'd' => shorthand .digit false
        | 'D' => shorthand .digit true
        | 's' => shorthand .space false
        | 'S' => shorthand .space true
        | 'w' => shorthand .word false
        | 'W' => shorthand .word true
        | 'a' => literal 7
        | 'f' => literal 12
        | 't' => literal 9
        | 'n' => literal 10
        | 'r' => literal 13
        | 'v' => literal 11
        | 'A' => assertion .textStart
        | 'z' => assertion .textEnd
        | 'b' => readBoundary verbose rest
        | 'B' => assertion .notBoundary
        | '<' => assertion .wordStart
        | '>' => assertion .wordEnd
        | _ => .error .escapeUnrecognized

/-! ## Bracketed classes -/

def PosixClass.ofName? : String → Option PosixClass
  | "alnum" => some .alnum
  | "alpha" => some .alpha
  | "ascii" => some .ascii
  | "blank" => some .blank
  | "cntrl" => some .cntrl
  | "digit" => some .digit
  | "graph" => some .graph
  | "lower" => some .lower
  | "print" => some .print
  | "punct" => some .punct
  | "space" => some .space
  | "upper" => some .upper
  | "word" => some .word
  | "xdigit" => some .xdigit
  | _ => none

/-- A class `[:name:]` or `[:^name:]`, read from its first colon, if there is one. -/
def readPosix? (cs : List Char) : Option (ClassAst × List Char) :=
  match cs with
  | ':' :: rest =>
      let (negated, rest) :=
        match rest with
        | '^' :: more => (true, more)
        | _ => (false, rest)
      match cutAt [':'] [] rest with
      | some (name, ']' :: after) =>
          (PosixClass.ofName? (String.ofList name)).map (fun kind => (.posix kind negated, after))
      | _ => none
  | _ => none

/-- A character or an escape inside brackets. -/
def readClassPrimitive (verbose : Bool) : List Char → Read Primitive
  | [] => .error .classUnclosed
  | '\\' :: rest => readEscape verbose rest
  | c :: rest => .ok (.literal c, rest)

def Primitive.toLiteral : Primitive → Except PatternError Char
  | .literal v => .ok v
  | _ => .error .classRangeLiteral

def Primitive.toClass : Primitive → Except PatternError ClassAst
  | .literal v => .ok (.range v v)
  | .shorthand k n => .ok (.shorthand k n)
  | .property q n => .ok (.property q n)
  | _ => .error .classEscapeInvalid

/-- A single item or a range of a class. -/
def readClassRange (verbose : Bool) (cs : List Char) :
    Except PatternError (ClassAst × List Char) := do
  let (first, rest) ← readClassPrimitive verbose cs
  match skipBlanks verbose rest with
  | [] => .error .classUnclosed
  | '-' :: more =>
      match skipBlanks verbose more with
      | [] => .error .classUnclosed
      | ']' :: _ => .ok (← first.toClass, '-' :: more)
      | '-' :: _ => .ok (← first.toClass, '-' :: more)
      | more =>
          let (second, rest) ← readClassPrimitive verbose more
          let lo ← first.toLiteral
          let hi ← second.toLiteral
          if lo ≤ hi then .ok (.range lo hi, rest) else .error .classRangeInvalid
  | rest => .ok (← first.toClass, rest)

/-- Put one more item into a list of items. -/
def ClassAst.add (items item : ClassAst) : ClassAst :=
  match items with
  | .empty => item
  | _ => .union items item

/-- Apply the set operator that waits for its right side. -/
def ClassAst.close (pending : Option (SetOp × ClassAst)) (items : ClassAst) : ClassAst :=
  match pending with
  | some (op, first) => .combine op first items
  | none => items

/-- The hyphens that may open a class. -/
def readHyphens (verbose : Bool) : Nat → ClassAst → List Char → ClassAst × List Char
  | 0, items, cs => (items, cs)
  | fuel + 1, items, cs =>
      match cs with
      | '-' :: rest =>
          readHyphens verbose fuel (items.add (.range '-' '-'))
            (skipBlanks verbose rest)
      | _ => (items, cs)

/-- The opening of a class after its bracket: negation, hyphens and a closing bracket that is
literal because it comes first. -/
def readClassOpening (verbose : Bool) (cs : List Char) : Bool × ClassAst × List Char :=
  let cs := skipBlanks verbose cs
  let (negated, cs) :=
    match cs with
    | '^' :: rest => (true, skipBlanks verbose rest)
    | _ => (false, cs)
  let (items, cs) := readHyphens verbose cs.length .empty cs
  match items, cs with
  | .empty, ']' :: rest =>
      (negated, .range ']' ']', skipBlanks verbose rest)
  | _, _ => (negated, items, cs)

/-- The items of a class up to its closing bracket. -/
def readClassItems (verbose : Bool) :
    Nat → Option (SetOp × ClassAst) → ClassAst → List Char → Read ClassAst
  | 0, _, _, _ => .error .classUnclosed
  | fuel + 1, pending, items, cs =>
      let operator := fun (op : SetOp) (rest : List Char) =>
        readClassItems verbose fuel (some (op, ClassAst.close pending items)) .empty rest
      match skipBlanks verbose cs with
      | [] => .error .classUnclosed
      | ']' :: rest => .ok (ClassAst.close pending items, rest)
      | '&' :: '&' :: rest => operator .inter rest
      | '-' :: '-' :: rest => operator .diff rest
      | '~' :: '~' :: rest => operator .symmDiff rest
      | '[' :: rest =>
          match readPosix? rest with
          | some (item, rest) => readClassItems verbose fuel pending (items.add item) rest
          | none =>
              let (negated, first, rest) := readClassOpening verbose rest
              match readClassItems verbose fuel none first rest with
              | .error e => .error e
              | .ok (inner, rest) =>
                  readClassItems verbose fuel pending (items.add (.bracket negated inner)) rest
      | cs =>
          match readClassRange verbose cs with
          | .error e => .error e
          | .ok (item, rest) => readClassItems verbose fuel pending (items.add item) rest

/-- A class after its opening bracket. -/
def readClass (verbose : Bool) (cs : List Char) :
    Except PatternError (Ast × List Char) := do
  let (negated, first, rest) := readClassOpening verbose cs
  let (inner, rest) ← readClassItems verbose (rest.length + 1) none first rest
  .ok (.bracket negated inner, rest)

/-! ## Repetition -/

/-- The digits of a count; blanks around them are allowed. -/
def readDigits (verbose : Bool) : Nat → List Char → List Char → List Char × List Char
  | 0, acc, cs => (acc.reverse, cs)
  | fuel + 1, acc, cs =>
      match cs with
      | c :: rest =>
          if c.isDigit then readDigits verbose fuel (c :: acc) (skipBlanks verbose rest)
          else (acc.reverse, cs)
      | [] => (acc.reverse, cs)

/-- A count of at most 32 bits. -/
def readDecimal (verbose : Bool) (cs : List Char) : Read Nat :=
  let cs := cs.dropWhile Unicode.isBlank
  let (digits, cs) := readDigits verbose cs.length [] cs
  let cs := skipBlanks verbose (cs.dropWhile Unicode.isBlank)
  let value := digits.foldl (fun n c => n * 10 + (c.toNat - '0'.toNat)) 0
  if digits.isEmpty || Nat.pow 2 32 ≤ value then .error .decimalInvalid else .ok (value, cs)

/-- The bounds of a counted repetition after its opening brace. -/
def readBounds (verbose : Bool) (cs : List Char) :
    Except PatternError ((Nat × Option Nat) × List Char) := do
  let (least, cs) ← readDecimal verbose (skipBlanks verbose cs)
  match cs with
  | '\x7d' :: rest => .ok ((least, some least), rest)
  | ',' :: rest =>
      match skipBlanks verbose rest with
      | '\x7d' :: rest => .ok ((least, none), rest)
      | rest =>
          let (most, rest) ← readDecimal verbose rest
          match rest with
          | '\x7d' :: rest =>
              if least ≤ most then .ok ((least, some most), rest) else .error .repetitionInvalid
          | _ => .error .repetitionUnclosed
  | _ => .error .repetitionUnclosed

/-- The mark that makes a repetition lazy says nothing about which texts match. -/
def skipLazyMark : List Char → List Char
  | '?' :: rest => rest
  | cs => cs

/-- Repeat the last part of a sequence, kept last first. -/
def repeatLast (least : Nat) (most : Option Nat) : List Ast → Except PatternError (List Ast)
  | [] => .error .repetitionMissing
  | .flags _ :: _ => .error .repetitionMissing
  | .empty :: _ => .error .repetitionMissing
  | part :: parts => .ok (.times least most part :: parts)

/-! ## Groups -/

/-- The flags after `(?`, up to the `:` or `)` that ends them. -/
def readFlags : Bool → Bool → List FlagChange → List Char → Read (List FlagChange)
  | _, _, _, [] => .error .flagsUnfinished
  | negated, dangling, acc, c :: rest =>
      if c == ':' || c == ')' then
        if dangling then .error .flagDangling else .ok (acc.reverse, c :: rest)
      else if c == '-' then
        if negated then .error .flagRepeated else readFlags true true acc rest
      else
        match Flag.ofChar? c with
        | none => .error .flagUnrecognized
        | some flag =>
            if acc.any (fun change => change.1 == flag) then .error .flagRepeated
            else readFlags negated false ((flag, !negated) :: acc) rest

/-- The name of a group, up to its closing angle bracket. -/
def readGroupName : List Char → List Char → Read (List Char)
  | _, [] => .error .groupNameInvalid
  | acc, c :: rest =>
      if c == '>' then
        if acc.isEmpty then .error .groupNameInvalid else .ok (acc.reverse, rest)
      else if (if acc.isEmpty then isNameStart c else isNameRest c) then
        readGroupName (c :: acc) rest
      else .error .groupNameInvalid

/-- How a group begins: with flags for the rest of the group around it, or with its own body. -/
inductive GroupOpening where
  | flags (changes : List FlagChange)
  | named (name : List Char)
  | body (changes : List FlagChange)
  deriving Repr, DecidableEq

/-- What stands between the parenthesis of a group and its body. -/
def readGroupOpening (verbose : Bool) (cs : List Char) :
    Except PatternError (GroupOpening × List Char) := do
  match skipBlanks verbose cs with
  | '?' :: '=' :: _ => .error .lookAround
  | '?' :: '!' :: _ => .error .lookAround
  | '?' :: '<' :: '=' :: _ => .error .lookAround
  | '?' :: '<' :: '!' :: _ => .error .lookAround
  | '?' :: 'P' :: '<' :: rest =>
      let (name, rest) ← readGroupName [] rest
      .ok (.named name, rest)
  | '?' :: '<' :: rest =>
      let (name, rest) ← readGroupName [] rest
      .ok (.named name, rest)
  | '?' :: rest =>
      let (changes, rest) ← readFlags false false [] rest
      match rest with
      | ')' :: rest =>
          if changes.isEmpty then .error .repetitionMissing else .ok (.flags changes, rest)
      | rest => .ok (.body changes, rest.drop 1)
  | cs => .ok (.body [], cs)

/-! ## The whole pattern -/

/-- The value that a list of changes gives a flag, if it sets it. -/
def flagValue? (flag : Flag) (changes : List FlagChange) : Option Bool :=
  (changes.find? (fun change => change.1 == flag)).map (·.2)

/-- The parts read so far at one level of nesting, last first. -/
structure Level where
  branches : List Ast := []
  parts : List Ast := []
  deriving Repr, DecidableEq

namespace Level

def push (l : Level) (part : Ast) : Level := { l with parts := part :: l.parts }

/-- Begin the next branch. -/
def branch (l : Level) : Level :=
  { branches := Ast.ofSequence l.parts.reverse :: l.branches, parts := [] }

def close (l : Level) : Ast := Ast.ofBranches l.branch.branches.reverse

end Level

/-- A group that is still open: what was read before it, its flags, and whether the pattern around
it is in verbose mode. -/
structure OpenGroup where
  outer : Level
  changes : List FlagChange
  verbose : Bool
  deriving Repr, DecidableEq

/-- What is known while a pattern is read. -/
structure ReadState where
  verbose : Bool := false
  level : Level := {}
  stack : List OpenGroup := []
  names : List (List Char) := []
  deriving Repr, DecidableEq

namespace ReadState

def push (s : ReadState) (part : Ast) : ReadState := { s with level := s.level.push part }

/-- Enter a group. -/
def enter (s : ReadState) (changes : List FlagChange) : ReadState :=
  { s with
    verbose := (flagValue? .verbose changes).getD s.verbose
    level := {}
    stack := ⟨s.level, changes, s.verbose⟩ :: s.stack }

/-- Leave the innermost group. -/
def leave (s : ReadState) : Except PatternError ReadState :=
  match s.stack with
  | [] => .error .groupUnopened
  | g :: stack =>
      .ok { s with
        verbose := g.verbose
        level := g.outer.push (.group g.changes s.level.close)
        stack := stack }

/-- Read one part of the pattern, which begins with `c`. -/
def step (s : ReadState) (c : Char) (rest : List Char) :
    Except PatternError (ReadState × List Char) := do
  let repeated := fun (least : Nat) (most : Option Nat) (rest : List Char) => do
    let parts ← repeatLast least most s.level.parts
    pure ({ s with level := { s.level with parts } }, skipLazyMark rest)
  match c with
  | '(' =>
      let (opening, rest) ← readGroupOpening s.verbose rest
      match opening with
      | .flags changes =>
          let s := { s with verbose := (flagValue? .verbose changes).getD s.verbose }
          .ok (s.push (.flags changes), rest)
      | .named name =>
          if s.names.contains name then .error .groupNameRepeated
          else .ok ({ s with names := name :: s.names }.enter [], rest)
      | .body changes => .ok (s.enter changes, rest)
  | ')' => .ok (← s.leave, rest)
  | '|' => .ok ({ s with level := s.level.branch }, rest)
  | '[' =>
      let (part, rest) ← readClass s.verbose rest
      .ok (s.push part, rest)
  | '?' => repeated 0 (some 1) rest
  | '*' => repeated 0 none rest
  | '+' => repeated 1 none rest
  | '\x7b' =>
      let ((least, most), rest) ← readBounds s.verbose rest
      repeated least most (skipBlanks s.verbose rest)
  | '\\' =>
      let (p, rest) ← readEscape s.verbose rest
      .ok (s.push p.toAst, rest)
  | '.' => .ok (s.push .dot, rest)
  | '^' => .ok (s.push (.assertion .lineStart), rest)
  | '$' => .ok (s.push (.assertion .lineEnd), rest)
  | c => .ok (s.push (.literal c), rest)

/-- Read the rest of the pattern. -/
def run : Nat → ReadState → List Char → Except PatternError Ast
  | 0, _, _ => .error .groupUnclosed
  | fuel + 1, s, cs =>
      match skipBlanks s.verbose cs with
      | [] => if s.stack.isEmpty then .ok s.level.close else .error .groupUnclosed
      | c :: rest =>
          match s.step c rest with
          | .ok (s, rest) => run fuel s rest
          | .error e => .error e

end ReadState

/-- The deepest nesting that a pattern may have. -/
def maxDepth : Nat := 250

/-- The tree of a pattern. -/
def Ast.parse (pattern : List Char) : Except PatternError Ast := do
  let tree ← ReadState.run (pattern.length + 1) {} pattern
  if tree.depth ≤ maxDepth then .ok tree else .error .nestTooDeep

end ThreatMarker.Regex
