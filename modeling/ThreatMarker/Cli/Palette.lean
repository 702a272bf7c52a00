/-
# Text for a terminal

Columns, and texts in bold or in colour.  Without colours a styled text is the text itself.
-/

namespace ThreatMarker.Cli

set_option autoImplicit false

/-! ## Columns -/

/-- A text with blanks after it up to a width. -/
def left (width : Nat) (text : String) : String :=
  text ++ String.ofList (List.replicate (width - text.length) ' ')

/-- A text with blanks before it up to a width. -/
def right (width : Nat) (text : String) : String :=
  String.ofList (List.replicate (width - text.length) ' ') ++ text

/-- A line of that many dashes. -/
def dashes (width : Nat) : String := String.ofList (List.replicate width '-')

/-- Lines, each with its line break. -/
def unlines (lines : List String) : String := String.join (lines.map (· ++ "\n"))

/-! ## Styles -/

inductive Colour where
  | red
  | green
  | yellow
  deriving Repr, DecidableEq

def Colour.code : Colour → String
  | .red => "31"
  | .green => "32"
  | .yellow => "33"

structure Style where
  bold : Bool := false
  colour : Option Colour := none
  deriving Repr, DecidableEq

namespace Style

def plain : Style := {}

def strong : Style := { bold := true }

def coloured (c : Colour) : Style := { colour := some c }

def strongColoured (c : Colour) : Style := { bold := true, colour := some c }

/-- The control sequence that begins a style. -/
def opening (s : Style) : String :=
  "\x1b[" ++ String.intercalate ";"
    ((if s.bold then ["1"] else []) ++ s.colour.toList.map Colour.code) ++ "m"

/-- The control sequence that ends every style. -/
def closing : String := "\x1b[0m"

end Style

/-- Whether texts are styled. -/
structure Palette where
  coloured : Bool := false
  deriving Repr, DecidableEq

namespace Palette

/-- A text in a style and a column.  Where the text itself ends every style, the style is begun
anew. -/
def paintIn (p : Palette) (s : Style) (column : String → String) (text : String) : String :=
  if p.coloured && s ≠ .plain then
    s.opening ++ column (text.replace Style.closing (Style.closing ++ s.opening)) ++ Style.closing
  else column text

/-- A text in a style. -/
def paint (p : Palette) (s : Style) (text : String) : String := p.paintIn s id text

end Palette

end ThreatMarker.Cli
