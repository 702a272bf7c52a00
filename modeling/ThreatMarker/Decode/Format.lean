import ThreatMarker.Decode.Fault
import ThreatMarker.Decimal.Binary64
/-
# Decoding structured data

What a data format offers to a decoder, and decoding of structures, lists and choices on top of it.
A format decides how a value of its own is read as a string, a number, a list or a structure, and how
a value that is none of them is described.

A structure is given by named fields in any order, of which unknown ones are passed over, or, in some
formats, by a list of values in the order of the declaration.
-/

namespace ThreatMarker.Decode

set_option autoImplicit false

universe u

/-- Data without a declared shape. -/
inductive Content where
  | text (s : String)
  | bool (b : Bool)
  | integer (n : Int)
  | real (x : Decimal.Binary64)
  | list (items : List Content)
  | other
  deriving Repr, Inhabited

/-- A named value: the name may be unreadable, and the step tells where the value is. -/
structure Entry (α : Type u) where
  name : Except Cause String
  step : Step
  value : α

/-- The values of a structure.  `whole` says whether the end of the entries was seen. -/
inductive Fields (α : Type u) where
  | named (entries : List (Entry α)) (whole : Bool)
  | positional (values : List α)

/-- A choice by name, and what is wrong with the value that goes with the name, if anything. -/
structure Choice where
  name : String
  payload : Option Cause

/-- What a data format offers. -/
structure Format (α : Type u) where
  /-- Read a string. -/
  string : α → Except Cause String
  /-- Read a natural number of a kind, at most as large as the limit. -/
  natural : String → Nat → α → Except Cause Nat
  /-- Read the name of a choice. -/
  choice : α → Except Cause Choice
  /-- The items of a list, and whether its end was seen. -/
  items : α → Except Cause (List α × Bool)
  /-- The values of a structure of a kind. -/
  fields : String → α → Except Cause (Fields α)
  /-- Read a value of any shape inside a number of collections. -/
  content : Nat → α → Except Fault Content
  /-- Pass over a value. -/
  skip : α → Except Cause Unit
  /-- What is wrong with a list of values that is longer than the structure. -/
  surplus : Nat → Option Cause

namespace Format

variable {α : Type u} {β σ : Type}

/-- A value at the root of a path. -/
def here (r : Except Cause β) : Except Fault β :=
  match r with
  | .ok b => .ok b
  | .error cause => .error { cause }

/-- A value one step further out. -/
def inside (step : Step) (r : Except Fault β) : Except Fault β :=
  match r with
  | .ok b => .ok b
  | .error fault => .error (fault.under step)

/-! ## Choices -/

/-- Read one of some named values. -/
def oneOf (F : Format α) (known : List (String × β)) (v : α) : Except Fault β :=
  match F.choice v with
  | .error cause => .error { cause }
  | .ok c =>
      match known.find? (fun k => k.1 == c.name) with
      | none => .error { cause := .unknownVariant c.name (known.map (·.1)) }
      | some k =>
          match c.payload with
          | some cause => .error { cause }
          | none => .ok k.2

/-! ## Lists -/

/-- Read items, counted from `index`. -/
def readItems (read : α → Except Fault β) : Nat → List α → Except Fault (List β)
  | _, [] => .ok []
  | index, v :: rest =>
      match inside (.item index) (read v) with
      | .error fault => .error fault
      | .ok b =>
          match readItems read (index + 1) rest with
          | .error fault => .error fault
          | .ok bs => .ok (b :: bs)

/-- Read a list. -/
def list (F : Format α) (read : α → Except Fault β) (v : α) : Except Fault (List β) :=
  match F.items v with
  | .error cause => .error { cause }
  | .ok (items, whole) =>
      match readItems read 0 items with
      | .error fault => .error fault
      | .ok bs => if whole then .ok bs else .error { cause := .malformed }

/-! ## Structures -/

end Format

/-- The declaration of a structure that is read into a state, field by field.  `check` tells what is
wrong with a field that could be read. -/
structure Shape (α : Type u) (σ : Type) where
  title : String
  names : List String
  synonyms : List (String × String) := []
  required : List String := []
  assign : String → α → σ → Except Fault σ
  check : String → σ → Option Cause := fun _ _ => none

namespace Shape

variable {α : Type u} {σ : Type}

/-- The declared name that a name stands for. -/
def canonical? (s : Shape α σ) (name : String) : Option String :=
  if s.names.contains name then some name
  else (s.synonyms.find? (fun p => p.1 == name)).map (·.2)

/-- Read one field. -/
def readField (s : Shape α σ) (name : String) (step : Step) (v : α) (state : σ) : Except Fault σ :=
  match Format.inside step (s.assign name v state) with
  | .error fault => .error fault
  | .ok state =>
      match s.check name state with
      | some cause => .error { cause }
      | none => .ok state

/-- Read named values; `seen` are the fields that were given. -/
def readEntries (s : Shape α σ) (F : Format α) :
    List String → σ → List (Entry α) → Except Fault (List String × σ)
  | seen, state, [] => .ok (seen, state)
  | seen, state, e :: rest =>
      match e.name with
      | .error cause => .error { cause }
      | .ok written =>
          match s.canonical? written with
          | none =>
              match F.skip e.value with
              | .error cause => .error { cause }
              | .ok () => readEntries s F seen state rest
          | some name =>
              if seen.contains name then .error { cause := .duplicateField name }
              else
                match s.readField name e.step e.value state with
                | .error fault => .error fault
                | .ok state => readEntries s F (name :: seen) state rest

/-- Read values in the order of the declaration. -/
def readPositions (s : Shape α σ) : Nat → List String → List α → σ → Except Fault σ
  | index, name :: names, v :: rest, state =>
      match s.readField name (.item index) v state with
      | .error fault => .error fault
      | .ok state => readPositions s (index + 1) names rest state
  | index, name :: names, [], state =>
      if s.required.contains name then
        let expected :=
          "struct " ++ s.title ++ " with " ++ toString s.names.length ++ " elements"
        .error { cause := .invalidLength index expected }
      else readPositions s (index + 1) names [] state
  | _, [], _, state => .ok state

/-- Read a structure, beginning with the values that fields have if they are not given. -/
def read (s : Shape α σ) (F : Format α) (defaults : σ) (v : α) : Except Fault σ :=
  match F.fields ("struct " ++ s.title) v with
  | .error cause => .error { cause }
  | .ok (.named entries whole) =>
      match s.readEntries F [] defaults entries with
      | .error fault => .error fault
      | .ok (seen, state) =>
          if !whole then .error { cause := .malformed }
          else
            match s.required.find? (fun name => !seen.contains name) with
            | some name => .error { cause := .missingField name }
            | none => .ok state
  | .ok (.positional values) =>
      match s.readPositions 0 s.names values defaults with
      | .error fault => .error fault
      | .ok state =>
          match if s.names.length < values.length then F.surplus values.length else none with
          | some cause => .error { cause }
          | none => .ok state

end Shape

end ThreatMarker.Decode
