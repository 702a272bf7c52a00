import ThreatMarker.Gzip.Bits
/-
# Inflating

A deflated stream is a list of blocks, of which the last is marked.  A block is stored, or it is coded
in symbols for bytes and for copies of earlier output.  A copy that reaches back beyond the beginning
of the output copies zeros.

The output is handed on in portions.  A stream that breaks off has handed on all that was decoded; a
stream that is wrong somewhere loses the portion that was being decoded.
-/

namespace ThreatMarker.Gzip

set_option autoImplicit false

/-- Why a stream cannot be decoded further. -/
inductive Stop where
  | incomplete
  | corrupt
  deriving Repr, DecidableEq

/-- How far a stream was decoded: the next bit, the output, and how much of it was handed on. -/
structure Progress where
  place : Nat
  out : ByteArray
  handedOn : Nat := 0

/-- The size of the window that a portion of output fills. -/
def windowSize : Nat := 32768

/-- The size of a portion that is handed on before the next is decoded. -/
def portionSize : Nat := 8192

/-- The size of a portion of input. -/
def inputPortion : Nat := 8192

namespace Progress

/-- Hand on all output if the input up to the next place does not fit the portion of input that holds
the last place. -/
def advance (p : Progress) (place : Nat) : Progress :=
  let portion := 8 * inputPortion
  if (place - 1) / portion != (p.place - 1) / portion && 0 < p.place then
    { p with place, handedOn := p.out.size }
  else { p with place }

/-- Add a byte; a full window is handed on. -/
def emit (p : Progress) (b : UInt8) : Progress :=
  let out := p.out.push b
  if out.size % windowSize == 0 && portionSize ≤ out.size - p.handedOn then
    { p with out, handedOn := out.size }
  else { p with out }

/-- Copy `length` bytes from `distance` bytes ago. -/
def copy (p : Progress) (distance : Nat) : Nat → Progress
  | 0 => p
  | length + 1 =>
      let b := if distance ≤ p.out.size then (p.out[p.out.size - distance]?).getD 0 else 0
      copy (p.emit b) distance length

end Progress

/-! ## Codes -/

/-- A code: how many symbols have each length, and the symbols in the order of their codes. -/
structure Code where
  counts : Array Nat
  symbols : Array Nat
  deriving Repr, Inhabited

namespace Code

/-- The code in which symbol `i` has length `lengths[i]`; length zero means that it is not used. -/
def ofLengths (lengths : List Nat) : Code :=
  let counts := (List.range 16).map (fun n => if n = 0 then 0 else lengths.count n)
  let symbols := (List.range 16).flatMap fun n =>
    if n = 0 then [] else (lengths.zipIdx.filter (fun e => e.1 == n)).map (·.2)
  ⟨counts.toArray, symbols.toArray⟩

/-- Whether every string of bits begins with a code.  A code of at most one symbol may be incomplete
where `lenient` allows it. -/
def isValid (c : Code) (lenient : Bool) : Bool :=
  let total := (List.range 16).foldl (fun n i => (n + c.counts.getD i 0) * 2) 0
  total == 65536 || (lenient && c.symbols.size ≤ 1)

/-- Read a symbol: `code` are the bits so far, `first` the first code of their length and `index` the
place of its symbol. -/
def readFrom (c : Code) (data : ByteArray) :
    Nat → Nat → Nat → Nat → Nat → Nat → Except Stop (Nat × Nat)
  | 0, _, _, _, _, _ => .error .corrupt
  | fuel + 1, length, code, first, index, place =>
      match bitAt? data place with
      | none => .error .incomplete
      | some b =>
          let code := code + b
          let count := c.counts.getD length 0
          if code < first + count then .ok (c.symbols.getD (index + (code - first)) 0, place + 1)
          else
            readFrom c data fuel (length + 1) (2 * code) (2 * (first + count)) (index + count)
              (place + 1)

/-- Read a symbol at a place. -/
def read (c : Code) (data : ByteArray) (place : Nat) : Except Stop (Nat × Nat) :=
  c.readFrom data 15 1 0 0 0 place

end Code

/-- Read a number of bits. -/
def readBits (data : ByteArray) (count place : Nat) : Except Stop (Nat × Nat) :=
  match bitsAt? data count place with
  | some n => .ok (n, place + count)
  | none => .error .incomplete

/-! ## Symbols -/

def lengthBases : List (Nat × Nat) := [
  (3, 0), (4, 0), (5, 0), (6, 0), (7, 0), (8, 0), (9, 0), (10, 0), (11, 1), (13, 1), (15, 1),
  (17, 1), (19, 2), (23, 2), (27, 2), (31, 2), (35, 3), (43, 3), (51, 3), (59, 3), (67, 4),
  (83, 4), (99, 4), (115, 4), (131, 5), (163, 5), (195, 5), (227, 5), (258, 0)]

def distanceBases : List (Nat × Nat) := [
  (1, 0), (2, 0), (3, 0), (4, 0), (5, 1), (7, 1), (9, 2), (13, 2), (17, 3), (25, 3), (33, 4),
  (49, 4), (65, 5), (97, 5), (129, 6), (193, 6), (257, 7), (385, 7), (513, 8), (769, 8),
  (1025, 9), (1537, 9), (2049, 10), (3073, 10), (4097, 11), (6145, 11), (8193, 12), (12289, 12),
  (16385, 13), (24577, 13)]

/-- A base and the extra bits that are added to it. -/
def readExtra (bases : List (Nat × Nat)) (data : ByteArray) (symbol place : Nat) :
    Except Stop (Nat × Nat) :=
  match bases[symbol]? with
  | none => .error .corrupt
  | some (base, extra) =>
      match readBits data extra place with
      | .ok (n, place) => .ok (base + n, place)
      | .error e => .error e

/-- What the decoding of a block gives: the progress up to its end or up to where it stops. -/
abbrev Step := Progress × Option Stop

/-- Decode symbols up to the end of a block. -/
def readSymbols (literals distances : Code) (data : ByteArray) : Nat → Progress → Step
  | 0, p => (p, some .corrupt)
  | fuel + 1, p =>
      match literals.read data p.place with
      | .error e => (p, some e)
      | .ok (symbol, place) =>
          if symbol < 256 then
            readSymbols literals distances data fuel
              ((p.advance place).emit (UInt8.ofNat symbol))
          else if symbol = 256 then (p.advance place, none)
          else
            match readExtra lengthBases data (symbol - 257) place with
            | .error e => (p, some e)
            | .ok (length, place) =>
                match distances.read data place with
                | .error e => (p, some e)
                | .ok (symbol, place) =>
                    match readExtra distanceBases data symbol place with
                    | .error e => (p, some e)
                    | .ok (distance, place) =>
                        readSymbols literals distances data fuel
                          ((p.advance place).copy distance length)

/-! ## Blocks -/

def fixedLiterals : Code :=
  .ofLengths (List.replicate 144 8 ++ List.replicate 112 9 ++ List.replicate 24 7
    ++ List.replicate 8 8)

def fixedDistances : Code := .ofLengths (List.replicate 32 5)

/-- Take stored bytes as they are. -/
def readStored (data : ByteArray) : Nat → Progress → Step
  | 0, p => (p, none)
  | count + 1, p =>
      match byteAt? data (p.place / 8) with
      | none => (p, some .incomplete)
      | some b => readStored data count ((p.advance (p.place + 8)).emit (UInt8.ofNat b))

/-- A stored block begins at the next byte with its length and the complement of that. -/
def storedBlock (data : ByteArray) (p : Progress) : Step :=
  let start := (p.place + 7) / 8
  match numberAt? data 2 start, numberAt? data 2 (start + 2) with
  | some length, some complement =>
      if length + complement = 65535 then readStored data length (p.advance (8 * (start + 4)))
      else (p, some .corrupt)
  | _, _ => (p, some .incomplete)

/-- The order in which the lengths of the code of lengths are given. -/
def lengthOrder : List Nat := [16, 17, 18, 0, 8, 7, 9, 6, 10, 5, 11, 4, 12, 3, 13, 2, 14, 1, 15]

/-- Read `count` numbers of three bits. -/
def readTriples (data : ByteArray) : Nat → Nat → Except Stop (List Nat × Nat)
  | 0, place => .ok ([], place)
  | count + 1, place =>
      match readBits data 3 place with
      | .error e => .error e
      | .ok (n, place) =>
          match readTriples data count place with
          | .error e => .error e
          | .ok (ns, place) => .ok (n :: ns, place)

/-- Read `wanted` lengths, the last one first in `acc`. -/
def readLengths (c : Code) (data : ByteArray) (wanted : Nat) :
    Nat → List Nat → Nat → Except Stop (List Nat × Nat)
  | 0, _, _ => .error .corrupt
  | fuel + 1, acc, place =>
      if acc.length = wanted then .ok (acc.reverse, place)
      else if wanted < acc.length then .error .corrupt
      else
        match c.read data place with
        | .error e => .error e
        | .ok (symbol, place) =>
            if symbol < 16 then readLengths c data wanted fuel (symbol :: acc) place
            else
              let (bits, least) :=
                if symbol = 16 then (2, 3) else if symbol = 17 then (3, 3) else (7, 11)
              if symbol = 16 && acc.isEmpty then .error .corrupt
              else
                match readBits data bits place with
                | .error e => .error e
                | .ok (n, place) =>
                    let value := if symbol = 16 then acc.headD 0 else 0
                    readLengths c data wanted fuel (List.replicate (least + n) value ++ acc) place

/-- The codes that a block brings along. -/
def readCodes (data : ByteArray) (place : Nat) : Except Stop (Code × Code × Nat) := do
  let (literalCount, place) ← readBits data 5 place
  let (distanceCount, place) ← readBits data 5 place
  let (lengthCount, place) ← readBits data 4 place
  let literalCount := literalCount + 257
  let distanceCount := distanceCount + 1
  if 286 < literalCount || 30 < distanceCount then .error .corrupt
  else
    let (triples, place) ← readTriples data (lengthCount + 4) place
    let lengthOf := fun i =>
      match (lengthOrder.zip triples).find? (fun e => e.1 == i) with
      | some e => e.2
      | none => 0
    let lengths := Code.ofLengths ((List.range 19).map lengthOf)
    if !lengths.isValid false then .error .corrupt
    else
      let (all, place) ←
        readLengths lengths data (literalCount + distanceCount) (literalCount + distanceCount + 1)
          [] place
      let literals := Code.ofLengths (all.take literalCount)
      let distances := Code.ofLengths (all.drop literalCount)
      if literals.isValid true && distances.isValid true then .ok (literals, distances, place)
      else .error .corrupt

/-- Decode the blocks of a stream. -/
def readBlocks (data : ByteArray) : Nat → Progress → Step
  | 0, p => (p, some .corrupt)
  | fuel + 1, p =>
      match bitsAt? data 3 p.place with
      | none => (p, some .incomplete)
      | some header =>
          let p := p.advance (p.place + 3)
          let (p, stop) :=
            match header / 2 with
            | 0 => storedBlock data p
            | 1 => readSymbols fixedLiterals fixedDistances data (8 * data.size + 1) p
            | 2 =>
                match readCodes data p.place with
                | .error e => (p, some e)
                | .ok (literals, distances, place) =>
                    readSymbols literals distances data (8 * data.size + 1) (p.advance place)
            | _ => (p, some .corrupt)
          match stop with
          | some e => (p, some e)
          | none => if header % 2 == 1 then (p, none) else readBlocks data fuel p

/-- What was decoded of a stream: the output that was handed on, and the place of the byte after the
stream or why the stream stops. -/
structure Inflated where
  out : ByteArray
  result : Except Stop Nat

/-- Decode the stream that begins at a byte. -/
def inflate (data : ByteArray) (start : Nat) : Inflated :=
  let (p, stop) := readBlocks data (8 * data.size + 1) { place := 8 * start, out := .empty }
  match stop with
  | none => ⟨p.out, .ok ((p.place + 7) / 8)⟩
  | some .incomplete => ⟨p.out, .error .incomplete⟩
  | some .corrupt => ⟨p.out.extract 0 p.handedOn, .error .corrupt⟩

end ThreatMarker.Gzip
