/-
# Encoded ranges

The UTF-8 encodings of a range of code points, as sequences of byte ranges.  A sequence stands for
all the byte strings that take a byte from each of its ranges in turn; the sequences of a range are
disjoint and together hold exactly the encodings of its code points.
-/

namespace ThreatMarker.Unicode

set_option autoImplicit false

/-- The number of bytes that encode a code point. -/
def utf8Length (n : Nat) : Nat :=
  if n < 0x80 then 1 else if n < 0x800 then 2 else if n < 0x10000 then 3 else 4

/-- The bytes that encode a code point. -/
def utf8Bytes (n : Nat) : List Nat :=
  if n < 0x80 then [n]
  else if n < 0x800 then [0xC0 + n / 0x40, 0x80 + n % 0x40]
  else if n < 0x10000 then [0xE0 + n / 0x1000, 0x80 + n / 0x40 % 0x40, 0x80 + n % 0x40]
  else
    [0xF0 + n / 0x40000, 0x80 + n / 0x1000 % 0x40, 0x80 + n / 0x40 % 0x40, 0x80 + n % 0x40]

/-- Split a range at the code points where the length of the encoding changes. -/
def splitLengths (lo hi : Nat) : List (Nat × Nat) :=
  [(0, 0x7F), (0x80, 0x7FF), (0x800, 0xD7FF), (0xE000, 0xFFFF), (0x10000, 0x10FFFF)].filterMap
    fun (a, b) => if lo ≤ b && a ≤ hi then some (max lo a, min hi b) else none

/-- Split a range of encodings of one length so that in each part all trailing bytes of the lower
end are least and those of the upper end are greatest below the first byte that differs.  `width` is
the size of the block that the next byte spans. -/
def splitBlocks : Nat → Nat → Nat → List (Nat × Nat)
  | 0, lo, hi => [(lo, hi)]
  | bits + 1, lo, hi =>
      let block := Nat.pow 64 (bits + 1)
      if lo / block == hi / block then splitBlocks bits lo hi
      else
        let head :=
          if lo % block == 0 then [] else splitBlocks bits lo ((lo / block + 1) * block - 1)
        let tail :=
          if (hi + 1) % block == 0 then [] else splitBlocks bits (hi / block * block) hi
        let first := if lo % block == 0 then lo else (lo / block + 1) * block
        let last := if (hi + 1) % block == 0 then hi + 1 else hi / block * block
        let middle := if first < last then [(first, last - 1)] else []
        head ++ middle ++ tail

/-- The sequences of byte ranges that encode a range of code points. -/
def utf8Ranges (lo hi : Nat) : List (List (Nat × Nat)) :=
  (splitLengths lo hi).flatMap fun (a, b) =>
    (splitBlocks (utf8Length a - 1) a b).map fun (c, d) => (utf8Bytes c).zip (utf8Bytes d)

/-- The number of edges in the tree of the sequences, which come in ascending order: each sequence
adds what follows the part that it shares with the one before it. -/
def countPrefixes (sequences : List (List (Nat × Nat))) : Nat :=
  (sequences.foldl
    (fun (acc : Nat × List (Nat × Nat)) seq =>
      (acc.1 + (seq.length - commonLength acc.2 seq), seq))
    (0, [])).1
where
  /-- The length of the common beginning. -/
  commonLength : List (Nat × Nat) → List (Nat × Nat) → Nat
    | x :: xs, y :: ys => if x == y then commonLength xs ys + 1 else 0
    | _, _ => 0

end ThreatMarker.Unicode
