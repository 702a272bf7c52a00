/-
# UTF-8

Reading bytes as text.  `decodeLossy` puts a replacement character in the place of every longest
beginning of a character that is not completed, and of every byte that begins none.
-/

namespace ThreatMarker.Text

set_option autoImplicit false

abbrev Bytes := List UInt8

def replacement : Char := '\uFFFD'

/-- What the first bytes of a text are: a character, or that many bytes that are none. -/
inductive Utf8Step where
  | char (c : Char) (length : Nat)
  | fault (length : Nat)
  deriving Repr, DecidableEq

/-- A byte that continues a character. -/
def isContinuation (b : UInt8) : Bool := 0x80 ≤ b && b ≤ 0xBF

/-- The six low bits of a byte. -/
def lowBits (b : UInt8) : Nat := b.toNat % 64

/-- Which second bytes may follow a first byte of a character of three or four bytes. -/
def isSecondByte (first second : UInt8) : Bool :=
  if first == 0xE0 then 0xA0 ≤ second && second ≤ 0xBF
  else if first == 0xED then 0x80 ≤ second && second ≤ 0x9F
  else if first == 0xF0 then 0x90 ≤ second && second ≤ 0xBF
  else if first == 0xF4 then 0x80 ≤ second && second ≤ 0x8F
  else isContinuation second

/-- Look at the first character of a text that is not empty. -/
def utf8Step (first : UInt8) (rest : Bytes) : Utf8Step :=
  if first < 0x80 then .char (Char.ofNat first.toNat) 1
  else if first < 0xC2 || 0xF4 < first then .fault 1
  else if first < 0xE0 then
    match rest with
    | b :: _ =>
        if isContinuation b then .char (Char.ofNat (first.toNat % 32 * 64 + lowBits b)) 2
        else .fault 1
    | [] => .fault 1
  else if first < 0xF0 then
    match rest with
    | b :: more =>
        if isSecondByte first b then
          match more with
          | c :: _ =>
              if isContinuation c then
                .char (Char.ofNat ((first.toNat % 16 * 64 + lowBits b) * 64 + lowBits c)) 3
              else .fault 2
          | [] => .fault 2
        else .fault 1
    | [] => .fault 1
  else
    match rest with
    | b :: more =>
        if isSecondByte first b then
          match more with
          | c :: more =>
              if isContinuation c then
                match more with
                | d :: _ =>
                    if isContinuation d then
                      .char (Char.ofNat
                        (((first.toNat % 8 * 64 + lowBits b) * 64 + lowBits c) * 64 + lowBits d)) 4
                    else .fault 3
                | [] => .fault 3
              else .fault 2
          | [] => .fault 2
        else .fault 1
    | [] => .fault 1

/-- The characters of a text, the replacement in the place of every fault.  The characters so far are
in `acc` with the last one first, and `skip` bytes were already read. -/
def decodeFrom (acc : List Char) : Nat → Bytes → List Char
  | _, [] => acc.reverse
  | skip + 1, _ :: rest => decodeFrom acc skip rest
  | 0, b :: rest =>
      match utf8Step b rest with
      | .char c n => decodeFrom (c :: acc) (n - 1) rest
      | .fault n => decodeFrom (replacement :: acc) (n - 1) rest

/-- Where bytes are not a text: some of them belong to no character, or the last character is not
complete. -/
inductive Utf8Fault where
  | invalid (index length : Nat)
  | incomplete (index : Nat)
  deriving Repr, DecidableEq

def Utf8Fault.message : Utf8Fault → String
  | .invalid index length =>
      "invalid utf-8 sequence of " ++ toString length ++ " bytes from index " ++ toString index
  | .incomplete index => "incomplete utf-8 byte sequence from index " ++ toString index

/-- A byte that begins a character of several bytes. -/
def isLeadByte (b : UInt8) : Bool := 0xC2 ≤ b && b ≤ 0xF4

/-- The first fault of bytes at an index, `skip` of which were already read. -/
def utf8FaultFrom? (index : Nat) : Nat → Bytes → Option Utf8Fault
  | _, [] => none
  | skip + 1, _ :: rest => utf8FaultFrom? (index + 1) skip rest
  | 0, b :: rest =>
      match utf8Step b rest with
      | .char _ n => utf8FaultFrom? (index + 1) (n - 1) rest
      | .fault n =>
          if isLeadByte b && rest.length < n then some (.incomplete index)
          else some (.invalid index n)

/-- Read bytes as text if they are one. -/
def decode (bytes : Bytes) : Except Utf8Fault String :=
  match utf8FaultFrom? 0 0 bytes with
  | some fault => .error fault
  | none => .ok (String.ofList (decodeFrom [] 0 bytes))

/-- Read bytes as text, whatever they are. -/
def decodeLossy (bytes : Bytes) : String := String.ofList (decodeFrom [] 0 bytes)

/-- The bytes of a text. -/
def encode (s : String) : Bytes := s.toUTF8.toList

end ThreatMarker.Text
