import Mathlib.Data.String.Basic
import ThreatMarker.Proofs.Text.Utf8
/-
# The bytes of a text

Every character is read where its bytes are (`utf8Step_encodeChar`), so reading the bytes of a text
gives the text, whether faults are refused or replaced (`decode_encodeChars`,
`decodeLossy_encodeChars`).  The bytes of a lower character come first (`encodeChar_append_lt`), so
texts are in the order of their bytes (`encode_le_encode_iff`).
-/

namespace ThreatMarker.Text

set_option autoImplicit false

/-! ## Bytes as lists -/

theorem toList_loop (bytes : ByteArray) (i : Nat) (acc : Bytes) :
    ByteArray.toList.loop bytes i acc = acc.reverse ++ bytes.data.toList.drop i := by
  fun_induction ByteArray.toList.loop bytes i acc with
  | case1 i acc inside ih =>
      have bound : i < bytes.data.toList.length := by simpa using inside
      rw [ih, List.drop_eq_getElem_cons bound]
      simp [ByteArray.get!, inside]
  | case2 i acc outside =>
      rw [List.drop_eq_nil_of_le (by simpa using Nat.le_of_not_lt outside), List.append_nil]

/-- The bytes of characters. -/
def encodeChars (cs : List Char) : Bytes := cs.flatMap String.utf8EncodeChar

@[simp] theorem encodeChars_nil : encodeChars [] = [] := rfl

theorem encodeChars_cons (c : Char) (cs : List Char) :
    encodeChars (c :: cs) = String.utf8EncodeChar c ++ encodeChars cs := List.flatMap_cons

theorem encodeChars_append (cs ds : List Char) :
    encodeChars (cs ++ ds) = encodeChars cs ++ encodeChars ds := List.flatMap_append

/-- The bytes of a text are those of its characters. -/
theorem encode_eq (s : String) : encode s = encodeChars s.toList := by
  conv => lhs; rw [← String.ofList_toList (s := s)]
  rw [encode, String.toUTF8_eq_toByteArray, String.toByteArray_ofList, List.utf8Encode,
    ByteArray.toList, toList_loop, List.toList_data_toByteArray]
  simp [encodeChars]

/-! ## Single characters -/

theorem number_of_char (c : Char) :
    c.val.toNat < 0xD800 ∨ 0xDFFF < c.val.toNat ∧ c.val.toNat < 0x110000 := c.valid

theorem toNat_byte {n : Nat} (small : n < 256) : (UInt8.ofNat n).toNat = n :=
  UInt8.toNat_ofNat_of_lt small

/-- A character is read where its bytes are. -/
theorem utf8Step_encodeChar (c : Char) (rest : Bytes) :
    ∃ first more, String.utf8EncodeChar c = first :: more ∧
      utf8Step first (more ++ rest) = .char c (more.length + 1) := by
  have valid := number_of_char c
  have self : Char.ofNat c.val.toNat = c := Char.ofNat_toNat c
  unfold String.utf8EncodeChar
  generalize c.val.toNat = v at *
  subst self
  have last := toNat_byte (show v % 64 + 128 < 256 by omega)
  have third := toNat_byte (show v / 64 % 64 + 128 < 256 by omega)
  have second := toNat_byte (show v / 4096 % 64 + 128 < 256 by omega)
  dsimp only
  -- one case for each number of bytes
  repeat' split
  all_goals refine ⟨_, _, rfl, ?_⟩
  all_goals simp only [utf8Step, List.cons_append, List.nil_append]
  · have first := toNat_byte (show v < 256 by omega)
    rw [if_pos (by simp only [UInt8.lt_iff_toNat_lt, UInt8.reduceToNat]; omega), first]
    rfl
  · have first := toNat_byte (show v / 64 % 32 + 192 < 256 by omega)
    rw [if_neg, if_neg, if_pos, if_pos]
    · congr 2
      simp only [lowBits]
      omega
    all_goals
      simp only [Bool.or_eq_true, decide_eq_true_eq, UInt8.lt_iff_toNat_lt, isContinuation_iff,
        UInt8.reduceToNat]
      omega
  · have first := toNat_byte (show v / 4096 % 16 + 224 < 256 by omega)
    rw [if_neg, if_neg, if_neg, if_pos, if_pos, if_pos]
    · congr 2
      simp only [lowBits]
      omega
    all_goals
      simp only [Bool.or_eq_true, decide_eq_true_eq, UInt8.lt_iff_toNat_lt, isContinuation_iff,
        isSecondByte_iff, UInt8.reduceToNat]
      omega
  · have first := toNat_byte (show v / 262144 % 8 + 240 < 256 by omega)
    rw [if_neg, if_neg, if_neg, if_neg, if_pos, if_pos, if_pos]
    · congr 2
      simp only [lowBits]
      omega
    all_goals
      simp only [Bool.or_eq_true, decide_eq_true_eq, UInt8.lt_iff_toNat_lt, isContinuation_iff,
        isSecondByte_iff, UInt8.reduceToNat]
      omega

/-- A byte below 128 is only in the bytes of the character of its number. -/
theorem mem_encodeChar_iff {b : UInt8} (ascii : b.toNat < 128) {c : Char} :
    b ∈ String.utf8EncodeChar c ↔ c.val.toNat = b.toNat := by
  have valid := number_of_char c
  unfold String.utf8EncodeChar
  dsimp only
  repeat' split
  all_goals
    simp (disch := omega) only [List.mem_cons, List.not_mem_nil, or_false, ← UInt8.toNat_inj, toNat_byte]
    omega

/-- A character below 128 is one byte. -/
theorem encodeChar_of_ascii {c : Char} {b : UInt8} (ascii : b.toNat < 128) (same : c.val.toNat = b.toNat) :
    String.utf8EncodeChar c = [b] := by
  unfold String.utf8EncodeChar
  rw [same]
  simp only [show b.toNat ≤ 127 by omega, if_true, UInt8.ofNat_toNat]

/-- The bytes of a lower character come first, whatever follows. -/
theorem encodeChar_append_lt {c d : Char} (lower : c < d) (x y : Bytes) :
    String.utf8EncodeChar c ++ x < String.utf8EncodeChar d ++ y := by
  have validC := number_of_char c
  have validD := number_of_char d
  rw [Char.lt_def, UInt32.lt_iff_toNat_lt] at lower
  unfold String.utf8EncodeChar
  generalize c.val.toNat = v at *
  generalize d.val.toNat = w at *
  have top : v / 262144 < 8 ∧ w / 262144 < 8 := by omega
  have digits : v / 262144 < w / 262144 ∨ v / 262144 = w / 262144 ∧
      (v / 4096 < w / 4096 ∨ v / 4096 = w / 4096 ∧
        (v / 64 < w / 64 ∨ v / 64 = w / 64 ∧ v % 64 < w % 64)) := by omega
  dsimp only
  repeat' split
  all_goals
    simp (disch := omega) only [List.cons_append, List.nil_append, List.cons_lt_cons_iff,
      UInt8.lt_iff_toNat_lt, ← UInt8.toNat_inj, toNat_byte]
    -- where the numbers of bytes differ, the first bytes do
    first
    | exact .inl (by omega)
    | omega

/-! ## Whole texts -/

/-- Bytes that were read with a character are passed over. -/
theorem decodeFrom_append (acc : List Char) (read rest : Bytes) :
    decodeFrom acc read.length (read ++ rest) = decodeFrom acc 0 rest := by
  induction read with
  | nil => rfl
  | cons b read ih => exact ih

theorem utf8FaultFrom?_append (index : Nat) (read rest : Bytes) :
    utf8FaultFrom? index read.length (read ++ rest) = utf8FaultFrom? (index + read.length) 0 rest := by
  induction read generalizing index with
  | nil => rfl
  | cons b read ih =>
      rw [List.cons_append, List.length_cons, utf8FaultFrom?, ih]
      congr 1
      omega

@[simp] theorem encodeChars_eq_nil_iff {cs : List Char} : encodeChars cs = [] ↔ cs = [] := by
  cases cs with
  | nil => simp
  | cons c cs => simp [encodeChars_cons]

theorem decodeFrom_encodeChars (acc cs : List Char) :
    decodeFrom acc 0 (encodeChars cs) = acc.reverse ++ cs := by
  induction cs generalizing acc with
  | nil => simp [decodeFrom]
  | cons c cs ih =>
      obtain ⟨first, more, bytes, step⟩ := utf8Step_encodeChar c (encodeChars cs)
      rw [encodeChars_cons, bytes, List.cons_append, decodeFrom, step]
      simp only [Nat.add_sub_cancel, decodeFrom_append, ih, List.reverse_cons, List.append_assoc,
        List.singleton_append]

theorem utf8FaultFrom?_encodeChars (index : Nat) (cs : List Char) :
    utf8FaultFrom? index 0 (encodeChars cs) = none := by
  induction cs generalizing index with
  | nil => rfl
  | cons c cs ih =>
      obtain ⟨first, more, bytes, step⟩ := utf8Step_encodeChar c (encodeChars cs)
      rw [encodeChars_cons, bytes, List.cons_append, utf8FaultFrom?, step]
      simp only [Nat.add_sub_cancel, utf8FaultFrom?_append, ih]

theorem decodeLossy_encodeChars (cs : List Char) : decodeLossy (encodeChars cs) = String.ofList cs := by
  rw [decodeLossy, decodeFrom_encodeChars, List.reverse_nil, List.nil_append]

theorem decode_encodeChars (cs : List Char) : decode (encodeChars cs) = .ok (String.ofList cs) := by
  rw [decode, utf8FaultFrom?_encodeChars]
  exact congrArg _ (decodeLossy_encodeChars cs)

/-! ## Bytes below 128 -/

theorem mem_encodeChars_iff {b : UInt8} (ascii : b.toNat < 128) {c : Char} (same : c.val.toNat = b.toNat)
    {cs : List Char} : b ∈ encodeChars cs ↔ c ∈ cs := by
  simp only [encodeChars, List.mem_flatMap, mem_encodeChar_iff ascii, ← same]
  constructor
  · rintro ⟨d, member, number⟩
    rwa [Char.ext (UInt32.toNat_inj.1 number)] at member
  · exact fun member => ⟨c, member, rfl⟩

/-- The last byte is one below 128 if the last character is. -/
theorem getLast?_encodeChars_iff {b : UInt8} (ascii : b.toNat < 128) {c : Char}
    (same : c.val.toNat = b.toNat) {cs : List Char} :
    (encodeChars cs).getLast? = some b ↔ cs.getLast? = some c := by
  rcases List.eq_nil_or_concat cs with rfl | ⟨front, d, rfl⟩
  · simp
  · rw [List.concat_eq_append, encodeChars_append, encodeChars_cons, encodeChars_nil, List.append_nil,
      List.getLast?_append_of_ne_nil _ String.utf8EncodeChar_ne_nil, List.getLast?_concat]
    constructor
    · intro last
      have number := (mem_encodeChar_iff ascii).1 (List.mem_of_getLast? last)
      rw [Char.ext (UInt32.toNat_inj.1 (number.trans same.symm))]
    · rintro last
      cases last
      rw [encodeChar_of_ascii ascii same]
      rfl

/-! ## Order -/

theorem append_lt_append_iff (front x y : Bytes) : front ++ x < front ++ y ↔ x < y := by
  induction front with
  | nil => rfl
  | cons b front ih => simp [ih]

theorem encodeChars_lt_iff {cs ds : List Char} :
    encodeChars cs < encodeChars ds ↔ cs < ds := by
  induction cs generalizing ds with
  | nil =>
      cases ds with
      | nil => simp
      | cons d ds =>
          obtain ⟨first, more, bytes, -⟩ := utf8Step_encodeChar d []
          simp [encodeChars_cons, bytes]
  | cons c cs ih =>
      cases ds with
      | nil => simp
      | cons d ds =>
          rw [encodeChars_cons, encodeChars_cons, List.cons_lt_cons_iff]
          rcases lt_trichotomy c d with lower | rfl | higher
          · simp [encodeChar_append_lt lower, lower]
          · simp [append_lt_append_iff, ih]
          · have other := encodeChar_append_lt higher (encodeChars ds) (encodeChars cs)
            refine iff_of_false (List.lt_asymm other) fun before => ?_
            rcases before with lower | ⟨rfl, -⟩
            · exact lt_asymm higher lower
            · exact lt_irrefl _ higher

/-- **Texts are in the order of their bytes.** -/
theorem encode_le_encode_iff {a b : String} : encode a ≤ encode b ↔ a ≤ b := by
  rw [← List.not_lt, encode_eq, encode_eq, encodeChars_lt_iff, ← String.lt_iff_toList_lt,
    String.not_lt]

end ThreatMarker.Text
