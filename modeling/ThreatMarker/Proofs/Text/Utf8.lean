import ThreatMarker.Text.Utf8
/-
# The size of decoded bytes

A character that is found has the size of its bytes, and a fault is never longer than the replacement
in its place (`utf8Step_char`, `utf8Step_fault`).  So the text of some bytes is at least as long as
they are, which is why a limit on a text is kept by a limit on its bytes.
-/

namespace ThreatMarker.Text

set_option autoImplicit false

/-! ## Sizes of characters -/

/-- The sizes of characters together. -/
def encodedSize : List Char → Nat
  | [] => 0
  | c :: cs => c.utf8Size + encodedSize cs

theorem encodedSize_append (cs ds : List Char) :
    encodedSize (cs ++ ds) = encodedSize cs + encodedSize ds := by
  induction cs with
  | nil => simp [encodedSize]
  | cons c cs ih => simp only [List.cons_append, encodedSize, ih, Nat.add_assoc]

theorem encodedSize_reverse (cs : List Char) : encodedSize cs.reverse = encodedSize cs := by
  induction cs with
  | nil => rfl
  | cons c cs ih =>
      rw [List.reverse_cons, encodedSize_append, ih, encodedSize, encodedSize, encodedSize,
        Nat.add_zero, Nat.add_comm]

theorem utf8ByteSize_ofList (cs : List Char) : (String.ofList cs).utf8ByteSize = encodedSize cs := by
  induction cs with
  | nil => rfl
  | cons c cs ih =>
      rw [← List.singleton_append, String.ofList_append, String.utf8ByteSize_append, ih,
        ← String.singleton_eq_ofList, String.utf8ByteSize_singleton]
      rfl

theorem toNat_ofNat {n : Nat} (valid : n.isValidChar) : (Char.ofNat n).val.toNat = n := by
  rw [Char.ofNat, dif_pos valid]
  rfl

/-- The size of a character by its number. -/
theorem utf8Size_ofNat {n : Nat} (valid : n.isValidChar) :
    (Char.ofNat n).utf8Size =
      if n ≤ 0x7F then 1 else if n ≤ 0x7FF then 2 else if n ≤ 0xFFFF then 3 else 4 := by
  simp only [Char.utf8Size, UInt32.le_iff_toNat_le, toNat_ofNat valid]
  rfl

/-! ## Single steps -/

theorem isContinuation_iff {b : UInt8} : isContinuation b ↔ 0x80 ≤ b.toNat ∧ b.toNat ≤ 0xBF := by
  simp [isContinuation, UInt8.le_iff_toNat_le]

/-- The second bytes that may follow a first byte. -/
theorem isSecondByte_iff {a b : UInt8} :
    isSecondByte a b ↔ 0x80 ≤ b.toNat ∧ b.toNat ≤ 0xBF ∧ (a.toNat = 0xE0 → 0xA0 ≤ b.toNat) ∧
      (a.toNat = 0xED → b.toNat ≤ 0x9F) ∧ (a.toNat = 0xF0 → 0x90 ≤ b.toNat) ∧
      (a.toNat = 0xF4 → b.toNat ≤ 0x8F) := by
  have number : ∀ x : UInt8, (a == x) = true ↔ a.toNat = x.toNat := by simp [← UInt8.toNat_inj]
  simp only [isSecondByte, number]
  repeat' split
  all_goals
    simp only [Bool.and_eq_true, decide_eq_true_eq, UInt8.le_iff_toNat_le, isContinuation_iff,
      UInt8.reduceToNat] at *
    omega

/-- A character that is found has the size of the bytes it was found in. -/
theorem utf8Step_char {first : UInt8} {rest : Bytes} {c : Char} {n : Nat}
    (found : utf8Step first rest = .char c n) : c.utf8Size = n := by
  unfold utf8Step at found
  repeat' split at found
  all_goals simp only [reduceCtorEq, Utf8Step.char.injEq] at found
  all_goals obtain ⟨rfl, rfl⟩ := found
  all_goals
    simp only [Bool.or_eq_true, decide_eq_true_eq, UInt8.lt_iff_toNat_lt, isContinuation_iff,
      isSecondByte_iff, UInt8.reduceToNat, lowBits] at *
  · rw [utf8Size_ofNat (.inl (by omega)), if_pos (by omega)]
  · rw [utf8Size_ofNat (.inl (by omega)), if_neg (by omega), if_pos (by omega)]
  · -- the second bytes that are left out are those of shorter forms and of surrogates
    rw [utf8Size_ofNat (by unfold Nat.isValidChar; omega), if_neg (by omega), if_neg (by omega),
      if_pos (by omega)]
  · rw [utf8Size_ofNat (by unfold Nat.isValidChar; omega), if_neg (by omega), if_neg (by omega),
      if_neg (by omega)]

/-- A fault is not longer than a replacement. -/
theorem utf8Step_fault {first : UInt8} {rest : Bytes} {n : Nat}
    (found : utf8Step first rest = .fault n) : n ≤ replacement.utf8Size := by
  unfold utf8Step at found
  repeat' split at found
  all_goals cases found
  all_goals decide

/-! ## Whole texts -/

/-- The bytes that were read are no more than the text that came of them. -/
theorem length_le_decodeFrom (acc : List Char) (skip : Nat) (bytes : Bytes) :
    encodedSize acc + bytes.length ≤ encodedSize (decodeFrom acc skip bytes) + skip := by
  fun_induction decodeFrom acc skip bytes with
  | case1 acc skip => simp [encodedSize_reverse]
  | case2 acc skip b rest ih =>
      simp only [List.length_cons]
      omega
  | case3 acc b rest c n found ih =>
      have size := utf8Step_char found
      have pos := c.utf8Size_pos
      simp only [encodedSize, List.length_cons] at ih ⊢
      omega
  | case4 acc b rest n found ih =>
      have size := utf8Step_fault found
      have pos := replacement.utf8Size_pos
      simp only [encodedSize, List.length_cons] at ih ⊢
      omega

/-- **Reading bytes as text never makes them shorter.** -/
theorem length_le_decodeLossy (bytes : Bytes) :
    bytes.length ≤ (decodeLossy bytes).utf8ByteSize := by
  have := length_le_decodeFrom [] 0 bytes
  rw [decodeLossy, utf8ByteSize_ofList]
  simpa [encodedSize] using this

end ThreatMarker.Text
