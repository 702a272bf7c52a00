import ThreatMarker.Net.Network
import ThreatMarker.Unicode.Blank
/-
# Networks as the first bits of addresses

A mask keeps the first bits of an address and clears the others, so what is left of an address is the
base of a network exactly if the two agree on those bits and the base has no others
(`and_mask_eq_iff`).  `Written` says how a network may be written, and reading finds just that
(`parts?_eq_some_iff`): no character that could pad it belongs to an address or to a number
(`Written.not_isBlank`).  A text is accepted as a network where it is written as one and its base has
no bits after those that count (`ofText_eq_ok_iff`), and the network has the addresses that agree with
the base on them (`contains_of_iff`).
-/

namespace ThreatMarker.Net

set_option autoImplicit false

/-! ## Bits -/

namespace Address

/-- How many bits an address has, which tells its version. -/
def width : Address → Nat
  | .v4 _ => 32
  | .v6 _ => 128

/-- The bit at a place, counted from the front. -/
def bit : Address → Nat → Bool
  | .v4 bits, i => bits.getMsbD i
  | .v6 bits, i => bits.getMsbD i

/-- No bit is set after the first `n`. -/
def IsBase (a : Address) (n : Nat) : Prop := ∀ i < a.width, n ≤ i → a.bit i = false

/-- Two addresses are of one version and begin with the same `n` bits. -/
def AgreesWith (a b : Address) (n : Nat) : Prop := a.width = b.width ∧ ∀ i < n, a.bit i = b.bit i

end Address

/-- A mask is ones and then zeros. -/
theorem getMsbD_mask {w n : Nat} (fits : n ≤ w) (i : Nat) :
    (mask w n).getMsbD i = decide (i < n) := by
  rw [mask, BitVec.getMsbD_shiftLeft, BitVec.getMsbD_allOnes, decide_eq_decide]
  omega

theorem and_mask_eq_iff {w n : Nat} (fits : n ≤ w) (a base : BitVec w) :
    a &&& mask w n = base ↔
      (∀ i < n, a.getMsbD i = base.getMsbD i) ∧ ∀ i < w, n ≤ i → base.getMsbD i = false := by
  constructor
  · rintro rfl
    refine ⟨fun i inside => ?_, fun i _ outside => ?_⟩
    · rw [BitVec.getMsbD_and, getMsbD_mask fits, decide_eq_true inside, Bool.and_true]
    · rw [BitVec.getMsbD_and, getMsbD_mask fits, decide_eq_false (by omega), Bool.and_false]
  · rintro ⟨same, clear⟩
    refine BitVec.eq_of_getMsbD_eq fun i bound => ?_
    rw [BitVec.getMsbD_and, getMsbD_mask fits]
    by_cases inside : i < n
    · rw [decide_eq_true inside, Bool.and_true, same i inside]
    · rw [decide_eq_false inside, Bool.and_false, clear i bound (by omega)]

/-- Masks of different lengths are different. -/
theorem mask_inj {w n m : Nat} (fits : n ≤ w) (fits' : m ≤ w) (same : mask w n = mask w m) :
    n = m := by
  have bits (i : Nat) : i < n ↔ i < m := by
    rw [← decide_eq_decide, ← getMsbD_mask fits, ← getMsbD_mask fits', same]
  have below := bits n
  have above := bits m
  omega

/-! ## Characters -/

/-- A character that can be in the text of an address. -/
def IsAddressChar (c : Char) : Prop :=
  c.isDigit = true ∨ ('a' ≤ c ∧ c ≤ 'f') ∨ ('A' ≤ c ∧ c ≤ 'F') ∨ c = '.' ∨ c = ':'

instance (c : Char) : Decidable (IsAddressChar c) := inferInstanceAs (Decidable (_ ∨ _))

theorem isAddressChar_of_isDigitOf {base : Nat} {c : Char} (digit : isDigitOf base c = true) :
    IsAddressChar c := by
  unfold isDigitOf digit? at digit
  unfold IsAddressChar
  by_cases decimal : c.isDigit = true
  · exact .inl decimal
  · by_cases small : 'a' ≤ c ∧ c ≤ 'f'
    · exact .inr (.inl small)
    · by_cases large : 'A' ≤ c ∧ c ≤ 'F'
      · exact .inr (.inr (.inl large))
      · simp [decimal, small, large] at digit

/-- The characters of addresses and numbers are graphic ASCII characters, so none of them is blank. -/
theorem not_isBlank_of_graphic {c : Char} (low : 0x20 < c.toNat) (high : c.toNat < 0x7F) :
    Unicode.isBlank c = false := by
  unfold Unicode.isBlank Unicode.whiteSpace Unicode.CharSet.contains
  simp only [Unicode.CharSet.memRanges]
  rw [if_neg (by omega), if_neg (by omega), if_neg (by omega), if_neg (by omega), if_pos (by omega)]

theorem IsAddressChar.not_isBlank {c : Char} (char : IsAddressChar c) : Unicode.isBlank c = false := by
  rcases char with digit | ⟨low, high⟩ | ⟨low, high⟩ | rfl | rfl
  · simp only [Char.isDigit, Bool.and_eq_true, decide_eq_true_eq] at digit
    have low : 48 ≤ c.toNat := digit.1
    have high : c.toNat ≤ 57 := digit.2
    exact not_isBlank_of_graphic (by omega) (by omega)
  · have low : 97 ≤ c.toNat := low
    have high : c.toNat ≤ 102 := high
    exact not_isBlank_of_graphic (by omega) (by omega)
  · have low : 65 ≤ c.toNat := low
    have high : c.toNat ≤ 70 := high
    exact not_isBlank_of_graphic (by omega) (by omega)
  · decide
  · decide

theorem chars_of_octet? {ds : List Char} {n : Nat} (read : octet? ds = some n) :
    ∀ c ∈ ds, IsAddressChar c := by
  unfold octet? at read
  split at read
  · simp at read
  · rename_i sound
    simp only [Bool.or_eq_true, not_or, Bool.not_eq_true', Bool.not_eq_false] at sound
    exact fun c member => isAddressChar_of_isDigitOf (List.all_eq_true.1 sound.2 c member)

theorem chars_of_group? {ds : List Char} {n : Nat} (read : group? ds = some n) :
    ∀ c ∈ ds, IsAddressChar c := by
  unfold group? at read
  split at read
  · cases read
  · rename_i sound
    simp only [Bool.or_eq_true, not_or, Bool.not_eq_true', Bool.not_eq_false] at sound
    exact fun c member => isAddressChar_of_isDigitOf (List.all_eq_true.1 sound.2 c member)

/-- An address of version 4 has four parts. -/
theorem parts_of_readV4? {text : List Char} {n : Nat} (read : readV4? text = some n) :
    ∃ a b c d, Text.cutAt '.' text = [a, b, c, d] ∧
      ∀ part ∈ [a, b, c, d], ∃ m, octet? part = some m := by
  unfold readV4? at read
  split at read
  · rename_i a b c d cut
    split at read
    · rename_i first second third fourth
      exact ⟨a, b, c, d, cut, by simp [first, second, third, fourth]⟩
    · cases read
  · cases read

theorem chars_of_readV4? {text : List Char} {n : Nat} (read : readV4? text = some n) :
    ∀ c ∈ text, IsAddressChar c := by
  obtain ⟨a, b, c, d, cut, octets⟩ := parts_of_readV4? read
  intro x member
  rcases Text.mem_of_cutAt (c := '.') member with rfl | ⟨part, listed, inside⟩
  · decide
  · obtain ⟨m, octet⟩ := octets part (cut ▸ listed)
    exact chars_of_octet? octet x inside

theorem dot_mem_of_readV4? {text : List Char} {n : Nat} (read : readV4? text = some n) :
    '.' ∈ text := by
  obtain ⟨a, b, c, d, cut, -⟩ := parts_of_readV4? read
  refine Decidable.byContradiction fun absent => ?_
  rw [Text.cutAt_eq_singleton absent] at cut
  cases cut

theorem chars_of_groups? {final : Bool} {parts : List (List Char)} {gs : List Nat}
    (read : groups? final parts = some gs) : ∀ part ∈ parts, ∀ c ∈ part, IsAddressChar c := by
  fun_induction groups? final parts generalizing gs with
  | case1 => simp
  | case2 last g group => simpa using chars_of_group? group
  | case3 last _ =>
      -- the last part may be an address of version 4
      obtain ⟨n, v4, -⟩ := Option.map_eq_some_iff.1 read
      simpa using chars_of_readV4? v4
  | case4 => cases read
  | case5 part parts _ g gs' later group ih =>
      exact List.forall_mem_cons.2 ⟨chars_of_group? group, ih later⟩
  | case6 => cases read

theorem chars_of_side? {final : Bool} {text : List Char} {gs : List Nat}
    (read : side? final text = some gs) : ∀ c ∈ text, IsAddressChar c := by
  unfold side? at read
  split at read
  · rename_i empty
    simp [List.isEmpty_iff.1 empty]
  · intro c member
    rcases Text.mem_of_cutAt (c := ':') member with rfl | ⟨part, listed, inside⟩
    · decide
    · exact chars_of_groups? read part listed c inside

theorem eq_of_cutAtGap {text front back : List Char} (cut : cutAtGap text = some (front, back)) :
    text = front ++ [':', ':'] ++ back := by
  fun_induction cutAtGap text generalizing front back with
  | case1 rest =>
      cases cut
      rfl
  | case2 c rest _ ih =>
      obtain ⟨⟨front', back'⟩, later, same⟩ := Option.map_eq_some_iff.1 cut
      cases same
      rw [ih later]
      rfl
  | case3 => cases cut

theorem chars_of_readV6? {text : List Char} {n : Nat} (read : readV6? text = some n) :
    ∀ c ∈ text, IsAddressChar c := by
  unfold readV6? at read
  split at read
  · split at read
    · rename_i side
      exact chars_of_side? side
    · cases read
  · rename_i front back cut
    split at read
    · rename_i side side'
      have mark : ∀ c ∈ [':', ':'], IsAddressChar c := by simp [IsAddressChar]
      rw [eq_of_cutAtGap cut]
      exact List.forall_mem_append.2
        ⟨List.forall_mem_append.2 ⟨chars_of_side? side, mark⟩, chars_of_side? side'⟩
    · cases read

/-- The text of an address has no other characters. -/
theorem chars_of_address {text : List Char} {a : Address} (read : Address.ofText? text = some a) :
    ∀ c ∈ text, IsAddressChar c := by
  unfold Address.ofText? at read
  split at read
  · rename_i v4
    exact chars_of_readV4? v4
  · obtain ⟨n, v6, -⟩ := Option.map_eq_some_iff.1 read
    exact chars_of_readV6? v6

theorem slash_not_mem_of_address {text : List Char} {a : Address}
    (read : Address.ofText? text = some a) : '/' ∉ text :=
  fun member => absurd (chars_of_address read _ member) (by decide)

theorem chars_of_readNatural? {limit n : Nat} {text : List Char}
    (read : Decimal.readNatural? limit text = some n) :
    ∀ c ∈ text, c = '+' ∨ c.isDigit = true := by
  have digits {ds : List Char} {m : Nat} (read : Decimal.readDigits? ds = some m) :
      ∀ c ∈ ds, c.isDigit = true := by
    unfold Decimal.readDigits? at read
    split at read
    · cases read
    · rename_i sound
      simp only [Bool.or_eq_true, not_or, Bool.not_eq_true', Bool.not_eq_false] at sound
      exact List.all_eq_true.1 sound.2
  unfold Decimal.readNatural? at read
  obtain ⟨read, -⟩ := Option.filter_eq_some_iff.1 read
  split at read
  · exact List.forall_mem_cons.2 ⟨.inl rfl, fun c member => .inr (digits read c member)⟩
  · exact fun c member => .inr (digits read c member)

theorem not_mem_of_readNatural? {limit n : Nat} {text : List Char} {c : Char}
    (read : Decimal.readNatural? limit text = some n) (other : ¬ (c = '+' ∨ c.isDigit = true)) :
    c ∉ text :=
  fun member => other (chars_of_readNatural? read c member)

/-! ## Written networks -/

/-- How a network of the addresses that begin with the first bits of an address is written: the address
alone, of which all bits count; the address, a slash and the number of bits that count; or, for
version 4, the address, a slash and the mask of those bits. -/
inductive Written (text : List Char) : Address → Nat → Prop where
  | bare {a : Address} (address : Address.ofText? text = some a) : Written text a a.width
  | sized {front back : List Char} {a : Address} {n : Nat} (cut : text = front ++ '/' :: back)
      (address : Address.ofText? front = some a)
      (length : Decimal.readNatural? a.width back = some n) : Written text a n
  | masked {front back : List Char} {a : BitVec 32} {bits n : Nat} (cut : text = front ++ '/' :: back)
      (address : Address.ofText? front = some (.v4 a)) (read : readV4? back = some bits)
      (fits : n ≤ 32) (ones : mask 32 n = BitVec.ofNat 32 bits) : Written text (.v4 a) n

theorem maskLength?_eq_some_iff {bits : BitVec 32} {n : Nat} :
    Network.maskLength? bits = some n ↔ n ≤ 32 ∧ mask 32 n = bits := by
  rw [Network.maskLength?, List.find?_range_eq_some, beq_iff_eq, List.mem_range]
  constructor
  · rintro ⟨same, small, -⟩
    exact ⟨by omega, same⟩
  · rintro ⟨small, rfl⟩
    refine ⟨rfl, by omega, fun m less => ?_⟩
    have other : mask 32 m ≠ mask 32 n := fun same => by
      have := mask_inj (by omega) small same
      omega
    simpa using other

/-- A length for version 4 is a number or a mask. -/
theorem length?_v4_eq_some_iff {text : List Char} {n : Nat} :
    Network.length? true text = some n ↔
      Decimal.readNatural? 32 text = some n ∨
        ∃ bits, readV4? text = some bits ∧ n ≤ 32 ∧ mask 32 n = BitVec.ofNat 32 bits := by
  unfold Network.length?
  cases read : readV4? text with
  | none => simp
  | some bits =>
      have dot := dot_mem_of_readV4? read
      have number : Decimal.readNatural? 32 text ≠ some n := fun number =>
        not_mem_of_readNatural? number (by decide) dot
      simp [number, maskLength?_eq_some_iff]

theorem length?_v6 (text : List Char) :
    Network.length? false text = Decimal.readNatural? 128 text := by
  unfold Network.length?
  rfl

namespace Written

variable {text : List Char} {a : Address} {n : Nat}

/-- No more bits count than there are. -/
theorem le_width (written : Written text a n) : n ≤ a.width := by
  cases written with
  | bare => exact Nat.le_refl _
  | sized _ _ length => exact Decimal.readNatural?_le length
  | masked _ _ _ fits => exact fits

/-- A network is written without blanks, before it, after it or inside. -/
theorem not_isBlank (written : Written text a n) : ∀ c ∈ text, Unicode.isBlank c = false := by
  have address {front : List Char} {a : Address} (read : Address.ofText? front = some a) :
      ∀ c ∈ front, Unicode.isBlank c = false :=
    fun c member => (chars_of_address read c member).not_isBlank
  have slash : Unicode.isBlank '/' = false := by decide
  cases written with
  | bare read => exact address read
  | sized cut read length =>
      rw [cut, List.forall_mem_append, List.forall_mem_cons]
      refine ⟨address read, slash, fun c member => ?_⟩
      rcases chars_of_readNatural? length c member with rfl | digit
      · decide
      · exact IsAddressChar.not_isBlank (.inl digit)
  | masked cut read read' =>
      rw [cut, List.forall_mem_append, List.forall_mem_cons]
      exact ⟨address read, slash, fun c member => (chars_of_readV4? read' c member).not_isBlank⟩

end Written

/-- What is cut at slashes into an address and a length. -/
theorem cutAt_slash {front back : List Char} {a : Address} (address : Address.ofText? front = some a)
    (inline : '/' ∉ back) : Text.cutAt '/' (front ++ '/' :: back) = [front, back] := by
  rw [Text.cutAt_append, Text.cutAt_eq_singleton (slash_not_mem_of_address address),
    Text.cutAt_eq_singleton inline]
  rfl

theorem parts?_of_written {text : List Char} {a : Address} {n : Nat} (written : Written text a n) :
    Network.parts? text = some (a, n) := by
  unfold Network.parts?
  cases written with
  | bare address =>
      rw [Text.cutAt_eq_singleton (slash_not_mem_of_address address)]
      simp only [address, Option.map_some]
      cases a <;> rfl
  | @sized front back a n cut address length =>
      rw [cut, cutAt_slash address (not_mem_of_readNatural? length (by decide))]
      simp only [address]
      cases a with
      | v4 bits =>
          have length : Network.length? true back = some n := length?_v4_eq_some_iff.2 (.inl length)
          simp only [length, Option.map_some]
      | v6 bits =>
          have length : Network.length? false back = some n := (length?_v6 back).trans length
          simp only [length, Option.map_some]
  | @masked front back a bits n cut address read fits ones =>
      have inline : '/' ∉ back := fun member => absurd (chars_of_readV4? read _ member) (by decide)
      have length : Network.length? true back = some n :=
        length?_v4_eq_some_iff.2 (.inr ⟨bits, read, fits, ones⟩)
      rw [cut, cutAt_slash address inline]
      simp only [address, length, Option.map_some]

theorem written_of_parts? {text : List Char} {a : Address} {n : Nat}
    (read : Network.parts? text = some (a, n)) : Written text a n := by
  have whole := Text.intercalate_cutAt '/' text
  unfold Network.parts? at read
  split at read
  · rename_i address cut
    rw [cut, List.intercalate_singleton] at whole
    subst whole
    obtain ⟨b, address, same⟩ := Option.map_eq_some_iff.1 read
    cases b <;> cases same <;> exact .bare address
  · rename_i front back cut
    rw [cut, List.intercalate_cons_cons, List.intercalate_singleton, List.append_assoc] at whole
    split at read
    · rename_i bits address
      obtain ⟨m, length, same⟩ := Option.map_eq_some_iff.1 read
      cases same
      rcases length?_v4_eq_some_iff.1 length with length | ⟨m, read, fits, ones⟩
      · exact .sized whole.symm address length
      · exact .masked whole.symm address read fits ones
    · rename_i bits address
      obtain ⟨m, length, same⟩ := Option.map_eq_some_iff.1 read
      cases same
      exact .sized whole.symm address ((length?_v6 back).symm.trans length)
    · cases read
  · cases read

/-- **What is read is what is written.** -/
theorem parts?_eq_some_iff {text : List Char} {a : Address} {n : Nat} :
    Network.parts? text = some (a, n) ↔ Written text a n :=
  ⟨written_of_parts?, parts?_of_written⟩

/-! ## Networks -/

/-- The addresses that begin with the first bits of an address. -/
def Network.of : Address → Nat → Network
  | .v4 a, n => .v4 a n
  | .v6 a, n => .v6 a n

/-- **A network has the addresses of its version that agree with its base on the bits that count.** -/
theorem contains_of_iff {base a : Address} {n : Nat} (fits : n ≤ base.width) (whole : base.IsBase n) :
    (Network.of base n).contains a = true ↔ a.AgreesWith base n := by
  cases base with
  | v4 base =>
      cases a with
      | v4 a =>
          have fits : n ≤ 32 := fits
          show (a &&& mask 32 n == base) = true ↔ _
          rw [beq_iff_eq, and_mask_eq_iff fits]
          exact ⟨fun ⟨same, _⟩ => ⟨rfl, same⟩, fun ⟨_, same⟩ => ⟨same, whole⟩⟩
      | v6 a => exact iff_of_false Bool.false_ne_true fun agree => by cases agree.1
  | v6 base =>
      cases a with
      | v4 a => exact iff_of_false Bool.false_ne_true fun agree => by cases agree.1
      | v6 a =>
          have fits : n ≤ 128 := fits
          show (a &&& mask 128 n == base) = true ↔ _
          rw [beq_iff_eq, and_mask_eq_iff fits]
          exact ⟨fun ⟨same, _⟩ => ⟨rfl, same⟩, fun ⟨_, same⟩ => ⟨same, whole⟩⟩

/-- A mask leaves the base of a network as it is, and nothing else. -/
theorem and_mask_self_iff {w n : Nat} (fits : n ≤ w) (base : BitVec w) :
    (base &&& mask w n == base) = true ↔ ∀ i < w, n ≤ i → base.getMsbD i = false := by
  rw [beq_iff_eq, and_mask_eq_iff fits]
  exact ⟨fun ⟨_, whole⟩ => whole, fun whole => ⟨fun _ _ => rfl, whole⟩⟩

/-- What is written as a network is one if its address is a base. -/
theorem ofText_of_written {text : String} {a : Address} {n : Nat} (written : Written text.toList a n) :
    (a.IsBase n → Network.ofText text = .ok (.of a n)) ∧
      (¬ a.IsBase n → ∃ fault, Network.ofText text = .error fault) := by
  have fits := written.le_width
  unfold Network.ofText
  rw [parts?_of_written written]
  cases a with
  | v4 a =>
      have kept := and_mask_self_iff (w := 32) fits a
      exact ⟨fun whole => if_pos (kept.2 whole), fun other => ⟨_, if_neg fun same => other (kept.1 same)⟩⟩
  | v6 a =>
      have kept := and_mask_self_iff (w := 128) fits a
      exact ⟨fun whole => if_pos (kept.2 whole), fun other => ⟨_, if_neg fun same => other (kept.1 same)⟩⟩

/-- **A text is a network where it is written as one and its address is a base.** -/
theorem ofText_eq_ok_iff {text : String} {network : Network} :
    Network.ofText text = .ok network ↔
      ∃ base n, Written text.toList base n ∧ base.IsBase n ∧ network = .of base n := by
  constructor
  · intro ok
    cases read : Network.parts? text.toList with
    | none =>
        rw [Network.ofText, read] at ok
        cases ok
    | some both =>
        have written := parts?_eq_some_iff.1 read
        obtain ⟨accepted, refused⟩ := ofText_of_written written
        by_cases whole : both.1.IsBase both.2
        · rw [accepted whole] at ok
          cases ok
          exact ⟨_, _, written, whole, rfl⟩
        · obtain ⟨fault, error⟩ := refused whole
          rw [error] at ok
          cases ok
  · rintro ⟨base, n, written, whole, rfl⟩
    exact (ofText_of_written written).1 whole

end ThreatMarker.Net
