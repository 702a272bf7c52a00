import ThreatMarker.Proofs.Net.Networks
import ThreatMarker.Rule.Exclusion
/-
# Excluded clients

A client is left out where its address agrees with the base of an accepted network on the bits that
count (`isExcluded_iff`), whether the networks are read beforehand or for each client
(`contains_ofTexts`).  A text that is not accepted might as well not be there (`ofTexts_filter`).
-/

namespace ThreatMarker.Rule

set_option autoImplicit false

open Net (Address Network Written)

/-- A text is accepted as the network of the addresses that begin with the first `n` bits of an
address: it is written as this network, and the address has no bits after them. -/
structure IsNetwork (text : String) (base : Address) (n : Nat) : Prop where
  written : Written text.toList base n
  whole : base.IsBase n

theorem IsNetwork.contains_iff {text : String} {base : Address} {n : Nat}
    (accepted : IsNetwork text base n) (a : Address) :
    (Network.of base n).contains a = true ↔ a.AgreesWith base n :=
  Net.contains_of_iff accepted.written.le_width accepted.whole

/-- A text is accepted as some network. -/
def Accepted (text : String) : Prop := ∃ base n, IsNetwork text base n

theorem network?_eq_some_iff {text : String} {network : Network} :
    Exclusions.network? text = some network ↔
      ∃ base n, IsNetwork text base n ∧ network = .of base n := by
  have read : Exclusions.network? text = some network ↔ Network.ofText text = .ok network := by
    unfold Exclusions.network?
    cases Network.ofText text <;> simp
  rw [read, Net.ofText_eq_ok_iff]
  constructor
  · rintro ⟨base, n, written, whole, same⟩
    exact ⟨base, n, ⟨written, whole⟩, same⟩
  · rintro ⟨base, n, ⟨written, whole⟩, same⟩
    exact ⟨base, n, written, whole, same⟩

theorem isSome_network?_iff {text : String} :
    (Exclusions.network? text).isSome = true ↔ Accepted text := by
  rw [Option.isSome_iff_exists]
  constructor
  · rintro ⟨network, read⟩
    obtain ⟨base, n, accepted, -⟩ := network?_eq_some_iff.1 read
    exact ⟨base, n, accepted⟩
  · rintro ⟨base, n, accepted⟩
    exact ⟨_, network?_eq_some_iff.2 ⟨base, n, accepted, rfl⟩⟩

instance : DecidablePred Accepted := fun _ => decidable_of_iff _ isSome_network?_iff

/-! ## What is not accepted -/

/-- A text with bits after those that count is not accepted. -/
theorem not_accepted_of_written {text : String} {base : Address} {n : Nat}
    (written : Written text.toList base n) (more : ¬ base.IsBase n) : ¬ Accepted text := by
  intro accepted
  obtain ⟨network, read⟩ := Option.isSome_iff_exists.1 (isSome_network?_iff.2 accepted)
  obtain ⟨fault, refused⟩ := (Net.ofText_of_written written).2 more
  rw [Exclusions.network?, refused] at read
  cases read

/-- A text with blanks is not accepted. -/
theorem not_accepted_of_isBlank {text : String} {c : Char} (member : c ∈ text.toList)
    (blank : Unicode.isBlank c = true) : ¬ Accepted text := by
  rintro ⟨base, n, accepted⟩
  rw [accepted.written.not_isBlank c member] at blank
  cases blank

/-! ## Lists of networks -/

/-- Reading networks beforehand and reading them for each record come to the same. -/
theorem contains_ofTexts (ip : String) (networks : List String) :
    (Exclusions.ofTexts networks).contains ip = isExcluded ip networks := by
  unfold Exclusions.contains isExcluded Exclusions.ofTexts
  cases Address.ofText? ip.toList with
  | none => rfl
  | some address =>
      show (networks.filterMap Exclusions.network?).any (fun n => n.contains address) = _
      rw [List.any_filterMap]
      congr 1
      funext text
      unfold Exclusions.network?
      cases Network.ofText text <;> rfl

/-- The networks that are kept are those of the accepted texts. -/
theorem ofTexts_filter (networks : List String) :
    Exclusions.ofTexts (networks.filter fun text => Accepted text) = .ofTexts networks := by
  unfold Exclusions.ofTexts
  rw [List.filterMap_filter]
  congr 2
  funext text
  by_cases accepted : Accepted text
  · rw [decide_eq_true accepted]
    rfl
  · rw [decide_eq_false accepted]
    exact (Option.not_isSome_iff_eq_none.1 fun read => accepted (isSome_network?_iff.1 read)).symm

theorem size_ofTexts (networks : List String) :
    (Exclusions.ofTexts networks).size = networks.countP fun text => Accepted text := by
  unfold Exclusions.size Exclusions.ofTexts
  rw [List.length_filterMap_eq_countP]
  refine List.countP_congr fun text _ => ?_
  rw [isSome_network?_iff, decide_eq_true_iff]

/-- A client is left out where its address agrees with the base of one of the networks. -/
theorem isExcluded_iff (ip : String) (networks : List String) :
    isExcluded ip networks = true ↔
      ∃ a, Address.ofText? ip.toList = some a ∧
        ∃ text ∈ networks, ∃ base n, IsNetwork text base n ∧ a.AgreesWith base n := by
  rw [← contains_ofTexts, Exclusions.contains]
  cases Address.ofText? ip.toList with
  | none => simp
  | some a =>
      simp only [Option.some.injEq, exists_eq_left', Exclusions.ofTexts, List.any_eq_true,
        List.mem_filterMap]
      constructor
      · rintro ⟨network, ⟨text, member, read⟩, inside⟩
        obtain ⟨base, n, accepted, rfl⟩ := network?_eq_some_iff.1 read
        exact ⟨text, member, base, n, accepted, (accepted.contains_iff a).1 inside⟩
      · rintro ⟨text, member, base, n, accepted, agree⟩
        have read := network?_eq_some_iff.2 ⟨base, n, accepted, rfl⟩
        exact ⟨_, ⟨text, member, read⟩, (accepted.contains_iff a).2 agree⟩

/-- **A client is left out exactly if its address begins with the bits of an accepted network of its
version**, in both ways to ask; and texts that are not accepted, such as those with blanks or with bits
after those that count, neither count nor matter. -/
theorem exclusion_by_first_bits (ip : String) (networks : List String) :
    isExcluded ip networks = (Exclusions.ofTexts networks).contains ip ∧
      (isExcluded ip networks = true ↔
        ∃ a, Address.ofText? ip.toList = some a ∧
          ∃ text ∈ networks, ∃ base n, Written text.toList base n ∧ n ≤ base.width ∧
            base.IsBase n ∧ a.AgreesWith base n) ∧
      (∀ text base n, Written text.toList base n → ¬ base.IsBase n → ¬ Accepted text) ∧
      (∀ text : String, (∃ c ∈ text.toList, Unicode.isBlank c = true) → ¬ Accepted text) ∧
      Exclusions.ofTexts networks = .ofTexts (networks.filter fun text => Accepted text) ∧
      isExcluded ip networks = isExcluded ip (networks.filter fun text => Accepted text) ∧
      (Exclusions.ofTexts networks).size = networks.countP fun text => Accepted text := by
  refine ⟨(contains_ofTexts ip networks).symm, ?_, ?_, ?_, (ofTexts_filter networks).symm, ?_,
    size_ofTexts networks⟩
  · rw [isExcluded_iff]
    constructor
    · rintro ⟨a, read, text, member, base, n, accepted, agree⟩
      exact ⟨a, read, text, member, base, n, accepted.written, accepted.written.le_width,
        accepted.whole, agree⟩
    · rintro ⟨a, read, text, member, base, n, written, -, whole, agree⟩
      exact ⟨a, read, text, member, base, n, ⟨written, whole⟩, agree⟩
  · exact fun text base n written more => not_accepted_of_written written more
  · rintro text ⟨c, member, blank⟩
    exact not_accepted_of_isBlank member blank
  · rw [← contains_ofTexts, ← contains_ofTexts, ofTexts_filter]

example : isExcluded "14.19.5.10" ["14.19.5.0/16", "14.19.0.0/16 ", "::/0"] = false := by decide +kernel

example : isExcluded "14.19.5.10" ["14.19.5.0/16", "14.19.0.0/255.255.0.0"] = true := by decide +kernel

end ThreatMarker.Rule
