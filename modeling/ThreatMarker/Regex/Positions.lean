/-
# Sets of positions

A set of positions in a text, as a strictly descending list.  Descending order suits a search that
moves forward: what a closure adds next lies ahead of what it has, so `union` and `diff` look at the
front of the lists only.

`mem_union` and `mem_diff` hold of descending lists; `union_descending` and `diff_descending` keep
the order.
-/

namespace ThreatMarker.Regex

set_option autoImplicit false

/-- Positions, largest first. -/
abbrev Positions := List Nat

namespace Positions

/-- Every position of a text of length `n`, its end included. -/
def upTo : Nat → Positions
  | 0 => [0]
  | n + 1 => (n + 1) :: upTo n

/-- The union of two descending lists. -/
def union : Positions → Positions → Positions
  | [], ys => ys
  | xs, [] => xs
  | x :: xs, y :: ys =>
      if y < x then x :: union xs (y :: ys)
      else if x < y then y :: union (x :: xs) ys
      else x :: union xs ys
termination_by xs ys => xs.length + ys.length

/-- The members of the first descending list that the second lacks. -/
def diff : Positions → Positions → Positions
  | [], _ => []
  | xs, [] => xs
  | x :: xs, y :: ys =>
      if y < x then x :: diff xs (y :: ys)
      else if x < y then diff (x :: xs) ys
      else diff xs ys
termination_by xs ys => xs.length + ys.length

theorem mem_upTo {i n : Nat} : i ∈ upTo n ↔ i ≤ n := by
  induction n with
  | zero => simp [upTo]
  | succ n ih => simp only [upTo, List.mem_cons, ih]; omega

theorem mem_union {xs ys : Positions} {i : Nat} : i ∈ union xs ys ↔ i ∈ xs ∨ i ∈ ys := by
  fun_induction union xs ys with
  | case1 => simp
  | case2 => simp
  | case3 x xs y ys _ ih => simp only [List.mem_cons, ih]; grind
  | case4 x xs y ys _ _ ih => simp only [List.mem_cons, ih]; grind
  | case5 x xs y ys _ _ ih => simp only [List.mem_cons, ih]; grind

theorem mem_diff_subset {xs ys : Positions} {i : Nat} (h : i ∈ diff xs ys) : i ∈ xs := by
  fun_induction diff xs ys <;> grind

/-- The positions are in strictly descending order. -/
def Descending (xs : Positions) : Prop := xs.Pairwise (fun i j => j < i)

theorem descending_cons {x : Nat} {xs : Positions} :
    Descending (x :: xs) ↔ (∀ i ∈ xs, i < x) ∧ Descending xs := List.pairwise_cons

/-- The first position of a descending list is the largest. -/
theorem Descending.le_head {x i : Nat} {xs : Positions} (h : Descending (x :: xs))
    (member : i ∈ x :: xs) : i ≤ x := by
  rcases List.mem_cons.1 member with rfl | member
  · exact Nat.le_refl i
  · exact Nat.le_of_lt ((descending_cons.1 h).1 i member)

theorem upTo_descending (n : Nat) : Descending (upTo n) := by
  induction n with
  | zero => simp [Descending, upTo]
  | succ n ih =>
      refine descending_cons.2 ⟨fun i member => ?_, ih⟩
      have := mem_upTo.1 member
      omega

theorem union_descending {xs ys : Positions} (hx : Descending xs) (hy : Descending ys) :
    Descending (union xs ys) := by
  fun_induction union xs ys with
  | case1 => exact hy
  | case2 => exact hx
  | case3 x xs y ys _ ih =>
      have hx := descending_cons.1 hx
      refine descending_cons.2 ⟨fun i member => ?_, ih hx.2 hy⟩
      rcases mem_union.1 member with member | member
      · exact hx.1 i member
      · have := hy.le_head member
        omega
  | case4 x xs y ys _ _ ih =>
      have hy := descending_cons.1 hy
      refine descending_cons.2 ⟨fun i member => ?_, ih hx hy.2⟩
      rcases mem_union.1 member with member | member
      · have := hx.le_head member
        omega
      · exact hy.1 i member
  | case5 x xs y ys _ _ ih =>
      have hx := descending_cons.1 hx
      have hy := descending_cons.1 hy
      refine descending_cons.2 ⟨fun i member => ?_, ih hx.2 hy.2⟩
      rcases mem_union.1 member with member | member
      · exact hx.1 i member
      · have := hy.1 i member
        omega

theorem mem_diff {xs ys : Positions} {i : Nat} (hx : Descending xs) (hy : Descending ys) :
    i ∈ diff xs ys ↔ i ∈ xs ∧ i ∉ ys := by
  fun_induction diff xs ys with
  | case1 => simp
  | case2 => simp
  | case3 x xs y ys above ih =>
      have absent : x ∉ y :: ys := fun member => by have := hy.le_head member; omega
      rw [List.mem_cons, List.mem_cons, ih (descending_cons.1 hx).2 hy]
      constructor
      · rintro (rfl | ⟨member, other⟩)
        · exact ⟨.inl rfl, absent⟩
        · exact ⟨.inr member, other⟩
      · rintro ⟨rfl | member, other⟩
        · exact .inl rfl
        · exact .inr ⟨member, other⟩
  | case4 x xs y ys _ below ih =>
      have absent : y ∉ x :: xs := fun member => by have := hx.le_head member; omega
      rw [ih hx (descending_cons.1 hy).2, List.mem_cons (b := y), not_or]
      exact ⟨fun ⟨member, other⟩ => ⟨member, fun same => absent (same ▸ member), other⟩,
        fun ⟨member, _, other⟩ => ⟨member, other⟩⟩
  | case5 x xs y ys _ _ ih =>
      obtain rfl : x = y := by omega
      have hx := descending_cons.1 hx
      have hy := descending_cons.1 hy
      rw [ih hx.2 hy.2, List.mem_cons, List.mem_cons, not_or]
      constructor
      · rintro ⟨member, other⟩
        exact ⟨.inr member, fun same => by have := hx.1 i member; omega, other⟩
      · rintro ⟨rfl | member, differs, other⟩
        · exact absurd rfl differs
        · exact ⟨member, other⟩

theorem diff_descending {xs ys : Positions} (hx : Descending xs) : Descending (diff xs ys) := by
  fun_induction diff xs ys with
  | case1 => exact hx
  | case2 => exact hx
  | case3 x xs y ys _ ih =>
      have hx := descending_cons.1 hx
      exact descending_cons.2 ⟨fun i member => hx.1 i (mem_diff_subset member), ih hx.2⟩
  | case4 x xs y ys _ _ ih => exact ih hx
  | case5 x xs y ys _ _ ih => exact ih (descending_cons.1 hx).2

end Positions

end ThreatMarker.Regex
