/-
# Cutting texts

Cutting a text at every occurrence of a character, and looking for one text inside another.
-/

namespace ThreatMarker.Text

set_option autoImplicit false

/-- Cut a text at every occurrence of a character.  The parts so far are in `parts` and the characters
of the next one in `part`, both with the last one first. -/
def cutFrom (c : Char) (parts : List (List Char)) (part : List Char) :
    List Char → List (List Char)
  | [] => (part.reverse :: parts).reverse
  | x :: rest =>
      if x == c then cutFrom c (part.reverse :: parts) [] rest
      else cutFrom c parts (x :: part) rest

/-- Cut a text at every occurrence of a character. -/
def cutAt (c : Char) (text : List Char) : List (List Char) := cutFrom c [] [] text

/-- What `cutFrom` does with the parts that it is given. -/
theorem cutFrom_eq (c : Char) (parts : List (List Char)) (part cs : List Char) :
    cutFrom c parts part cs = parts.reverse ++ cutFrom c [] part cs := by
  induction cs generalizing parts part with
  | nil => simp [cutFrom]
  | cons x rest ih =>
      simp only [cutFrom]
      split
      · rw [ih (part.reverse :: parts), ih [part.reverse]]; simp
      · exact ih parts (x :: part)

/-- Cutting a text is splitting a list. -/
theorem cutAt_eq_splitOn (c : Char) (text : List Char) : cutAt c text = text.splitOn c := by
  have cut (part : List Char) :
      cutFrom c [] part text = text.splitOnPPrepend (· == c) part := by
    induction text generalizing part with
    | nil => simp [cutFrom]
    | cons x rest ih =>
        rw [cutFrom, List.splitOnPPrepend_cons_eq_if, ih (x :: part), cutFrom_eq, ih []]
        rfl
  exact cut []

theorem cutAt_append (c : Char) (front back : List Char) :
    cutAt c (front ++ c :: back) = cutAt c front ++ cutAt c back := by
  simp only [cutAt_eq_splitOn, List.splitOn_append_cons_self]

theorem cutAt_eq_singleton {c : Char} {text : List Char} (inline : c ∉ text) :
    cutAt c text = [text] := by
  rw [cutAt_eq_splitOn, List.splitOn_eq_singleton inline]

/-- The parts between marks make the text. -/
theorem intercalate_cutAt (c : Char) (text : List Char) : [c].intercalate (cutAt c text) = text := by
  rw [cutAt_eq_splitOn, List.intercalate_splitOn]

/-- Nothing is lost by cutting but the marks. -/
theorem mem_of_cutAt {c x : Char} {text : List Char} (member : x ∈ text) :
    x = c ∨ ∃ part ∈ cutAt c text, x ∈ part := by
  have mem (parts : List (List Char)) (member : x ∈ [c].intercalate parts) :
      x = c ∨ ∃ part ∈ parts, x ∈ part := by
    induction parts with
    | nil => cases member
    | cons part parts ih =>
        cases parts with
        | nil =>
            rw [List.intercalate_singleton] at member
            exact .inr ⟨part, List.mem_cons_self, member⟩
        | cons next parts =>
            rw [List.intercalate_cons_cons, List.mem_append, List.mem_append,
              List.mem_singleton] at member
            rcases member with (front | mark) | back
            · exact .inr ⟨part, List.mem_cons_self, front⟩
            · exact .inl mark
            · rcases ih back with mark | ⟨later, listed, inside⟩
              · exact .inl mark
              · exact .inr ⟨later, List.mem_cons_of_mem _ listed, inside⟩
  exact mem _ (by rwa [intercalate_cutAt])

/-- Whether one text stands inside another. -/
def occursIn (needle : List Char) : List Char → Bool
  | [] => needle.isEmpty
  | c :: cs => needle.isPrefixOf (c :: cs) || occursIn needle cs

theorem occursIn_iff {needle cs : List Char} :
    occursIn needle cs = true ↔ ∃ a b, cs = a ++ needle ++ b := by
  induction cs with
  | nil =>
      simp only [occursIn, List.isEmpty_iff]
      constructor
      · rintro rfl; exact ⟨[], [], rfl⟩
      · rintro ⟨a, b, h⟩
        have := congrArg List.length h
        simp only [List.length_nil, List.length_append] at this
        exact List.length_eq_zero_iff.1 (by omega)
  | cons c cs ih =>
      simp only [occursIn, Bool.or_eq_true, List.isPrefixOf_iff_prefix, ih]
      constructor
      · rintro (⟨b, h⟩ | ⟨a, b, rfl⟩)
        · exact ⟨[], b, h.symm⟩
        · exact ⟨c :: a, b, rfl⟩
      · rintro ⟨a, b, h⟩
        cases a with
        | nil => exact .inl ⟨b, h.symm⟩
        | cons x a =>
            simp only [List.cons_append, List.cons.injEq] at h
            exact .inr ⟨a, b, h.2⟩

end ThreatMarker.Text
