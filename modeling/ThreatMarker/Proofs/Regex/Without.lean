import Mathlib.Data.List.Forall2
import ThreatMarker.Proofs.Regex.Spans
/-
# Expressions on texts that lack some characters

A text in which the characters of some classes do not occur is matched by less than a whole expression:
a branch that needs such a character is dead, and a repetition of one can only be left out.
`Expr.without` takes these parts out, and on such a text what is left matches the same stretches
(`spans_without`).  Often what is left is a plain sequence of classes, whose matches are words
(`finds_iff_of_without`), or nothing at all (`not_finds_of_without`).
-/

namespace ThreatMarker.Regex

set_option autoImplicit false

open Unicode (CharSet)

/-- The characters of a class do not occur in a text. -/
def Lacks (text : List Char) (set : CharSet) : Prop := ∀ c ∈ text, set.contains c = false

namespace Expr

/-! ## Taking classes out -/

/-- What is left of an expression where the characters of some classes do not occur.  Nothing is left of
an expression that needs one of them. -/
def without (absent : CharSet → Bool) : Expr → Option Expr
  | .empty => some .empty
  | .chars set => if absent set then none else some (.chars set)
  | .look kind => some (.look kind)
  | .times least most body =>
      match body.without absent with
      | some left => some (.times least most left)
      | none => if least = 0 then some .empty else none
  | .concat a b =>
      match a.without absent, b.without absent with
      | some left, some right => some (mkConcat left right)
      | _, _ => none
  | .alternate a b =>
      match a.without absent, b.without absent with
      | some left, some right => some (.alternate left right)
      | some left, none => some left
      | none, right => right

theorem spans_mkConcat (t : Text) (a b : Expr) (i j : Nat) :
    (mkConcat a b).Spans t i j ↔ ∃ m, a.Spans t i m ∧ b.Spans t m j := by
  unfold mkConcat
  split
  · simp [Spans]
  · simp [Spans]
  · rfl

/-- A repetition of what matches nothing is matched by the empty text, unless it has to be repeated. -/
theorem spans_times_of_dead {t : Text} {body : Expr} (dead : ∀ i j, ¬ body.Spans t i j) (least : Nat)
    (most : Option Nat) (i j : Nat) :
    (Expr.times least most body).Spans t i j ↔ least = 0 ∧ j = i := by
  have still : ∀ n i j, Steps (body.Spans t) n i j ↔ n = 0 ∧ j = i := by
    intro n i j
    constructor
    · intro steps
      cases steps with
      | refl => exact ⟨rfl, rfl⟩
      | step first rest => exact absurd first (dead _ _)
    · rintro ⟨rfl, rfl⟩
      exact .refl j
  simp only [Spans, still]
  constructor
  · rintro ⟨more, -, none, rfl⟩
    exact ⟨by omega, rfl⟩
  · rintro ⟨rfl, rfl⟩
    exact ⟨0, fun m _ => Nat.zero_le _, rfl, rfl⟩

/-- **What is left of an expression matches the same stretches** of a text in which the characters that
were taken out do not occur. -/
theorem spans_without {text : List Char} {absent : CharSet → Bool}
    (lacks : ∀ set, absent set = true → Lacks text set) (e : Expr) (i j : Nat) :
    e.Spans text.toArray i j ↔ ∃ left, e.without absent = some left ∧ left.Spans text.toArray i j := by
  induction e generalizing i j with
  | empty => simp [without]
  | chars set =>
      by_cases gone : absent set = true
      · -- a character at the place would be one that does not occur
        have dead : ¬ (Expr.chars set).Spans text.toArray i j := by
          rintro ⟨-, c, read, inside⟩
          rw [List.getElem?_toArray] at read
          have := lacks set gone c (List.mem_of_getElem? read)
          simp [this] at inside
        simp [without, gone, dead]
      · simp [without, gone]
  | look kind => simp [without]
  | times least most body ih =>
      cases left : body.without absent with
      | some left' =>
          have same : body.Spans text.toArray = left'.Spans text.toArray := by
            funext i j
            simpa [left] using ih i j
          simp [without, left, Spans, same]
      | none =>
          have dead : ∀ i j, ¬ body.Spans text.toArray i j := fun i j => by simp [ih i j, left]
          rw [spans_times_of_dead dead, without, left]
          by_cases free : least = 0
          · simp [free, Spans]
          · simp [free]
  | concat a b iha ihb =>
      simp only [Spans, iha, ihb, without]
      cases a.without absent <;> cases b.without absent <;> simp [spans_mkConcat]
  | alternate a b iha ihb =>
      simp only [Spans, iha, ihb, without]
      cases a.without absent <;> cases b.without absent <;> simp [Spans]

/-! ## Sequences of classes -/

/-- One class after the other. -/
def sequence : List CharSet → Expr
  | [] => .empty
  | [set] => .chars set
  | set :: rest => .concat (.chars set) (sequence rest)

theorem spans_sequence_cons (t : Text) (set : CharSet) (rest : List CharSet) (i j : Nat) :
    (sequence (set :: rest)).Spans t i j ↔
      (∃ c, t[i]? = some c ∧ set.contains c = true) ∧ (sequence rest).Spans t (i + 1) j := by
  cases rest with
  | nil => simp [sequence, Spans, and_comm]
  | cons next rest =>
      simp only [sequence, Spans]
      constructor
      · rintro ⟨m, ⟨rfl, read⟩, later⟩
        exact ⟨read, later⟩
      · rintro ⟨read, later⟩
        exact ⟨i + 1, ⟨rfl, read⟩, later⟩

/-- The matches of a sequence of classes are words with a character of each class in turn. -/
theorem spans_sequence_iff (text : List Char) (sets : List CharSet) (i j : Nat) :
    (sequence sets).Spans text.toArray i j ↔
      ∃ word, List.Forall₂ (fun c set => CharSet.contains set c = true) word sets ∧
        word <+: text.drop i ∧ j = i + word.length := by
  induction sets generalizing i with
  | nil => simp [sequence, Spans]
  | cons set rest ih =>
      rw [spans_sequence_cons, ih (i + 1), List.getElem?_toArray]
      constructor
      · rintro ⟨⟨c, read, inside⟩, word, all, begins, rfl⟩
        refine ⟨c :: word, .cons inside all, ?_, by simp only [List.length_cons]; omega⟩
        rw [List.drop_eq_getElem?_toList_append, read]
        exact List.prefix_append_right_inj [c] |>.2 begins
      · rintro ⟨_, _ | ⟨inside, all⟩, begins, rfl⟩
        rename_i c word
        obtain ⟨after, cut⟩ := begins
        have read : text[i]? = some c := by
          rw [← List.head?_drop, ← cut]
          rfl
        refine ⟨⟨c, read, inside⟩, word, all, ⟨after, ?_⟩, by simp only [List.length_cons]; omega⟩
        rw [← List.tail_drop, ← cut]
        rfl

/-- A sequence of classes is matched somewhere in a text exactly if a word of the classes stands in
it. -/
theorem exists_spans_sequence_iff (text : List Char) (sets : List CharSet) :
    (∃ i ≤ text.toArray.size, ∃ j, (sequence sets).Spans text.toArray i j) ↔
      ∃ before word after, text = before ++ word ++ after ∧
        List.Forall₂ (fun c set => CharSet.contains set c = true) word sets := by
  simp only [spans_sequence_iff]
  constructor
  · rintro ⟨i, -, j, word, all, ⟨after, cut⟩, -⟩
    refine ⟨text.take i, word, after, ?_, all⟩
    rw [List.append_assoc, cut, List.take_append_drop]
  · rintro ⟨before, word, after, rfl, all⟩
    refine ⟨before.length, by simp, _, word, all, ⟨after, ?_⟩, rfl⟩
    simp

end Expr

/-! ## Patterns -/

/-- What is left of a pattern that is accepted. -/
def leftOf? (absent : CharSet → Bool) (pattern : String) : Option (Option Expr) :=
  (compile? pattern).toOption.map fun r => r.expr.without absent

section
variable {absent : CharSet → Bool} {pattern text : String}

/-- Where a pattern is found in a text, so is what is left of it. -/
theorem finds_iff_left {left : Option Expr} (found : leftOf? absent pattern = some left)
    (lacks : ∀ set, absent set = true → Lacks text.toList set) :
    Finds pattern text ↔
      ∃ e, left = some e ∧ ∃ i ≤ text.toList.toArray.size, ∃ j, e.Spans text.toList.toArray i j := by
  obtain ⟨r, accepted, rfl⟩ := Option.map_eq_some_iff.1 found
  have compiled : compile? pattern = .ok r := by
    cases outcome : compile? pattern with
    | error fault => simp [outcome, Except.toOption] at accepted
    | ok r' => simpa [outcome, Except.toOption] using accepted
  rw [← isMatch_iff_finds compiled, isMatch, Expr.occursIn_iff]
  simp only [Expr.spans_without lacks r.expr]
  constructor
  · rintro ⟨i, inside, j, e, left, span⟩
    exact ⟨e, left, i, inside, j, span⟩
  · rintro ⟨e, left, i, inside, j, span⟩
    exact ⟨i, inside, j, e, left, span⟩

/-- **A pattern of which a sequence of classes is left is found where a word of the classes stands.** -/
theorem finds_iff_of_without {sets : List CharSet}
    (found : leftOf? absent pattern = some (some (Expr.sequence sets)))
    (lacks : ∀ set, absent set = true → Lacks text.toList set) :
    Finds pattern text ↔
      ∃ before word after, text.toList = before ++ word ++ after ∧
        List.Forall₂ (fun c set => CharSet.contains set c = true) word sets := by
  rw [finds_iff_left found lacks, ← Expr.exists_spans_sequence_iff]
  simp

/-- **A pattern of which nothing is left is not found.** -/
theorem not_finds_of_without (found : leftOf? absent pattern = some none)
    (lacks : ∀ set, absent set = true → Lacks text.toList set) : ¬ Finds pattern text := by
  rw [finds_iff_left found lacks]
  simp

end

end ThreatMarker.Regex
