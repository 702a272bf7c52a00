import Mathlib.Data.List.Infix
import ThreatMarker.Line.Entry
/-
# Patterns of marks and runs

A pattern is a sequence of marks, greedy runs and lazy runs of characters.  `first?` matches one at
the front of a text by backtracking: a greedy run tries its longest text first, a lazy run its
shortest, and the first choice that lets the rest of the pattern match is taken.

`Matches` says what a pattern stands for without saying how a match is found, and `Prefers` compares
two matches.  The main statements:

* `matches_of_first?` and `isSome_first?`: a match is found exactly if there is one;
* `prefers_of_first?`: the match found is preferred to every other;
* `first?_longest_mark`: a greedy run before a mark that cannot continue it needs no backtracking.
-/

namespace ThreatMarker.Line

set_option autoImplicit false

open List (isPrefixOf? isPrefixOf?_eq_some_iff_append_eq)

/-- A part of a pattern. -/
inductive Element where
  | mark (text : List Char)
  | longest (p : Char → Bool)
  | shortest (p : Char → Bool)

/-! ## Cuts -/

/-- The ways to cut a text after characters of a class, the shortest front first. -/
def splits (p : Char → Bool) : List Char → List (List Char × List Char)
  | [] => [([], [])]
  | c :: cs => ([], c :: cs) :: if p c then (splits p cs).map (fun s => (c :: s.1, s.2)) else []

theorem mem_splits {p : Char → Bool} {cs : List Char} {s : List Char × List Char} :
    s ∈ splits p cs ↔ cs = s.1 ++ s.2 ∧ ∀ c ∈ s.1, p c = true := by
  obtain ⟨front, rest⟩ := s
  induction cs generalizing front with
  | nil => simp [splits, and_comm]; grind
  | cons c cs ih =>
      cases front with
      | nil =>
          by_cases h : p c = true
          · simp [splits, h]; exact eq_comm
          · simp [splits, h]; exact eq_comm
      | cons d front =>
          by_cases h : p c = true
          · simp [splits, h, ih]; grind
          · simp [splits, h]; grind

theorem splits_ascending (p : Char → Bool) (cs : List Char) :
    (splits p cs).Pairwise (fun s t => s.1.length < t.1.length) := by
  induction cs with
  | nil => simp [splits]
  | cons c cs ih =>
      by_cases h : p c = true
      · simp only [splits, h, if_true, List.pairwise_cons, List.pairwise_map, List.length_cons]
        refine ⟨?_, ih.imp (fun lt => by omega)⟩
        intro s member
        obtain ⟨t, -, rfl⟩ := List.mem_map.1 member
        simp
      · simp [splits, h]

/-! ## Backtracking -/

/-- The texts of the runs of the preferred match at the front of a text, and what follows it. -/
def first? : List Element → List Char → Option (List (List Char) × List Char)
  | [], cs => some ([], cs)
  | .mark text :: es, cs => (isPrefixOf? text cs).bind (first? es)
  | .longest p :: es, cs =>
      (splits p cs).reverse.findSome? fun s =>
        if s.1 = [] then none else (first? es s.2).map (fun m => (s.1 :: m.1, m.2))
  | .shortest p :: es, cs =>
      (splits p cs).findSome? fun s => (first? es s.2).map (fun m => (s.1 :: m.1, m.2))

/-- A text begins with marks and runs, and ends with a rest. -/
inductive Matches : List Element → List Char → List (List Char) → List Char → Prop
  | nil (rest : List Char) : Matches [] rest [] rest
  | mark {es : List Element} {cs : List Char} {parts : List (List Char)} {rest : List Char}
      (text : List Char) (later : Matches es cs parts rest) :
      Matches (.mark text :: es) (text ++ cs) parts rest
  | longest {es : List Element} {cs : List Char} {parts : List (List Char)} {rest : List Char}
      {p : Char → Bool} {part : List Char} (nonempty : part ≠ []) (within : ∀ c ∈ part, p c = true)
      (later : Matches es cs parts rest) :
      Matches (.longest p :: es) (part ++ cs) (part :: parts) rest
  | shortest {es : List Element} {cs : List Char} {parts : List (List Char)} {rest : List Char}
      {p : Char → Bool} {part : List Char} (within : ∀ c ∈ part, p c = true)
      (later : Matches es cs parts rest) :
      Matches (.shortest p :: es) (part ++ cs) (part :: parts) rest

/-- The runs of one match are as good as those of another: where they first differ in length, a greedy
run is longer, or a lazy run is shorter. -/
def Prefers : List Element → List (List Char) → List (List Char) → Prop
  | .mark _ :: es, xs, ys => Prefers es xs ys
  | .longest _ :: es, x :: xs, y :: ys =>
      y.length < x.length ∨ (x.length = y.length ∧ Prefers es xs ys)
  | .shortest _ :: es, x :: xs, y :: ys =>
      x.length < y.length ∨ (x.length = y.length ∧ Prefers es xs ys)
  | _, _, _ => True

theorem matches_of_first? {es : List Element} {cs : List Char} {parts : List (List Char)}
    {rest : List Char} (found : first? es cs = some (parts, rest)) : Matches es cs parts rest := by
  induction es generalizing cs parts with
  | nil =>
      simp only [first?, Option.some.injEq, Prod.mk.injEq] at found
      obtain ⟨rfl, rfl⟩ := found
      exact .nil cs
  | cons e es ih =>
      cases e with
      | mark text =>
          simp only [first?, Option.bind_eq_some_iff] at found
          obtain ⟨cs', after, found⟩ := found
          rw [← isPrefixOf?_eq_some_iff_append_eq.1 after]
          exact .mark text (ih found)
      | longest p =>
          obtain ⟨s, member, found⟩ := List.exists_of_findSome?_eq_some found
          split at found
          · cases found
          · rename_i nonempty
            obtain ⟨m, tail, same⟩ := Option.map_eq_some_iff.1 found
            simp only [Prod.mk.injEq] at same
            obtain ⟨rfl, rfl⟩ := same
            obtain ⟨joined, within⟩ := mem_splits.1 (List.mem_reverse.1 member)
            rw [joined]
            exact .longest nonempty within (ih tail)
      | shortest p =>
          obtain ⟨s, member, found⟩ := List.exists_of_findSome?_eq_some found
          obtain ⟨m, tail, same⟩ := Option.map_eq_some_iff.1 found
          simp only [Prod.mk.injEq] at same
          obtain ⟨rfl, rfl⟩ := same
          obtain ⟨joined, within⟩ := mem_splits.1 member
          rw [joined]
          exact .shortest within (ih tail)

theorem isSome_first? {es : List Element} {cs : List Char} {parts : List (List Char)}
    {rest : List Char} (is_match : Matches es cs parts rest) : (first? es cs).isSome = true := by
  induction is_match with
  | nil rest => rfl
  | mark text _ ih =>
      rw [first?, isPrefixOf?_eq_some_iff_append_eq.2 rfl]
      exact ih
  | @longest _ cs _ _ p part nonempty within _ ih =>
      simp only [first?, List.findSome?_isSome_iff, List.mem_reverse]
      exact ⟨(part, cs), mem_splits.2 ⟨rfl, within⟩, by simpa [nonempty] using ih⟩
  | @shortest _ cs _ _ p part within _ ih =>
      simp only [first?, List.findSome?_isSome_iff]
      exact ⟨(part, cs), mem_splits.2 ⟨rfl, within⟩, by simpa using ih⟩

/-- What was tried before the choice that succeeded has failed: with lengths in order, every other
choice of the same length or a worse one. -/
theorem failed_before {α : Type} {f : List Char × List Char → Option α}
    {l : List (List Char × List Char)} {R : List Char × List Char → List Char × List Char → Prop}
    (ordered : l.Pairwise R) {x : α} (found : l.findSome? f = some x) :
    ∃ s ∈ l, f s = some x ∧ ∀ t ∈ l, f t = none ∨ t = s ∨ R s t := by
  obtain ⟨before, s, later, rfl, found, failed⟩ := List.findSome?_eq_some_iff.1 found
  refine ⟨s, by simp, found, fun t member => ?_⟩
  rcases List.mem_append.1 member with member | member
  · exact .inl (failed t member)
  · rcases List.mem_cons.1 member with rfl | member
    · exact .inr (.inl rfl)
    · have := (List.pairwise_append.1 ordered).2.1
      exact .inr (.inr ((List.pairwise_cons.1 this).1 t member))

/-- **The match that is found is preferred to every match.** -/
theorem prefers_of_first? {es : List Element} {cs : List Char} {parts others : List (List Char)}
    {rest rest' : List Char} (found : first? es cs = some (parts, rest))
    (other : Matches es cs others rest') : Prefers es parts others := by
  induction other generalizing parts with
  | nil => trivial
  | mark text _ ih =>
      simp only [first?, isPrefixOf?_eq_some_iff_append_eq.2 rfl, Option.bind_some] at found
      exact ih found
  | @longest es cs others _ p part nonempty within later ih =>
      have descending : ((splits p (part ++ cs)).reverse).Pairwise
          (fun s t => t.1.length < s.1.length) :=
        List.pairwise_reverse.2 (splits_ascending p (part ++ cs))
      obtain ⟨s, member, taken, tried⟩ := failed_before descending found
      have cut := (mem_splits.1 (List.mem_reverse.1 member)).1
      split at taken
      · cases taken
      · obtain ⟨m, tail, same⟩ := Option.map_eq_some_iff.1 taken
        simp only [Prod.mk.injEq] at same
        obtain ⟨rfl, rfl⟩ := same
        have succeeds := isSome_first? later
        rcases tried (part, cs) (List.mem_reverse.2 (mem_splits.2 ⟨rfl, within⟩)) with
          failed | rfl | longer
        · simp only [nonempty, if_false, Option.map_eq_none_iff] at failed
          simp [failed] at succeeds
        · exact .inr ⟨rfl, ih tail⟩
        · exact .inl longer
  | @shortest es cs others _ p part within later ih =>
      obtain ⟨s, member, taken, tried⟩ := failed_before (splits_ascending p (part ++ cs)) found
      obtain ⟨m, tail, same⟩ := Option.map_eq_some_iff.1 taken
      simp only [Prod.mk.injEq] at same
      obtain ⟨rfl, rfl⟩ := same
      have succeeds := isSome_first? later
      rcases tried (part, cs) (mem_splits.2 ⟨rfl, within⟩) with failed | rfl | shorter
      · simp only [Option.map_eq_none_iff] at failed
        simp [failed] at succeeds
      · exact .inr ⟨rfl, ih tail⟩
      · exact .inl shorter

/-! ## What a match is made of -/

/-- Texts that runs may stand for. -/
def Fits : List Element → List (List Char) → Prop
  | [], [] => True
  | .mark _ :: es, xs => Fits es xs
  | .longest p :: es, x :: xs => (x ≠ [] ∧ ∀ c ∈ x, p c = true) ∧ Fits es xs
  | .shortest p :: es, x :: xs => (∀ c ∈ x, p c = true) ∧ Fits es xs
  | _, _ => False

/-- The text of a pattern whose runs are given. -/
def render : List Element → List (List Char) → List Char → List Char
  | .mark text :: es, xs, rest => text ++ render es xs rest
  | .longest _ :: es, x :: xs, rest => x ++ render es xs rest
  | .shortest _ :: es, x :: xs, rest => x ++ render es xs rest
  | _, _, rest => rest

theorem matches_iff {es : List Element} {cs : List Char} {parts : List (List Char)}
    {rest : List Char} : Matches es cs parts rest ↔ Fits es parts ∧ cs = render es parts rest := by
  constructor
  · intro found
    induction found with
    | nil rest => exact ⟨trivial, rfl⟩
    | mark text _ ih => exact ⟨ih.1, congrArg (text ++ ·) ih.2⟩
    | @longest _ _ _ _ _ part nonempty within _ ih =>
        exact ⟨⟨⟨nonempty, within⟩, ih.1⟩, congrArg (part ++ ·) ih.2⟩
    | @shortest _ _ _ _ _ part within _ ih =>
        exact ⟨⟨within, ih.1⟩, congrArg (part ++ ·) ih.2⟩
  · rintro ⟨fits, rfl⟩
    induction es generalizing parts with
    | nil =>
        cases parts with
        | nil => exact .nil rest
        | cons => cases fits
    | cons e es ih =>
        cases e with
        | mark text => exact .mark text (ih fits)
        | longest p =>
            cases parts with
            | nil => cases fits
            | cons => exact .longest fits.1.1 fits.1.2 (ih fits.2)
        | shortest p =>
            cases parts with
            | nil => cases fits
            | cons => exact .shortest fits.1 (ih fits.2)

/-! ## Runs that need no backtracking -/

/-- Two cuts of one text after characters of a class, each before a character that is in it no more,
are the same. -/
theorem run_forced {p : Char → Bool} {a a' b b' : List Char} {c c' : Char}
    (within : ∀ x ∈ a, p x = true) (within' : ∀ x ∈ a', p x = true) (ends : p c = false)
    (ends' : p c' = false) (joined : a ++ c :: b = a' ++ c' :: b') :
    a = a' ∧ b = b' := by
  have front : ∀ {x : List Char} {y : Char} {z : List Char}, (∀ d ∈ x, p d = true) → p y = false →
      (x ++ y :: z).takeWhile p = x := by
    intro x y z all stops
    rw [List.takeWhile_append_of_pos all, List.takeWhile_cons_of_neg (by simp [stops]),
      List.append_nil]
  have same : a = a' := by rw [← front within ends (z := b), joined, front within' ends']
  rw [same, List.append_cancel_left_eq, List.cons.injEq] at joined
  exact ⟨same, joined.2⟩

theorem run?_eq_some_iff {p : Char → Bool} {cs front rest : List Char} :
    Entry.run? p cs = some (front, rest) ↔
      front ≠ [] ∧ (∀ c ∈ front, p c = true) ∧ cs = front ++ rest ∧
        ∀ c ∈ rest.head?, p c = false := by
  unfold Entry.run?
  constructor
  · intro found
    simp only at found
    split at found
    · cases found
    · rename_i nonempty
      simp only [Option.some.injEq, Prod.mk.injEq] at found
      obtain ⟨rfl, rfl⟩ := found
      refine ⟨by simpa using nonempty, List.all_eq_true.1 List.all_takeWhile,
        List.takeWhile_append_dropWhile.symm, fun c first => ?_⟩
      have := List.head?_dropWhile_not p cs
      rw [Option.mem_def.1 first] at this
      simpa using this
  · rintro ⟨nonempty, within, rfl, stops⟩
    have taken : (front ++ rest).takeWhile p = front := by
      rw [List.takeWhile_append_of_pos within]
      cases rest with
      | nil => simp
      | cons c rest => simp [stops c rfl]
    have left : (front ++ rest).dropWhile p = rest := by
      rw [List.dropWhile_append_of_pos within]
      cases rest with
      | nil => simp
      | cons c rest => simp [stops c rfl]
    simp [taken, left, nonempty]

/-- Among choices of which one at most succeeds, the order plays no part. -/
theorem findSome?_eq_of_unique {α β : Type} {f : α → Option β} {l : List α} {a : α}
    (member : a ∈ l) (others : ∀ b ∈ l, b ≠ a → f b = none) : l.findSome? f = f a := by
  cases found : l.findSome? f with
  | none => exact (List.findSome?_eq_none_iff.1 found a member).symm
  | some x =>
      obtain ⟨b, inList, value⟩ := List.exists_of_findSome?_eq_some found
      by_cases same : b = a
      · rw [← value, same]
      · rw [others b inList same] at value; cases value

/-- Where the first choice decides whether any does, it is enough to go on from the first. -/
theorem findSome?_bind {α β γ : Type} {f : α → Option β} {g : β → Option γ} {l : List α}
    (decides : ∀ b, l.findSome? f = some b → g b = none →
      ∀ a ∈ l, ∀ b', f a = some b' → g b' = none) :
    l.findSome? (fun a => (f a).bind g) = (l.findSome? f).bind g := by
  induction l with
  | nil => rfl
  | cons a l ih =>
      simp only [List.findSome?_cons]
      cases here : f a with
      | none =>
          refine ih fun b found stops c member => decides b ?_ stops c (List.mem_cons_of_mem a member)
          rw [List.findSome?_cons, here, found]
      | some b =>
          cases next : g b with
          | some x => simp [next]
          | none =>
              simp only [Option.bind_some, next, List.findSome?_eq_none_iff]
              intro c member
              cases other : f c with
              | none => rfl
              | some b' =>
                  refine decides b ?_ next c (List.mem_cons_of_mem a member) b' other
                  rw [List.findSome?_cons, here]

/-- A greedy run takes all that it can if the rest of the pattern cannot begin with a character of its
class. -/
theorem first?_longest {p : Char → Bool} {es : List Element} (cs : List Char)
    (stuck : ∀ c cs, p c = true → first? es (c :: cs) = none) :
    first? (.longest p :: es) cs =
      (Entry.run? p cs).bind fun s => (first? es s.2).map fun m => (s.1 :: m.1, m.2) := by
  cases taken : Entry.run? p cs with
  | none =>
      simp only [first?, Option.bind_none, List.findSome?_eq_none_iff, List.mem_reverse]
      intro s member
      obtain ⟨joined, within⟩ := mem_splits.1 member
      split
      · rfl
      · rename_i nonempty
        obtain ⟨c, front, same⟩ := List.exists_cons_of_ne_nil nonempty
        have first : p c = true := within c (by simp [same])
        simp [Entry.run?, joined, same, first] at taken
  | some s =>
      obtain ⟨front, rest⟩ := s
      obtain ⟨nonempty, within, rfl, stops⟩ := run?_eq_some_iff.1 taken
      have member : (front, rest) ∈ (splits p (front ++ rest)).reverse :=
        List.mem_reverse.2 (mem_splits.2 ⟨rfl, within⟩)
      rw [first?, findSome?_eq_of_unique member]
      · simp [nonempty]
      · rintro ⟨a, b⟩ inList different
        obtain ⟨joined, within'⟩ := mem_splits.1 (List.mem_reverse.1 inList)
        simp only at joined
        -- a shorter run leaves a character of the class to the rest of the pattern
        rcases List.append_eq_append_iff.1 joined with ⟨x, rfl, rfl⟩ | ⟨x, rfl, rfl⟩
        · cases x with
          | nil => simp at different
          | cons c x =>
              have inside : p c = true := within' c (by simp)
              simp [stops c rfl] at inside
        · cases x with
          | nil => simp at different
          | cons c x => simp [stuck c _ (within c (by simp))]

/-- A greedy run before a mark that cannot continue it. -/
theorem first?_longest_mark {p : Char → Bool} {c : Char} (ends : p c = false) (text : List Char)
    (es : List Element) (cs : List Char) :
    first? (.longest p :: .mark (c :: text) :: es) cs =
      (Entry.run? p cs).bind fun s =>
        (isPrefixOf? (c :: text) s.2).bind fun cs =>
          (first? es cs).map fun m => (s.1 :: m.1, m.2) := by
  rw [first?_longest]
  · simp only [first?, Option.map_bind]; rfl
  · intro d cs inside
    have different : c ≠ d := by rintro rfl; simp [ends] at inside
    simp [first?, isPrefixOf?, different]

end ThreatMarker.Line
