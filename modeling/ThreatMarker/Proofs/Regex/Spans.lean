import ThreatMarker.Regex.Basic
/-
# The stretches of a text that an expression matches

`Expr.Spans` says without a search which stretches of a text an expression matches.  The search holds
sets of places; `ends_follows` says that it goes exactly where the expression leads, one case for each
constructor.  The case of repetition is that of a frontier that grows: a round that finds nothing new
has found everything (`saturate_follows`), and there are no more rounds than places.
-/

namespace ThreatMarker.Regex

set_option autoImplicit false

/-! ## Expressions as relations -/

/-- To get from one place to another in a number of steps. -/
inductive Steps (R : Nat → Nat → Prop) : Nat → Nat → Nat → Prop where
  | refl (i : Nat) : Steps R 0 i i
  | step {n i m j : Nat} (first : R i m) (rest : Steps R n m j) : Steps R (n + 1) i j

/-- A number of steps and then more of them. -/
theorem steps_add {R : Nat → Nat → Prop} {a b i j : Nat} :
    Steps R (a + b) i j ↔ ∃ m, Steps R a i m ∧ Steps R b m j := by
  induction a generalizing i with
  | zero =>
      rw [Nat.zero_add]
      refine ⟨fun all => ⟨i, .refl i, all⟩, ?_⟩
      rintro ⟨m, first, rest⟩
      cases first
      exact rest
  | succ a ih =>
      rw [Nat.add_right_comm]
      constructor
      · intro all
        cases all with
        | step one more =>
            obtain ⟨m, first, rest⟩ := ih.1 more
            exact ⟨m, .step one first, rest⟩
      · rintro ⟨m, first, rest⟩
        cases first with
        | step one more => exact .step one (ih.2 ⟨m, more, rest⟩)

/-- A stretch of a text, from one place to another, is a match of an expression.  A repetition is taken
as often as it must be, and then again at most as often as it may be. -/
def Expr.Spans (t : Text) : Expr → Nat → Nat → Prop
  | .empty, i, j => j = i
  | .chars set, i, j => j = i + 1 ∧ ∃ c, t[i]? = some c ∧ set.contains c = true
  | .look kind, i, j => j = i ∧ kind.holds t i = true
  | .concat a b, i, j => ∃ m, a.Spans t i m ∧ b.Spans t m j
  | .alternate a b, i, j => a.Spans t i j ∨ b.Spans t i j
  | .times least most body, i, j =>
      ∃ more, (∀ m ∈ most, more ≤ m - least) ∧ Steps (body.Spans t) (least + more) i j

/-! ## Sets of places -/

/-- Places of a text of some length, in the order in which a search holds them. -/
structure Places (n : Nat) (s : Positions) : Prop where
  descending : Positions.Descending s
  within : ∀ i ∈ s, i ≤ n

namespace Places

variable {n : Nat} {s s' : Positions}

theorem nil : Places n [] := ⟨.nil, by simp⟩

theorem upTo : Places n (Positions.upTo n) :=
  ⟨Positions.upTo_descending n, fun _ member => Positions.mem_upTo.1 member⟩

theorem filter (h : Places n s) (p : Nat → Bool) : Places n (s.filter p) :=
  ⟨h.descending.filter p, fun i member => h.within i (List.mem_filter.1 member).1⟩

theorem union (h : Places n s) (h' : Places n s') : Places n (Positions.union s s') :=
  ⟨Positions.union_descending h.descending h'.descending, fun i member =>
    (Positions.mem_union.1 member).elim (h.within i) (h'.within i)⟩

theorem diff (h : Places n s) : Places n (Positions.diff s s') :=
  ⟨Positions.diff_descending h.descending, fun i member =>
    h.within i (Positions.mem_diff_subset member)⟩

/-- There are no more places than the text has. -/
theorem length_le (h : Places n s) : s.length ≤ n + 1 := by
  induction s generalizing n with
  | nil => simp
  | cons i s ih =>
      obtain ⟨below, descending⟩ := Positions.descending_cons.1 h.descending
      have first := h.within i List.mem_cons_self
      cases i with
      | zero =>
          have : s = [] := List.eq_nil_iff_forall_not_mem.2 fun j member => by
            have := below j member
            omega
          simp [this]
      | succ i =>
          have rest := ih ⟨descending, fun j member => Nat.le_of_lt_succ (below j member)⟩
          simp only [List.length_cons]
          omega

end Places

theorem length_union_of_disjoint (s s' : Positions) (disjoint : ∀ i ∈ s, i ∉ s') :
    (Positions.union s s').length = s.length + s'.length := by
  fun_induction Positions.union s s' with
  | case1 => simp
  | case2 => simp
  | case3 x xs y ys _ ih =>
      have := ih fun i member => disjoint i (List.mem_cons_of_mem x member)
      simp only [List.length_cons] at *
      omega
  | case4 x xs y ys _ _ ih =>
      have := ih fun i member same => disjoint i member (List.mem_cons_of_mem y same)
      simp only [List.length_cons] at *
      omega
  | case5 x xs y ys _ _ ih =>
      obtain rfl : x = y := by omega
      exact absurd List.mem_cons_self (disjoint x List.mem_cons_self)

/-! ## Maps that follow a relation -/

/-- A map of places goes exactly where a relation leads from them. -/
structure Follows (n : Nat) (R : Nat → Nat → Prop) (f : Positions → Positions) : Prop where
  places : ∀ {s}, Places n s → Places n (f s)
  mem_iff : ∀ {s}, Places n s → ∀ j, j ∈ f s ↔ ∃ i ∈ s, R i j

section
variable {n : Nat} {R : Nat → Nat → Prop} {f : Positions → Positions}

theorem Follows.iterate (h : Follows n R f) (k : Nat) :
    Follows n (Steps R k) (Regex.iterate f k) := by
  induction k with
  | zero =>
      refine ⟨fun places => places, fun {s} _ j => ⟨fun member => ⟨j, member, .refl j⟩, ?_⟩⟩
      rintro ⟨i, member, none⟩
      cases none
      exact member
  | succ k ih =>
      refine ⟨fun {s} places => ?_, fun {s} places j => ?_⟩
      · unfold Regex.iterate
        split
        · exact .nil
        · exact ih.places (h.places places)
      · rw [Regex.iterate]
        split
        · rename_i none
          simp [List.isEmpty_iff.1 none]
        · rw [ih.mem_iff (h.places places)]
          constructor
          · rintro ⟨m, member, rest⟩
            obtain ⟨i, member, first⟩ := (h.mem_iff places m).1 member
            exact ⟨i, member, .step first rest⟩
          · rintro ⟨i, member, steps⟩
            cases steps with
            | step first rest => exact ⟨_, (h.mem_iff places _).2 ⟨i, member, first⟩, rest⟩

/-! ## Saturation -/

/-- Steps from a place that was seen either stay among those that were seen or pass one of the fresh
places, if every step from a place that was seen leads to one or the other. -/
theorem seen_or_fresh {seen fresh : Positions}
    (closed : ∀ i ∈ seen, ∀ j, R i j → j ∈ seen ∨ j ∈ fresh) {k i j : Nat} (steps : Steps R k i j)
    (start : i ∈ seen) : j ∈ seen ∨ ∃ k' < k, ∃ m ∈ fresh, Steps R k' m j := by
  induction steps with
  | refl => exact .inl start
  | step first rest ih =>
      rcases closed _ start _ first with next | next
      · rcases ih next with known | ⟨k', less, m, member, rest⟩
        · exact .inl known
        · exact .inr ⟨k', Nat.lt_succ_of_lt less, m, member, rest⟩
      · exact .inr ⟨_, Nat.lt_succ_self _, _, next, rest⟩

/-- A search under way: every place of the frontier was seen, and every step from a place that was
seen and is not in the frontier leads to a place that was seen. -/
structure Frontier (n : Nat) (R : Nat → Nat → Prop) (seen frontier : Positions) : Prop where
  seen_places : Places n seen
  places : Places n frontier
  subset : ∀ i ∈ frontier, i ∈ seen
  closed : ∀ i ∈ seen, i ∉ frontier → ∀ j, R i j → j ∈ seen

namespace Frontier

variable {seen frontier : Positions}

/-- The places that a round adds. -/
theorem mem_fresh (h : Follows n R f) (inv : Frontier n R seen frontier) {j : Nat} :
    j ∈ Positions.diff (f frontier) seen ↔ (∃ i ∈ frontier, R i j) ∧ j ∉ seen := by
  rw [Positions.mem_diff (h.places inv.places).descending inv.seen_places.descending,
    h.mem_iff inv.places]

/-- After a round every step from a place that was seen is accounted for. -/
theorem closed_fresh (h : Follows n R f) (inv : Frontier n R seen frontier) :
    ∀ i ∈ seen, ∀ j, R i j → j ∈ seen ∨ j ∈ Positions.diff (f frontier) seen := by
  intro i member j step
  by_cases known : j ∈ seen
  · exact .inl known
  · by_cases ahead : i ∈ frontier
    · exact .inr ((inv.mem_fresh h).2 ⟨⟨i, ahead, step⟩, known⟩)
    · exact .inl (inv.closed i member ahead j step)

/-- A round keeps the frontier a frontier. -/
theorem round (h : Follows n R f) (inv : Frontier n R seen frontier) :
    Frontier n R (Positions.union (Positions.diff (f frontier) seen) seen)
      (Positions.diff (f frontier) seen) where
  seen_places := (h.places inv.places).diff.union inv.seen_places
  places := (h.places inv.places).diff
  subset _ member := Positions.mem_union.2 (.inl member)
  closed i member behind j step := by
    have old : i ∈ seen := (Positions.mem_union.1 member).resolve_left behind
    exact Positions.mem_union.2 (inv.closed_fresh h i old j step).symm

/-- What the rounds of a search find: what was seen, and what is that many steps ahead. -/
theorem mem_saturate (h : Follows n R f) (rounds : Nat) (inv : Frontier n R seen frontier) (j : Nat) :
    j ∈ saturate f rounds seen frontier ↔
      j ∈ seen ∨ ∃ k ≤ rounds, ∃ i ∈ frontier, Steps R k i j := by
  induction rounds generalizing seen frontier with
  | zero =>
      refine ⟨.inl, ?_⟩
      rintro (known | ⟨k, none, i, member, steps⟩)
      · exact known
      · obtain rfl : k = 0 := by omega
        cases steps
        exact inv.subset _ member
  | succ rounds ih =>
      have reached : ∀ k ≤ rounds + 1, ∀ i ∈ frontier, Steps R k i j →
          j ∈ seen ∨ ∃ k' ≤ rounds, ∃ m ∈ Positions.diff (f frontier) seen, Steps R k' m j := by
        intro k most i member steps
        rcases seen_or_fresh (inv.closed_fresh h) steps (inv.subset i member) with
          known | ⟨k', less, m, member, rest⟩
        · exact .inl known
        · exact .inr ⟨k', by omega, m, member, rest⟩
      simp only [saturate]
      split
      · rename_i nothing
        refine ⟨.inl, ?_⟩
        rintro (known | ⟨k, most, i, member, steps⟩)
        · exact known
        · rcases reached k most i member steps with known | ⟨_, _, m, fresh, _⟩
          · exact known
          · rw [List.isEmpty_iff.1 nothing] at fresh
            cases fresh
      · rw [ih (inv.round h), Positions.mem_union]
        constructor
        · rintro ((fresh | known) | ⟨k, most, m, fresh, rest⟩)
          · obtain ⟨⟨i, member, step⟩, -⟩ := (inv.mem_fresh h).1 fresh
            exact .inr ⟨1, by omega, i, member, .step step (.refl j)⟩
          · exact .inl known
          · obtain ⟨⟨i, member, step⟩, -⟩ := (inv.mem_fresh h).1 fresh
            exact .inr ⟨k + 1, by omega, i, member, .step step rest⟩
        · rintro (known | ⟨k, most, i, member, steps⟩)
          · exact .inl (.inr known)
          · rcases reached k most i member steps with known | further
            · exact .inl (.inr known)
            · exact .inr further

theorem saturate_places (h : Follows n R f) (rounds : Nat) (inv : Frontier n R seen frontier) :
    Places n (saturate f rounds seen frontier) := by
  induction rounds generalizing seen frontier with
  | zero => exact inv.seen_places
  | succ rounds ih =>
      simp only [saturate]
      split
      · exact inv.seen_places
      · exact ih (inv.round h)

/-- With as many rounds as places are left to be seen, a search finds all that can be reached. -/
theorem mem_saturate_of_steps (h : Follows n R f) (rounds : Nat) (inv : Frontier n R seen frontier)
    (enough : n + 2 ≤ rounds + seen.length) {k i j : Nat} (member : i ∈ frontier)
    (steps : Steps R k i j) : j ∈ saturate f rounds seen frontier := by
  induction rounds generalizing seen frontier k i with
  | zero =>
      have := inv.seen_places.length_le
      omega
  | succ rounds ih =>
      have further := seen_or_fresh (inv.closed_fresh h) steps (inv.subset i member)
      simp only [saturate]
      split
      · rename_i nothing
        rcases further with known | ⟨_, _, m, fresh, _⟩
        · exact known
        · rw [List.isEmpty_iff.1 nothing] at fresh
          cases fresh
      · rename_i something
        rcases further with known | ⟨k', _, m, fresh, rest⟩
        · exact (mem_saturate h rounds (inv.round h) j).2 (.inl (Positions.mem_union.2 (.inr known)))
        · refine ih (inv.round h) ?_ fresh rest
          have grown := length_union_of_disjoint (Positions.diff (f frontier) seen) seen
            fun i member => ((inv.mem_fresh h).1 member).2
          have new : 0 < (Positions.diff (f frontier) seen).length := List.length_pos_of_mem fresh
          omega

/-- A search begins with a frontier that is all that was seen. -/
theorem start {s : Positions} (places : Places n s) : Frontier n R s s :=
  ⟨places, places, fun _ member => member, fun _ member behind => absurd member behind⟩

end Frontier

/-- A search with as many rounds as the text has places goes wherever steps lead. -/
theorem saturate_follows (h : Follows n R f) :
    Follows n (fun i j => ∃ k, Steps R k i j) (fun s => saturate f (n + 1) s s) where
  places places := Frontier.saturate_places h _ (.start places)
  mem_iff {s} places j := by
    constructor
    · intro member
      rcases (Frontier.mem_saturate h _ (.start places) j).1 member with
        known | ⟨k, _, i, member, steps⟩
      · exact ⟨j, known, 0, .refl j⟩
      · exact ⟨i, member, k, steps⟩
    · rintro ⟨i, member, k, steps⟩
      have some : 0 < s.length := List.length_pos_of_mem member
      exact Frontier.mem_saturate_of_steps h _ (.start places) (by omega) member steps

/-- A search with a bound on the steps: more rounds than the text has places are not needed. -/
theorem saturate_follows_le (h : Follows n R f) (most : Nat) :
    Follows n (fun i j => ∃ k ≤ most, Steps R k i j)
      (fun s => saturate f (min most (n + 1)) s s) where
  places places := Frontier.saturate_places h _ (.start places)
  mem_iff {s} places j := by
    rw [Frontier.mem_saturate h _ (.start places)]
    constructor
    · rintro (known | ⟨k, few, i, member, steps⟩)
      · exact ⟨j, known, 0, by omega, .refl j⟩
      · exact ⟨i, member, k, by omega, steps⟩
    · rintro ⟨i, member, k, few, steps⟩
      by_cases long : n + 1 < k
      · have found := ((saturate_follows h).mem_iff places j).2 ⟨i, member, k, steps⟩
        rw [show min most (n + 1) = n + 1 by omega]
        exact (Frontier.mem_saturate h _ (.start places) j).1 found
      · exact .inr ⟨k, by omega, i, member, steps⟩

/-- Following one relation and then another. -/
theorem Follows.comp {R' : Nat → Nat → Prop} {g : Positions → Positions} (h : Follows n R f)
    (h' : Follows n R' g) : Follows n (fun i j => ∃ m, R i m ∧ R' m j) (fun s => g (f s)) where
  places places := h'.places (h.places places)
  mem_iff {s} places j := by
    rw [h'.mem_iff (h.places places)]
    constructor
    · rintro ⟨m, member, second⟩
      obtain ⟨i, member, first⟩ := (h.mem_iff places m).1 member
      exact ⟨i, member, m, first, second⟩
    · rintro ⟨i, member, m, first, second⟩
      exact ⟨m, (h.mem_iff places m).2 ⟨i, member, first⟩, second⟩

theorem Follows.nil (h : Follows n R f) : f [] = [] := by
  refine List.eq_nil_iff_forall_not_mem.2 fun j member => ?_
  obtain ⟨i, none, -⟩ := (h.mem_iff .nil j).1 member
  cases none

theorem Follows.congr {R' : Nat → Nat → Prop} (h : Follows n R f) (same : ∀ i j, R i j ↔ R' i j) :
    Follows n R' f :=
  ⟨h.places, fun places j => by simp only [h.mem_iff places, same]⟩

end

/-! ## The search -/

/-- A map that keeps the places where a condition holds. -/
theorem filter_follows (n : Nat) (p : Nat → Bool) :
    Follows n (fun i j => j = i ∧ p i = true) (fun s => s.filter p) where
  places places := places.filter p
  mem_iff {s} _ j := by
    rw [List.mem_filter]
    constructor
    · rintro ⟨member, holds⟩
      exact ⟨j, member, rfl, holds⟩
    · rintro ⟨i, member, rfl, holds⟩
      exact ⟨member, holds⟩

/-- A character is matched by going over it. -/
theorem chars_follows (t : Text) (set : Unicode.CharSet) :
    Follows t.size ((Expr.chars set).Spans t) ((Expr.chars set).ends t) where
  places {s} places := by
    have taken : ∀ i ∈ s.filter (fun i => (t[i]?).any set.contains), i < t.size := by
      intro i member
      have holds := (List.mem_filter.1 member).2
      rcases Nat.lt_or_ge i t.size with inside | outside
      · exact inside
      · simp [Array.getElem?_eq_none outside] at holds
    refine ⟨?_, ?_⟩
    · exact List.pairwise_map.2 ((places.filter _).descending.imp fun less => by omega)
    · intro j member
      obtain ⟨i, kept, rfl⟩ := List.mem_map.1 member
      exact taken i kept
  mem_iff {s} _ j := by
    simp only [Expr.ends, Expr.Spans, List.mem_map, List.mem_filter, Option.any_eq_true]
    constructor
    · rintro ⟨i, ⟨member, c, read, inside⟩, rfl⟩
      exact ⟨i, member, rfl, c, read, inside⟩
    · rintro ⟨i, member, rfl, c, read, inside⟩
      exact ⟨i, ⟨member, c, read, inside⟩, rfl⟩

/-- What must be repeated is repeated first, and then what may be repeated. -/
theorem Expr.spans_times_iff {t : Text} {least : Nat} {most : Option Nat} {body : Expr} {i j : Nat} :
    (Expr.times least most body).Spans t i j ↔
      ∃ m, Steps (body.Spans t) least i m ∧
        ∃ k, (∀ b ∈ most, k ≤ b - least) ∧ Steps (body.Spans t) k m j := by
  simp only [Expr.Spans, steps_add]
  constructor
  · rintro ⟨k, few, m, first, rest⟩
    exact ⟨m, first, k, few, rest⟩
  · rintro ⟨m, first, k, few, rest⟩
    exact ⟨k, few, m, first, rest⟩

/-- **The search goes exactly where the expression leads.** -/
theorem Expr.ends_follows (t : Text) (e : Expr) : Follows t.size (e.Spans t) (e.ends t) := by
  induction e with
  | empty =>
      refine ⟨fun places => places, fun {s} _ j => ⟨fun member => ⟨j, member, rfl⟩, ?_⟩⟩
      rintro ⟨i, member, rfl⟩
      exact member
  | chars set => exact chars_follows t set
  | look kind => exact filter_follows t.size (fun i => kind.holds t i)
  | times least most body ih =>
      cases most with
      | none =>
          have all := (ih.iterate least).comp (saturate_follows ih)
          exact all.congr fun i j => by simp [spans_times_iff]
      | some most =>
          have all := (ih.iterate least).comp (saturate_follows_le ih (most - least))
          exact all.congr fun i j => by simp [spans_times_iff]
  | concat a b iha ihb =>
      have whole : (Expr.concat a b).ends t = fun s => b.ends t (a.ends t s) := by
        funext s
        simp only [Expr.ends]
        split
        · rename_i none
          rw [List.isEmpty_iff.1 none, ihb.nil]
        · rfl
      rw [whole]
      exact iha.comp ihb
  | alternate a b iha ihb =>
      refine ⟨fun places => (iha.places places).union (ihb.places places), fun {s} places j => ?_⟩
      rw [Expr.ends, Positions.mem_union, iha.mem_iff places, ihb.mem_iff places]
      constructor
      · rintro (⟨i, member, span⟩ | ⟨i, member, span⟩)
        · exact ⟨i, member, .inl span⟩
        · exact ⟨i, member, .inr span⟩
      · rintro ⟨i, member, span | span⟩
        · exact .inl ⟨i, member, span⟩
        · exact .inr ⟨i, member, span⟩

/-- **An expression occurs in a text exactly if some stretch of the text is a match of it.** -/
theorem Expr.occursIn_iff {e : Expr} {t : Text} :
    e.occursIn t = true ↔ ∃ i ≤ t.size, ∃ j, e.Spans t i j := by
  have ends := (e.ends_follows t).mem_iff Places.upTo
  rw [Expr.occursIn, Bool.not_eq_true', List.isEmpty_eq_false_iff_exists_mem]
  constructor
  · rintro ⟨j, member⟩
    obtain ⟨i, member, span⟩ := (ends j).1 member
    exact ⟨i, Positions.mem_upTo.1 member, j, span⟩
  · rintro ⟨i, within, j, span⟩
    exact ⟨j, (ends j).2 ⟨i, Positions.mem_upTo.2 within, span⟩⟩

/-! ## Patterns -/

/-- A pattern is found in a text: read without regard to case, it matches some stretch of the text. -/
def Finds (pattern text : String) : Prop :=
  ∃ tree e f, Ast.parse pattern.toList = .ok tree ∧
    Expr.ofAst { caseInsensitive := true } tree = .ok (e, f) ∧
      ∃ i ≤ text.toList.toArray.size, ∃ j, e.Spans text.toList.toArray i j

instance (pattern text : String) : Decidable (Finds pattern text) :=
  match parsed : Ast.parse pattern.toList with
  | .error _ => isFalse fun ⟨_, _, _, read, _⟩ => by rw [parsed] at read; cases read
  | .ok tree =>
      match built : Expr.ofAst { caseInsensitive := true } tree with
      | .error _ => isFalse fun ⟨_, _, _, read, made, _⟩ => by
          rw [parsed] at read
          cases read
          rw [built] at made
          cases made
      | .ok (e, f) => decidable_of_iff (e.occursIn text.toList.toArray = true) <| by
          rw [Expr.occursIn_iff]
          constructor
          · intro found
            exact ⟨tree, e, f, parsed, built, found⟩
          · rintro ⟨_, _, _, read, made, found⟩
            rw [parsed] at read
            cases read
            rw [built] at made
            cases made
            exact found

/-- A compiled pattern holds the expression that the pattern stands for. -/
theorem expr_of_compile? {pattern : String} {r : Regex} (compiled : compile? pattern = .ok r) :
    ∃ tree f, Ast.parse pattern.toList = .ok tree ∧
      Expr.ofAst { caseInsensitive := true } tree = .ok (r.expr, f) := by
  unfold compile? at compiled
  cases parsed : Ast.parse pattern.toList with
  | error fault => rw [parsed] at compiled; cases compiled
  | ok tree =>
      cases built : Expr.ofAst { caseInsensitive := true } tree with
      | error fault => simp [parsed, built, bind, Except.bind] at compiled
      | ok found =>
          simp only [parsed, built, bind, Except.bind] at compiled
          split at compiled
          · cases compiled
            exact ⟨tree, found.2, rfl, built⟩
          · cases compiled

/-- **A compiled pattern matches the texts in which the pattern is found.** -/
theorem isMatch_iff_finds {pattern : String} {r : Regex} (compiled : compile? pattern = .ok r)
    (text : String) : r.isMatch text = true ↔ Finds pattern text := by
  obtain ⟨tree, f, parsed, built⟩ := expr_of_compile? compiled
  rw [isMatch, Expr.occursIn_iff]
  constructor
  · intro found
    exact ⟨tree, r.expr, f, parsed, built, found⟩
  · rintro ⟨tree', e, f', parsed', built', found⟩
    rw [parsed] at parsed'
    cases parsed'
    rw [built] at built'
    cases built'
    exact found

end ThreatMarker.Regex
