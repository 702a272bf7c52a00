import Mathlib.Data.List.TakeWhile
import ThreatMarker.Line.Parser
import ThreatMarker.Proofs.Line.Pattern
/-
# What a combined line is read as

`Entry.pattern` is the combined format as a pattern with lazy and greedy runs.  The reader of lines
finds exactly its preferred match (`first?_pattern`), and all but three of the parts of a match follow
from the line: the runs before a blank or a quote have only one end.  So the reader accepts a line
exactly if its text has a decomposition, and of all decompositions it takes the one whose timestamp,
then referer, then agent is shortest.
-/

namespace ThreatMarker.Line

set_option autoImplicit false

open List (isPrefixOf? isPrefixOf?_eq_some_iff_append_eq)
open Unicode (isBlank isDecimalDigit trimBlank)

namespace Entry

/-! ## The format as a pattern -/

/-- What follows the timestamp. -/
def patternAfterTimestamp : List Element :=
  [.longest (fun c => !isBlank c), .mark [' '], .longest (fun c => !isBlank c), .mark [' '],
    .longest (fun c => !isBlank c), .mark afterProtocol, .longest isDecimalDigit, .mark [' '],
    .longest isDecimalDigit, .mark beforeReferer, .shortest (· != '\n'), .mark afterReferer,
    .shortest (· != '\n'), .mark ['"']]

/-- The combined format. -/
def pattern : List Element :=
  .longest (fun c => !isBlank c) :: .mark afterAddress :: .shortest (· != '\n') ::
    .mark afterTimestamp :: patternAfterTimestamp

/-- The runs of a line in order. -/
def parts (e : Entry) : List (List Char) :=
  [e.address, e.timestamp, e.method, e.path, e.protocol, e.status, e.size, e.referer, e.agent]

theorem isInline_iff {t : List Char} : IsInline t ↔ ∀ c ∈ t, (c != '\n') = true := by
  simp only [IsInline, bne_iff_ne]
  exact ⟨fun h c member same => h (same ▸ member), fun h member => h '\n' member rfl⟩

theorem isToken_iff {t : List Char} : IsToken t ↔ t ≠ [] ∧ ∀ c ∈ t, (!isBlank c) = true := by
  simp [IsToken]

instance : DecidablePred IsToken := fun t =>
  decidable_of_iff (t ≠ [] ∧ t.all (fun c => !isBlank c) = true) (by simp [IsToken])

instance : DecidablePred IsNumber := fun t =>
  decidable_of_iff (t ≠ [] ∧ t.all isDecimalDigit = true) (by simp [IsNumber])

instance : DecidablePred IsInline := fun t => inferInstanceAs (Decidable ('\n' ∉ t))

instance (e : Entry) : Decidable e.WellFormed :=
  decidable_of_iff (IsToken e.address ∧ IsInline e.timestamp ∧ IsToken e.method ∧ IsToken e.path ∧
      IsToken e.protocol ∧ IsNumber e.status ∧ IsNumber e.size ∧ IsInline e.referer ∧ IsInline e.agent)
    ⟨fun ⟨a, t, m, p, q, s, z, r, g⟩ => ⟨a, t, m, p, q, s, z, r, g⟩,
      fun ⟨a, t, m, p, q, s, z, r, g⟩ => ⟨a, t, m, p, q, s, z, r, g⟩⟩

theorem render_pattern (e : Entry) : render pattern e.parts e.tail = e.text := by
  unfold text
  simp only [List.append_assoc]
  rfl

theorem fits_parts {e : Entry} : Fits pattern e.parts ↔ e.WellFormed := by
  simp only [pattern, patternAfterTimestamp, parts, Fits, ← isToken_iff, ← isInline_iff, and_true]
  exact ⟨fun ⟨a, t, m, p, q, s, z, r, g⟩ => ⟨a, t, m, p, q, s, z, r, g⟩,
    fun ⟨a, t, m, p, q, s, z, r, g⟩ => ⟨a, t, m, p, q, s, z, r, g⟩⟩

theorem eq_of_parts {e e' : Entry} (parts : e.parts = e'.parts) (tail : e.tail = e'.tail) :
    e = e' := by
  cases e; cases e'
  simp only [Entry.parts, List.cons.injEq, and_true] at parts tail
  simp [parts, tail]

/-- Runs that fit the pattern are the parts of a line. -/
theorem exists_parts_of_fits {ps : List (List Char)} (rest : List Char) (fits : Fits pattern ps) :
    ∃ e : Entry, e.parts = ps ∧ e.tail = rest := by
  rcases ps with _ | ⟨address, _ | ⟨timestamp, _ | ⟨method, _ | ⟨path, _ | ⟨protocol, _ | ⟨status,
    _ | ⟨size, _ | ⟨referer, _ | ⟨agent, _ | ⟨_, _⟩⟩⟩⟩⟩⟩⟩⟩⟩⟩
  all_goals try simp [pattern, patternAfterTimestamp, Fits] at fits
  exact ⟨⟨address, timestamp, method, path, protocol, status, size, referer, agent, rest⟩, rfl, rfl⟩

/-- The matches of the pattern are the lines of the format. -/
theorem matches_pattern_iff {cs rest : List Char} {ps : List (List Char)} :
    Matches pattern cs ps rest ↔
      ∃ e : Entry, e.WellFormed ∧ e.text = cs ∧ e.parts = ps ∧ e.tail = rest := by
  rw [matches_iff]
  constructor
  · rintro ⟨fits, rfl⟩
    obtain ⟨e, rfl, rfl⟩ := exists_parts_of_fits rest fits
    exact ⟨e, fits_parts.1 fits, (render_pattern e).symm, rfl, rfl⟩
  · rintro ⟨e, wf, rfl, rfl, rfl⟩
    exact ⟨fits_parts.2 wf, (render_pattern e).symm⟩

/-! ## The reader finds the preferred match -/

theorem quotedToken?_eq_some_iff {cs token rest : List Char} :
    quotedToken? cs = some (token, rest) ↔
      token ≠ [] ∧ (∀ c ∈ token, (!isBlank c) = true) ∧ cs = token ++ '"' :: rest ∧
        ∀ c ∈ rest.head?, (!isBlank c) = false := by
  have quote : (!isBlank '"') = true := by decide
  constructor
  · intro found
    unfold quotedToken? at found
    split at found
    · cases found
    · rename_i run tail taken
      obtain ⟨-, within, rfl, stops⟩ := run?_eq_some_iff.1 taken
      split at found
      · rename_i quoted
        obtain ⟨long, last⟩ := quoted
        obtain ⟨ys, rfl⟩ := List.getLast?_eq_some_iff.1 last
        simp only [List.dropLast_concat, Option.some.injEq, Prod.mk.injEq] at found
        obtain ⟨rfl, rfl⟩ := found
        refine ⟨?_, fun c member => within c (List.mem_append_left _ member), by simp, stops⟩
        rintro rfl
        simp at long
      · cases found
  · rintro ⟨nonempty, within, rfl, stops⟩
    have taken : run? (fun c => !isBlank c) (token ++ '"' :: rest) = some (token ++ ['"'], rest) := by
      refine run?_eq_some_iff.2 ⟨by simp, fun c member => ?_, by simp, stops⟩
      rcases List.mem_append.1 member with member | member
      · exact within c member
      · rw [List.mem_singleton.1 member]; exact quote
    simp [quotedToken?, taken, List.length_pos_iff.2 nonempty]

/-- The protocol is a run whose last character is the quote of the mark after it. -/
theorem first?_quotedToken (es : List Element) (cs : List Char) :
    first? (.longest (fun c => !isBlank c) :: .mark afterProtocol :: es) cs =
      (quotedToken? cs).bind fun s =>
        (isPrefixOf? [' '] s.2).bind fun cs => (first? es cs).map fun m => (s.1 :: m.1, m.2) := by
  have blank : (!isBlank ' ') = false := by decide
  -- a choice that reaches the mark is the token that the reader takes
  have reaches : ∀ s ∈ splits (fun c => !isBlank c) cs, s.1 ≠ [] →
      ∀ cs', isPrefixOf? afterProtocol s.2 = some cs' → quotedToken? cs = some (s.1, ' ' :: cs') := by
    intro s member nonempty cs' after
    obtain ⟨joined, within⟩ := mem_splits.1 member
    rw [← isPrefixOf?_eq_some_iff_append_eq.1 after] at joined
    exact quotedToken?_eq_some_iff.2 ⟨nonempty, within, joined, by simpa using blank⟩
  cases token : quotedToken? cs with
  | none =>
      simp only [first?, Option.bind_none, List.findSome?_eq_none_iff, List.mem_reverse]
      intro s member
      split
      · rfl
      · rename_i nonempty
        cases after : isPrefixOf? afterProtocol s.2 with
        | none => rfl
        | some cs' => rw [reaches s member nonempty cs' after] at token; cases token
  | some s =>
      obtain ⟨run, rest⟩ := s
      obtain ⟨nonempty, within, rfl, -⟩ := quotedToken?_eq_some_iff.1 token
      have member : (run, '"' :: rest) ∈ (splits (fun c => !isBlank c) (run ++ '"' :: rest)).reverse :=
        List.mem_reverse.2 (mem_splits.2 ⟨rfl, within⟩)
      rw [first?, findSome?_eq_of_unique member]
      · have mark : isPrefixOf? afterProtocol ('"' :: rest) = isPrefixOf? [' '] rest := rfl
        simp only [nonempty, if_false, first?, mark, Option.map_bind]
        rfl
      · intro s inList different
        split
        · rfl
        · rename_i taken
          cases after : isPrefixOf? afterProtocol s.2 with
          | none => simp [first?, after]
          | some cs' =>
              have same := reaches s (List.mem_reverse.1 inList) taken cs' after
              rw [token, Option.some.injEq, Prod.mk.injEq] at same
              have tail := isPrefixOf?_eq_some_iff_append_eq.1 after
              refine absurd (Prod.ext same.1.symm ?_) different
              rw [← tail, afterProtocol, same.2]
              rfl

/-- The shortest text before a mark is the first cut that the mark follows. -/
theorem upToFrom?_eq (mark before cs : List Char) :
    upToFrom? mark before cs =
      (splits (· != '\n') cs).findSome? fun s =>
        (isPrefixOf? mark s.2).map fun rest => (before.reverse ++ s.1, rest) := by
  induction cs generalizing before with
  | nil => cases h : isPrefixOf? mark [] <;> simp [upToFrom?, splits, h]
  | cons c cs ih =>
      simp only [upToFrom?, splits, List.findSome?_cons]
      cases h : isPrefixOf? mark (c :: cs) with
      | some rest => simp
      | none =>
          by_cases line : c = '\n'
          · simp [line]
          · simp [line, ih, List.findSome?_map, Function.comp_def]

theorem upTo?_eq (mark cs : List Char) :
    upTo? mark cs =
      (splits (· != '\n') cs).findSome? fun s => (isPrefixOf? mark s.2).map fun rest => (s.1, rest) :=
  upToFrom?_eq mark [] cs

/-- The shortest timestamp is the first cut from which the rest of the line can be read. -/
theorem fromTimestamp?_eq (address before cs : List Char) :
    fromTimestamp? address before cs =
      (splits (· != '\n') cs).findSome? fun s =>
        (isPrefixOf? afterTimestamp s.2).bind (afterTimestamp? address (s.1.reverse ++ before)) := by
  induction cs generalizing before with
  | nil => cases h : (isPrefixOf? afterTimestamp []).bind (afterTimestamp? address before) <;>
      simp [fromTimestamp?, splits, h]
  | cons c cs ih =>
      rw [fromTimestamp?.eq_def]
      simp only [splits, List.findSome?_cons, List.reverse_nil, List.nil_append]
      cases h : (isPrefixOf? afterTimestamp (c :: cs)).bind (afterTimestamp? address before) with
      | some e => rfl
      | none =>
          by_cases line : c = '\n'
          · simp [line]
          · simp [line, ih, List.findSome?_map, Function.comp_def]

/-- Where no quote follows on the line, neither does a second end of the referer. -/
theorem later_referer_eq_nil {rest x cs : List Char} (unclosed : upTo? ['"'] rest = none)
    (inline : ∀ c ∈ x, (c != '\n') = true)
    (joined : afterReferer ++ rest = x ++ (afterReferer ++ cs)) : x = [] := by
  have no_quote : ∀ t u : List Char, rest = t ++ '"' :: u → ¬ ∀ c ∈ t, (c != '\n') = true := by
    intro t u same within
    rw [upTo?_eq, List.findSome?_eq_none_iff] at unclosed
    have := unclosed (t, '"' :: u) (mem_splits.2 ⟨same, within⟩)
    simp [isPrefixOf?] at this
  rcases x with _ | ⟨a, _ | ⟨b, _ | ⟨c, x⟩⟩⟩
  · rfl
  · simp [afterReferer] at joined
  · simp only [afterReferer, List.cons_append, List.nil_append, List.cons.injEq] at joined
    exact absurd (by simp) (no_quote [' '] _ joined.2.2.2)
  · simp only [afterReferer, List.cons_append, List.nil_append, List.cons.injEq] at joined
    refine absurd (fun d member => inline d ?_) (no_quote x _ joined.2.2.2)
    simp [member]

theorem first?_agent (cs : List Char) :
    first? [.shortest (· != '\n'), .mark ['"']] cs =
      (upTo? ['"'] cs).map fun s => ([s.1], s.2) := by
  rw [upTo?_eq, List.map_findSome?, first?]
  congr 1
  funext s
  cases h : isPrefixOf? ['"'] s.2 <;> simp [first?, h]

/-- Backtracking into the referer never helps: its first end is taken. -/
theorem first?_referer (cs : List Char) :
    first? [.shortest (· != '\n'), .mark afterReferer, .shortest (· != '\n'), .mark ['"']] cs =
      (upTo? afterReferer cs).bind fun s =>
        (upTo? ['"'] s.2).map fun t => ([s.1, t.1], t.2) := by
  have mark (cs : List Char) :
      first? [.mark afterReferer, .shortest (· != '\n'), .mark ['"']] cs =
        (isPrefixOf? afterReferer cs).bind fun rest =>
          (upTo? ['"'] rest).map fun s => ([s.1], s.2) := by
    rw [first?]; simp only [← first?_agent]
  rw [upTo?_eq, ← findSome?_bind, first?]
  · congr 1
    funext s
    cases h : isPrefixOf? afterReferer s.2 <;> simp [mark, h, Function.comp_def]
  · rintro ⟨referer, rest⟩ found unclosed ⟨run, cs'⟩ member ⟨_, other⟩ value
    simp only [Option.map_eq_none_iff, Option.map_eq_some_iff, Prod.mk.injEq] at unclosed value ⊢
    obtain ⟨_, after, rfl, rfl⟩ := value
    obtain ⟨⟨first, tail⟩, inList, here, tried⟩ :=
      failed_before (splits_ascending (· != '\n') cs) found
    simp only [Option.map_eq_some_iff, Prod.mk.injEq] at here
    obtain ⟨_, here, rfl, rfl⟩ := here
    obtain ⟨joined, -⟩ := mem_splits.1 inList
    obtain ⟨joined', within⟩ := mem_splits.1 member
    have no_shorter : first.length ≤ run.length := by
      rcases tried _ member with failed | same | longer
      · simp [after] at failed
      · simp [(Prod.mk.inj same).1]
      · exact Nat.le_of_lt longer
    simp only [← isPrefixOf?_eq_some_iff_append_eq.1 here,
      ← isPrefixOf?_eq_some_iff_append_eq.1 after] at joined joined'
    -- the longer referer begins with the shorter one, so all that is between them is empty
    obtain ⟨x, rfl⟩ : ∃ x, run = first ++ x := by
      obtain ⟨x, same⟩ := List.prefix_of_prefix_length_le ⟨_, joined.symm⟩ ⟨_, joined'.symm⟩ no_shorter
      exact ⟨x, same.symm⟩
    rw [joined, List.append_assoc, List.append_cancel_left_eq] at joined'
    have empty := later_referer_eq_nil unclosed
      (fun c inside => within c (List.mem_append_right _ inside)) joined'
    rw [empty, List.nil_append, List.append_cancel_left_eq] at joined'
    rw [← joined', unclosed]

theorem map_bind_congr {α β β' γ : Type} {x : Option α} {f : α → Option β} {f' : α → Option β'}
    {g : β → γ} {g' : β' → γ} (same : ∀ a, (f a).map g = (f' a).map g') :
    (x.bind f).map g = (x.bind f').map g' := by
  cases x with
  | none => rfl
  | some a => exact same a

/-- What follows the timestamp is read without a second try. -/
theorem first?_patternAfterTimestamp (address timestamp cs : List Char) :
    (afterTimestamp? address timestamp cs).map (fun e => (e.parts, e.tail)) =
      (first? patternAfterTimestamp cs).map fun m => (address :: timestamp.reverse :: m.1, m.2) := by
  have blank : (!isBlank ' ') = false := by decide
  have digit : isDecimalDigit ' ' = false := by decide
  rw [patternAfterTimestamp, first?_longest_mark (p := fun c => !isBlank c) blank]
  refine map_bind_congr fun method => map_bind_congr fun cs => ?_
  rw [Option.map_map, first?_longest_mark (p := fun c => !isBlank c) blank]
  refine map_bind_congr fun path => map_bind_congr fun cs => ?_
  rw [Option.map_map, first?_quotedToken]
  refine map_bind_congr fun protocol => map_bind_congr fun cs => ?_
  rw [Option.map_map, first?_longest_mark digit]
  refine map_bind_congr fun status => map_bind_congr fun cs => ?_
  rw [Option.map_map, beforeReferer, first?_longest_mark digit]
  refine map_bind_congr fun size => map_bind_congr fun cs => ?_
  rw [Option.map_map, first?_referer]
  refine map_bind_congr fun ⟨referer, cs⟩ => ?_
  show ((upTo? ['"'] cs).bind _).map _ = Option.map _ ((upTo? ['"'] cs).map _)
  cases upTo? ['"'] cs <;> rfl

/-- **The reader finds the preferred match of the pattern.** -/
theorem first?_pattern (cs : List Char) :
    first? pattern cs = (ofChars? cs).map fun e => (e.parts, e.tail) := by
  have blank : (!isBlank ' ') = false := by decide
  have timestamp (address cs : List Char) :
      (first? (.shortest (· != '\n') :: .mark afterTimestamp :: patternAfterTimestamp) cs).map
          (fun m => (address :: m.1, m.2)) =
        (fromTimestamp? address [] cs).map fun e => (e.parts, e.tail) := by
    rw [fromTimestamp?_eq, List.map_findSome?, first?, List.map_findSome?]
    congr 1
    funext s
    simp only [Function.comp_def, first?, Option.map_bind, first?_patternAfterTimestamp,
      Option.map_map, List.append_nil, List.reverse_reverse]
  simp only [pattern, afterAddress, first?_longest_mark (p := fun c => !isBlank c) blank, timestamp]
  simp only [ofChars?, afterAddress, Option.bind_eq_bind, Option.map_bind, Function.comp_def]

/-! ## What follows from the line -/

/-- Of two decompositions, one has the shorter timestamp, or with timestamps of one length the shorter
referer, or with these of one length too the shorter agent. -/
def Shorter (e e' : Entry) : Prop :=
  e.timestamp.length < e'.timestamp.length ∨
    e.timestamp.length = e'.timestamp.length ∧
      (e.referer.length < e'.referer.length ∨
        e.referer.length = e'.referer.length ∧ e.agent.length < e'.agent.length)

instance (e e' : Entry) : Decidable (e.Shorter e') := inferInstanceAs (Decidable (_ ∨ _))

theorem Shorter.asymm {e e' : Entry} (h : e.Shorter e') : ¬ e'.Shorter e := by
  simp only [Shorter] at h ⊢
  omega

/-- **All parts but three are forced**: a preferred match is the same as another or shorter in one of
timestamp, referer and agent. -/
theorem eq_or_shorter {e e' : Entry} (wf : e.WellFormed) (wf' : e'.WellFormed)
    (same : e.text = e'.text) (prefers : Prefers pattern e.parts e'.parts) :
    e' = e ∨ e.Shorter e' := by
  have blank : (!isBlank ' ') = false := by decide
  have digit : isDecimalDigit ' ' = false := by decide
  have quote : (!isBlank '"') = true := by decide
  obtain ⟨address, timestamp, method, path, protocol, status, size, referer, agent, tail⟩ := e
  obtain ⟨address', timestamp', method', path', protocol', status', size', referer', agent', tail'⟩ :=
    e'
  unfold text at same
  simp only [List.append_assoc, afterAddress, afterProtocol, beforeReferer, List.cons_append,
    List.nil_append] at same
  simp only [pattern, patternAfterTimestamp, parts, Prefers] at prefers
  obtain ⟨rfl, same₁⟩ := run_forced (isToken_iff.1 wf.address).2 (isToken_iff.1 wf'.address).2
    blank blank same
  simp only [List.cons.injEq, true_and] at same₁
  rcases prefers with longer | ⟨-, shorter | ⟨length, prefers⟩⟩
  · simp at longer
  · exact .inr (.inl shorter)
  obtain ⟨rfl, same₂⟩ := List.append_inj same₁ length
  rw [List.append_cancel_left_eq] at same₂
  obtain ⟨rfl, same₃⟩ := run_forced (isToken_iff.1 wf.method).2 (isToken_iff.1 wf'.method).2
    blank blank same₂
  obtain ⟨rfl, same₄⟩ := run_forced (isToken_iff.1 wf.path).2 (isToken_iff.1 wf'.path).2
    blank blank same₃
  -- the quote after the protocol is no blank, so it is part of the run that ends at the blank
  have quoted {t : List Char} (within : ∀ c ∈ t, (!isBlank c) = true) :
      ∀ c ∈ t ++ ['"'], (!isBlank c) = true := by
    intro c member
    rcases List.mem_append.1 member with member | member
    · exact within c member
    · rw [List.mem_singleton.1 member]; exact quote
  rw [List.append_cons protocol, List.append_cons protocol'] at same₄
  obtain ⟨run, same₅⟩ := run_forced (quoted (isToken_iff.1 wf.protocol).2)
    (quoted (isToken_iff.1 wf'.protocol).2) blank blank same₄
  obtain rfl := List.append_cancel_right run
  obtain ⟨rfl, same₆⟩ := run_forced wf.status.2 wf'.status.2 digit digit same₅
  obtain ⟨rfl, same₇⟩ := run_forced wf.size.2 wf'.size.2 digit digit same₆
  simp only [List.cons.injEq, true_and] at same₇
  simp only [Nat.lt_irrefl, false_or, true_and] at prefers
  rcases prefers with shorter | ⟨length', shorter | ⟨length'', -⟩⟩
  · exact .inr (.inr ⟨rfl, .inl shorter⟩)
  · exact .inr (.inr ⟨rfl, .inr ⟨length', shorter⟩⟩)
  obtain ⟨rfl, same₈⟩ := List.append_inj same₇ length'
  rw [List.append_cancel_left_eq] at same₈
  obtain ⟨rfl, same₉⟩ := List.append_inj same₈ length''
  simp only [List.cons.injEq, true_and] at same₉
  exact .inl (by rw [same₉])

/-! ## Blanks around a line -/

/-- A text without the blanks at its ends. -/
def Trims (line text : List Char) : Prop :=
  ∃ before after, line = before ++ text ++ after ∧ (∀ c ∈ before, isBlank c = true) ∧
    (∀ c ∈ after, isBlank c = true) ∧ (∀ c ∈ text.head?, isBlank c = false) ∧
    ∀ c ∈ text.getLast?, isBlank c = false

theorem dropWhile_of_head? {p : Char → Bool} {front rest : List Char} (within : ∀ c ∈ front, p c = true)
    (stops : ∀ c ∈ rest.head?, p c = false) : (front ++ rest).dropWhile p = rest := by
  rw [List.dropWhile_append_of_pos within]
  cases rest with
  | nil => rfl
  | cons c rest => simp [stops c rfl]

theorem head?_dropWhile {p : Char → Bool} {cs : List Char} :
    ∀ c ∈ (cs.dropWhile p).head?, p c = false := by
  intro c first
  have := List.head?_dropWhile_not p cs
  rw [Option.mem_def.1 first] at this
  simpa using this

theorem trims_iff {line text : List Char} : Trims line text ↔ text = trimBlank line := by
  unfold trimBlank
  constructor
  · rintro ⟨before, after, rfl, inBefore, inAfter, first, last⟩
    cases text with
    | nil =>
        have all : ∀ c ∈ before ++ [] ++ after, isBlank c = true := by
          intro c member
          simp only [List.append_nil, List.mem_append] at member
          exact member.elim (inBefore c) (inAfter c)
        have gone : (before ++ [] ++ after).dropWhile isBlank = [] :=
          List.dropWhile_eq_nil_iff.2 all
        rw [gone]
        rfl
    | cons c text =>
        rw [List.append_assoc, dropWhile_of_head? inBefore (by simpa using first),
          List.reverse_append, dropWhile_of_head? (by simpa using inAfter)
            (by simpa only [List.head?_reverse] using last), List.reverse_reverse]
  · rintro rfl
    have back (t : List Char) :
        t = (t.reverse.dropWhile isBlank).reverse ++ (t.reverse.takeWhile isBlank).reverse := by
      rw [← List.reverse_append, List.takeWhile_append_dropWhile, List.reverse_reverse]
    refine ⟨line.takeWhile isBlank, ((line.dropWhile isBlank).reverse.takeWhile isBlank).reverse,
      ?_, List.all_eq_true.1 List.all_takeWhile, ?_, ?_, ?_⟩
    · rw [List.append_assoc, ← back, List.takeWhile_append_dropWhile]
    · intro c member
      exact List.all_eq_true.1 List.all_takeWhile c (List.mem_reverse.1 member)
    · intro c first
      suffices member : c ∈ (line.dropWhile isBlank).head? from head?_dropWhile c member
      rw [back (line.dropWhile isBlank), List.head?_append, Option.mem_def.1 first]
      rfl
    · intro c last
      rw [List.getLast?_reverse] at last
      exact head?_dropWhile c last

/-! ## The reading of a line -/

/-- The parts of a line of the format, whatever blanks stand around it. -/
structure Decomposes (e : Entry) (line : List Char) : Prop where
  wellFormed : e.WellFormed
  text : Trims line e.text

/-- The decomposition that is shorter than every other. -/
def IsPreferred (e : Entry) (line : List Char) : Prop :=
  e.Decomposes line ∧ ∀ e' : Entry, e'.Decomposes line → e' = e ∨ e.Shorter e'

theorem decomposes_iff {e : Entry} {line : List Char} :
    e.Decomposes line ↔ e.WellFormed ∧ e.text = trimBlank line :=
  ⟨fun d => ⟨d.wellFormed, trims_iff.1 d.text⟩, fun ⟨wf, text⟩ => ⟨wf, trims_iff.2 text⟩⟩

instance (e : Entry) (line : List Char) : Decidable (e.Decomposes line) :=
  decidable_of_iff _ decomposes_iff.symm

theorem isPreferred_of_ofChars? {e : Entry} {line : List Char}
    (found : ofChars? (trimBlank line) = some e) : e.IsPreferred line := by
  have first : first? pattern (trimBlank line) = some (e.parts, e.tail) := by
    rw [first?_pattern, found]; rfl
  obtain ⟨e₁, wf, text, parts, tail⟩ := matches_pattern_iff.1 (matches_of_first? first)
  obtain rfl := eq_of_parts parts tail
  refine ⟨decomposes_iff.2 ⟨wf, text⟩, fun e' other => ?_⟩
  obtain ⟨wf', text'⟩ := decomposes_iff.1 other
  exact eq_or_shorter wf wf' (text.trans text'.symm)
    (prefers_of_first? first (matches_pattern_iff.2 ⟨e', wf', text', rfl, rfl⟩))

theorem isSome_ofChars?_iff {line : List Char} :
    (ofChars? (trimBlank line)).isSome = true ↔ ∃ e : Entry, e.Decomposes line := by
  constructor
  · intro found
    obtain ⟨e, found⟩ := Option.isSome_iff_exists.1 found
    exact ⟨e, (isPreferred_of_ofChars? found).1⟩
  · rintro ⟨e, decomposed⟩
    obtain ⟨wf, text⟩ := decomposes_iff.1 decomposed
    have := isSome_first? (matches_pattern_iff.2 ⟨e, wf, text, rfl, rfl⟩)
    simpa [first?_pattern] using this

theorem ofChars?_eq_some_iff {e : Entry} {line : List Char} :
    ofChars? (trimBlank line) = some e ↔ e.IsPreferred line := by
  refine ⟨isPreferred_of_ofChars?, fun ⟨decomposed, least⟩ => ?_⟩
  obtain ⟨e', found⟩ := Option.isSome_iff_exists.1 (isSome_ofChars?_iff.2 ⟨e, decomposed⟩)
  obtain ⟨decomposed', least'⟩ := isPreferred_of_ofChars? found
  rcases least e' decomposed' with rfl | shorter
  · exact found
  · rcases least' e decomposed with rfl | shorter'
    · exact found
    · exact absurd shorter' shorter.asymm

/-- The record of a line has seven of its parts as they stand. -/
theorem record_eq_iff {e : Entry} {r : Record} :
    e.record = r ↔ r.clientIp = String.ofList e.address ∧ r.timestamp = String.ofList e.timestamp ∧
      r.method = String.ofList e.method ∧ r.path = String.ofList e.path ∧
      r.referer = String.ofList e.referer ∧ r.userAgent = String.ofList e.agent ∧
      r.statusCode = String.ofList e.status := by
  cases r
  simp [record, eq_comm]

end Entry

theorem read?_combined (maxLength : Nat) (line : String) :
    (Parser.combined maxLength).read? line =
      if maxLength < line.utf8ByteSize then none
      else (Entry.ofChars? (trimBlank line.toList)).map Entry.record := rfl

theorem read?_combined_eq_some_iff {maxLength : Nat} {line : String} {r : Record} :
    (Parser.combined maxLength).read? line = some r ↔
      line.utf8ByteSize ≤ maxLength ∧ ∃ e : Entry, e.IsPreferred line.toList ∧ e.record = r := by
  rw [read?_combined, ← Nat.not_lt]
  split
  · simp [*]
  · simp [*, Entry.ofChars?_eq_some_iff]

/-- **A line is read exactly if it is short enough and has a decomposition, and the values of the record
are those of its preferred decomposition**, which is the leftmost-first match of the pattern. -/
theorem combined_reads_preferred (maxLength : Nat) (line : String) :
    (((Parser.combined maxLength).read? line).isSome = true ↔
        line.utf8ByteSize ≤ maxLength ∧ ∃ e : Entry, e.Decomposes line.toList) ∧
      (∀ r : Record, (Parser.combined maxLength).read? line = some r ↔
        line.utf8ByteSize ≤ maxLength ∧ ∃ e : Entry, e.IsPreferred line.toList ∧
          r.clientIp = String.ofList e.address ∧ r.timestamp = String.ofList e.timestamp ∧
          r.method = String.ofList e.method ∧ r.path = String.ofList e.path ∧
          r.referer = String.ofList e.referer ∧ r.userAgent = String.ofList e.agent ∧
          r.statusCode = String.ofList e.status) ∧
      ∀ e : Entry, e.IsPreferred line.toList ↔
        first? Entry.pattern (trimBlank line.toList) = some (e.parts, e.tail) := by
  refine ⟨?_, fun r => ?_, fun e => ?_⟩
  · rw [read?_combined, ← Entry.isSome_ofChars?_iff, ← Nat.not_lt]
    split
    · simp [*]
    · simp [*]
  · simp only [read?_combined_eq_some_iff, Entry.record_eq_iff]
  · rw [← Entry.ofChars?_eq_some_iff, Entry.first?_pattern]
    refine ⟨fun found => by rw [found]; rfl, fun found => ?_⟩
    obtain ⟨e', found, same⟩ := Option.map_eq_some_iff.1 found
    simp only [Prod.mk.injEq] at same
    rw [found, Entry.eq_of_parts same.1 same.2]

/-- A line with a bracket in its timestamp, quotes in its referer and a text after its agent. -/
def ambiguousLine : String :=
  "a - - [x] y] \"b c d\" 1 2 \"p] \"e f g\" 3 4 \"r\" \"s\" \"u\" t"

/-- What is read of the line. -/
def ambiguousEntry : Entry where
  address := "a".toList
  timestamp := "x] y".toList
  method := "b".toList
  path := "c".toList
  protocol := "d".toList
  status := "1".toList
  size := "2".toList
  referer := "p] \"e f g\" 3 4 \"r".toList
  agent := "s".toList
  tail := " \"u\" t".toList

/-- The line with a longer timestamp, which takes in the first request, with a longer referer, which
takes in the agent, and with a longer agent. -/
def otherEntries : List Entry :=
  [{ ambiguousEntry with
      timestamp := "x] y] \"b c d\" 1 2 \"p".toList, method := "e".toList, path := "f".toList,
      protocol := "g".toList, status := "3".toList, size := "4".toList, referer := "r".toList },
    { ambiguousEntry with
      referer := "p] \"e f g\" 3 4 \"r\" \"s".toList, agent := "u".toList, tail := " t".toList },
    { ambiguousEntry with agent := "s\" \"u".toList, tail := " t".toList }]

theorem combined_reads_preferred_of_ambiguousLine :
    (∀ e ∈ ambiguousEntry :: otherEntries, e.Decomposes ambiguousLine.toList) ∧
      ambiguousEntry.IsPreferred ambiguousLine.toList ∧
      (∀ e ∈ otherEntries, ambiguousEntry.Shorter e) ∧
      (Parser.combined 54).read? ambiguousLine = some
        { clientIp := "a", timestamp := "x] y", method := "b", path := "c",
          referer := "p] \"e f g\" 3 4 \"r", userAgent := "s", statusCode := "1" } ∧
      (Parser.combined 53).read? ambiguousLine = none := by
  have preferred : ambiguousEntry.IsPreferred ambiguousLine.toList :=
    ((combined_reads_preferred 54 ambiguousLine).2.2 ambiguousEntry).2 (by decide +kernel)
  refine ⟨by decide +kernel, preferred, ?_, ?_, ?_⟩
  · decide +kernel
  · refine ((combined_reads_preferred 54 ambiguousLine).2.1 _).2 ⟨by decide +kernel, _, preferred, ?_⟩
    simp [ambiguousEntry]
  · exact Parser.read?_combined_of_lt (by decide +kernel)

end ThreatMarker.Line
