import Mathlib.Data.List.Nodup
import ThreatMarker.Proofs.Line.Combined
import ThreatMarker.Proofs.Regex.Without
import ThreatMarker.Proofs.Rule.Meaning
import ThreatMarker.Rule.Builtin
/-
# What the built-in rules find on lines

The built-in rules make an engine (`exists_ofRules_builtin`).  One of them looks for database queries in
the path, and its pattern is written for texts with blanks.  The path of a line has none: it is a token
of the line as it stands.  On such a path the two branches of the pattern that ask for a blank are dead,
and of the third only one word is left (`finds_sqlPattern_iff`).
-/

namespace ThreatMarker.Rule

set_option autoImplicit false

open Line (Parser Processor)
open Unicode (CharSet)

/-! ## The built-in rules -/

/-- The pattern of database queries. -/
def sqlPattern : String := "(\\bUNION\\s+SELECT\\b|\\bDROP\\s+TABLE\\b|'\\s*OR\\s*1=1)"

/-- The branch of the pattern for a union of queries. -/
def unionPattern : String := "\\bUNION\\s+SELECT\\b"

/-- The branch of the pattern for dropping a table. -/
def dropPattern : String := "\\bDROP\\s+TABLE\\b"

/-- The class that does not occur in the path of a line. -/
def isBlankClass (set : CharSet) : Bool := set == Unicode.whiteSpace

/-- The class of single characters in ascending order. -/
def classOf (cs : List Char) : CharSet := ⟨cs.map fun c => (c.toNat, c.toNat)⟩

/-- A quote, `or` in any case, and `1=1`, with the characters that may stand at each place. -/
def tautology : List (List Char) := [['\''], ['O', 'o'], ['R', 'r'], ['1'], ['='], ['1']]

theorem left_sqlPattern :
    Regex.leftOf? isBlankClass sqlPattern = some (some (.sequence (tautology.map classOf))) := by
  decide +kernel

theorem left_unionPattern : Regex.leftOf? isBlankClass unionPattern = some none := by decide +kernel

theorem left_dropPattern : Regex.leftOf? isBlankClass dropPattern = some none := by decide +kernel

/-- A pattern of which something can be left is accepted. -/
theorem exists_compile_of_left {pattern : String} {absent : CharSet → Bool}
    {left : Option Regex.Expr} (found : Regex.leftOf? absent pattern = some left) :
    ∃ r, Regex.compile? pattern = .ok r := by
  cases compiled : Regex.compile? pattern with
  | error fault => simp [Regex.leftOf?, compiled, Except.toOption] at found
  | ok r => exact ⟨r, rfl⟩

theorem exists_compiles_sqlInjection : ∃ m, Compiles sqlInjection m := by
  obtain ⟨r, compiled⟩ := exists_compile_of_left left_sqlPattern
  have conditions : compileConditions 0 sqlInjection.conditions = .ok [.regex .path r] := by
    show compileConditions 0 [⟨.path, .regex, .one sqlPattern⟩] = _
    simp only [compileConditions, compileCondition, compiled]
  exact ⟨⟨_, _, _, _, _⟩, compiles_iff.2 ⟨by decide, conditions, rfl, rfl, rfl, rfl⟩⟩

theorem exists_compiles_of_isOk {r : Rule} (accepted : (Matcher.ofRule r).isOk = true) :
    ∃ m, Compiles r m := by
  cases compiled : Matcher.ofRule r with
  | error fault => simp [compiled, Except.isOk, Except.toBool] at accepted
  | ok m => exact ⟨m, compiled⟩

/-- **The built-in rules make an engine.** -/
theorem exists_ofRules_builtin : ∃ e, Engine.ofRules builtin = .ok e := by
  refine Engine.exists_ofRules (fun r member => ?_) (by decide)
  simp only [builtin, List.mem_cons, List.not_mem_nil, or_false] at member
  rcases member with rfl | rfl | rfl
  · exact exists_compiles_of_isOk (by decide +kernel)
  · exact exists_compiles_sqlInjection
  · exact exists_compiles_of_isOk (by decide +kernel)

/-! ## Paths without blanks -/

/-- A quote, `or` in any case and `1=1` follow one another in a path. -/
def HasTautology (path : String) : Prop :=
  ∃ o ∈ ['O', 'o'], ∃ r ∈ ['R', 'r'], ∃ before after,
    path.toList = before ++ ['\'', o, r, '1', '=', '1'] ++ after

instance (path : String) : Decidable (HasTautology path) :=
  decidable_of_iff
    ((['O', 'o'].any fun o => ['R', 'r'].any fun r =>
      Text.occursIn ['\'', o, r, '1', '=', '1'] path.toList) = true)
    (by simp only [HasTautology, List.any_eq_true, Text.occursIn_iff])

/-- A text without blanks lacks the class of blanks. -/
theorem lacks_of_isBlankClass {path : List Char} (solid : ∀ c ∈ path, Unicode.isBlank c = false) :
    ∀ set, isBlankClass set = true → Regex.Lacks path set := by
  intro set blank c member
  rw [beq_iff_eq.1 blank]
  exact solid c member

theorem contains_classOf_iff {cs : List Char} (ascending : cs.Pairwise (·.toNat < ·.toNat)) {c : Char} :
    (classOf cs).contains c = true ↔ c ∈ cs := by
  unfold classOf CharSet.contains
  induction cs with
  | nil => simp [CharSet.memRanges]
  | cons a cs ih =>
      obtain ⟨above, ascending⟩ := List.pairwise_cons.1 ascending
      simp only [List.map_cons, CharSet.memRanges, List.mem_cons]
      split
      · -- below the first character there is none of the class
        rename_i below
        have first : c ≠ a := by rintro rfl; omega
        have later : c ∉ cs := fun member => by have := above c member; omega
        simp [first, later]
      · split
        · rename_i least most
          have same : c = a := Char.toNat_inj.1 (by omega)
          simp [same]
        · rename_i least most
          have other : c ≠ a := by rintro rfl; omega
          rw [ih ascending]
          simp [other]

/-- A word of classes has one of the characters of each. -/
theorem forall₂_map_classOf_iff {classes : List (List Char)}
    (ascending : ∀ cs ∈ classes, cs.Pairwise (·.toNat < ·.toNat)) {word : List Char} :
    List.Forall₂ (fun c set => CharSet.contains set c = true) word (classes.map classOf) ↔
      List.Forall₂ (fun c cs => c ∈ cs) word classes := by
  induction classes generalizing word with
  | nil => simp
  | cons cs classes ih =>
      obtain ⟨first, rest⟩ := List.forall_mem_cons.1 ascending
      simp only [List.map_cons, List.forall₂_cons_right_iff, contains_classOf_iff first, ih rest]

theorem forall₂_tautology_iff {word : List Char} :
    List.Forall₂ (fun c cs => c ∈ cs) word tautology ↔
      ∃ o ∈ ['O', 'o'], ∃ r ∈ ['R', 'r'], word = ['\'', o, r, '1', '=', '1'] := by
  constructor
  · rintro (_ | ⟨quote, _ | ⟨o, _ | ⟨r, _ | ⟨one, _ | ⟨equal, _ | ⟨one', ⟨⟩⟩⟩⟩⟩⟩⟩)
    simp only [List.mem_singleton] at quote one equal one'
    subst quote one equal one'
    exact ⟨_, o, _, r, rfl⟩
  · rintro ⟨o, anyO, r, anyR, rfl⟩
    refine .cons ?_ (.cons anyO (.cons anyR (.cons ?_ (.cons ?_ (.cons ?_ .nil)))))
    all_goals exact List.mem_singleton_self _

/-- **In a path without blanks a database query is a tautology.** -/
theorem finds_sqlPattern_iff {path : String}
    (solid : ∀ c ∈ path.toList, Unicode.isBlank c = false) :
    Regex.Finds sqlPattern path ↔ HasTautology path := by
  rw [Regex.finds_iff_of_without left_sqlPattern (lacks_of_isBlankClass solid)]
  have ascending : ∀ cs ∈ tautology, cs.Pairwise (·.toNat < ·.toNat) := by decide
  simp only [forall₂_map_classOf_iff ascending, forall₂_tautology_iff]
  constructor
  · rintro ⟨before, _, after, cut, o, anyO, r, anyR, rfl⟩
    exact ⟨o, anyO, r, anyR, before, after, cut⟩
  · rintro ⟨o, anyO, r, anyR, before, after, cut⟩
    exact ⟨before, _, after, cut, o, anyO, r, anyR, rfl⟩

/-- What an engine finds in a record are the rules that match it. -/
theorem evaluate_of_ofRules {rules : List Rule} {e : Engine} (made : Engine.ofRules rules = .ok e)
    (r : Record) : e.evaluate r = ⟨matching rules r⟩ :=
  congrArg Evaluation.mk (matched_eq_matching (Engine.ofRules_eq_ok_iff.1 made).1 r)

/-- A rule of an engine is among those that match a record exactly if it matches the record. -/
theorem mem_names_evaluate_iff {rules : List Rule} {e : Engine} (made : Engine.ofRules rules = .ok e)
    {rule : Rule} (member : rule ∈ rules) (r : Record) :
    rule.name ∈ (e.evaluate r).names ↔ rule.Matches r := by
  obtain ⟨-, different⟩ := Engine.ofRules_eq_ok_iff.1 made
  simp only [Evaluation.names, evaluate_of_ofRules made, matching, List.map_map, List.mem_map,
    List.mem_filter, decide_eq_true_eq, Function.comp_apply]
  constructor
  · rintro ⟨other, ⟨member', matched⟩, same⟩
    rwa [← List.inj_on_of_nodup_map different member' member same]
  · intro matched
    exact ⟨rule, ⟨member, matched⟩, rfl⟩

/-- The rule of database queries asks for nothing but its pattern. -/
theorem sqlInjection_matches_iff (r : Record) :
    sqlInjection.Matches r ↔ Regex.Finds sqlPattern r.path := by
  have queries : (∀ c ∈ sqlInjection.conditions, c.Holds r) ↔ Regex.Finds sqlPattern r.path := by
    show (∀ c ∈ [⟨.path, .regex, .one sqlPattern⟩], Condition.Holds c r) ↔ _
    rw [List.forall_mem_singleton]
    rfl
  have everyone : isExcluded r.clientIp sqlInjection.excludeNetworks = false := by
    unfold isExcluded
    cases Net.Address.ofText? r.clientIp.toList <;> rfl
  rw [Matches, queries]
  exact ⟨fun ⟨_, found, _⟩ => found, fun found => ⟨rfl, found, everyone⟩⟩

/-! ## Lines -/

/-- The path of a line of the combined format has no blanks. -/
theorem path_of_read?_combined {maxLength : Nat} {line : String} {r : Record}
    (read : (Parser.combined maxLength).read? line = some r) :
    ∀ c ∈ r.path.toList, Unicode.isBlank c = false := by
  obtain ⟨-, e, preferred, rfl⟩ := Line.read?_combined_eq_some_iff.1 read
  simpa [Line.Entry.record] using preferred.1.wellFormed.path.2

/-- A request that was not read from a line: its path has blanks. -/
def sampleQuery : Record := { path := "/x?id=1 UNION SELECT password" }

/-- **On a line, the rule of database queries finds a tautology and nothing else.**  The branches of its
pattern for unions and dropped tables are never found in the path of a line; it takes a path with blanks
for one of them to be found. -/
theorem sqlInjection_on_lines :
    ∃ e, Engine.ofRules builtin = .ok e ∧
      (∀ (maxLength : Nat) (line : String) (r : Record),
        (Parser.combined maxLength).read? line = some r →
          ¬ Regex.Finds unionPattern r.path ∧ ¬ Regex.Finds dropPattern r.path ∧
          ∀ p ∈ [Parser.combined maxLength, Parser.limited maxLength],
            ∃ v, Processor.judgeLine? ⟨p, e⟩ line = some v ∧ v.record = r ∧
              ("SQL_Injection" ∈ v.evaluation.names ↔ HasTautology r.path)) ∧
      Regex.Finds unionPattern sampleQuery.path ∧ ¬ HasTautology sampleQuery.path ∧
        "SQL_Injection" ∈ (e.evaluate sampleQuery).names := by
  obtain ⟨e, made⟩ := exists_ofRules_builtin
  have asks (r : Record) :
      "SQL_Injection" ∈ (e.evaluate r).names ↔ Regex.Finds sqlPattern r.path := by
    have member : sqlInjection ∈ builtin := by simp [builtin]
    rw [← sqlInjection_matches_iff]
    exact mem_names_evaluate_iff made member r
  refine ⟨e, made, fun maxLength line r read => ?_, by decide +kernel, by decide, ?_⟩
  · have solid := path_of_read?_combined read
    refine ⟨Regex.not_finds_of_without left_unionPattern (lacks_of_isBlankClass solid),
      Regex.not_finds_of_without left_dropPattern (lacks_of_isBlankClass solid), fun p either => ?_⟩
    have same : p.read? line = some r := by
      simp only [List.mem_cons, List.not_mem_nil, or_false] at either
      rcases either with rfl | rfl
      · exact read
      · rw [Parser.read?_limited, read]
    refine ⟨⟨r, e.evaluate r⟩, by simp [Processor.judgeLine?, same, Processor.judge], rfl, ?_⟩
    rw [asks, finds_sqlPattern_iff solid]
  · rw [asks]
    decide +kernel

/-- A line with a quote, `or` and `1=1` in its path. -/
def sampleAttack : String := "8.8.8.8 - - [t] \"GET /q='oR1=1 HTTP/1.1\" 200 5 \"-\" \"ua\""

theorem sqlInjection_on_sampleAttack :
    (Parser.combined 99).read? sampleAttack = some
        { clientIp := "8.8.8.8", timestamp := "t", method := "GET", path := "/q='oR1=1", referer := "-",
          userAgent := "ua", statusCode := "200" } ∧
      ∃ e, Engine.ofRules builtin = .ok e ∧
        ∃ v, Processor.judgeLine? ⟨.combined 99, e⟩ sampleAttack = some v ∧
          "SQL_Injection" ∈ v.evaluation.names := by
  have read : (Parser.combined 99).read? sampleAttack = some
      { clientIp := "8.8.8.8", timestamp := "t", method := "GET", path := "/q='oR1=1", referer := "-",
        userAgent := "ua", statusCode := "200" } := by
    decide +kernel
  obtain ⟨e, made, onLines, -⟩ := sqlInjection_on_lines
  obtain ⟨-, -, judged⟩ := onLines 99 sampleAttack _ read
  obtain ⟨v, found, -, same⟩ := judged (.combined 99) (by simp)
  exact ⟨read, e, made, v, found, same.2 (by decide)⟩

end ThreatMarker.Rule
