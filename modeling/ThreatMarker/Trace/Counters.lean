/-
# Counters

What is counted during a run.  A counter may be split by a label; its key is then the name with the
label and its value.
-/

namespace ThreatMarker.Trace

set_option autoImplicit false

def linesRead : String := "accesswatch_lines_read_total"
def linesSkipped : String := "accesswatch_lines_skipped_total"
def recordsFlagged : String := "accesswatch_records_flagged_total"
def ruleMatches : String := "accesswatch_rule_matches_total"
def filesProcessed : String := "accesswatch_files_processed_total"

/-- What each counter counts. -/
def descriptions : List (String × String) := [
  (linesRead, "Total access log lines read"),
  (linesSkipped, "Lines skipped because they did not match the log format"),
  (recordsFlagged, "Records marked as matching at least one detection rule"),
  (ruleMatches, "Detection rule matches by rule name"),
  (filesProcessed, "Input files processed by result")]

/-- The key of a counter that is split by a label. -/
def labelled (name label value : String) : String :=
  name ++ "\x7b" ++ label ++ "=" ++ value ++ "\x7d"

/-- Counts by key, in the order in which the keys were first counted. -/
abbrev Counters := List (String × Nat)

namespace Counters

/-- The count of a key. -/
def count (c : Counters) (key : String) : Nat :=
  match c.find? (fun e => e.1 == key) with
  | some e => e.2
  | none => 0

/-- Count a key once. -/
def bump (key : String) : Counters → Counters
  | [] => [(key, 1)]
  | (k, n) :: rest => if k == key then (k, n + 1) :: rest else (k, n) :: bump key rest

/-- Count keys, one after the other. -/
def bumpAll (keys : List String) (c : Counters) : Counters :=
  keys.foldl (fun c key => bump key c) c

theorem count_bump (c : Counters) (key k : String) :
    (c.bump key).count k = c.count k + if k = key then 1 else 0 := by
  induction c with
  | nil =>
      by_cases h : key = k
      · subst h; simp [bump, count]
      · simp [bump, count, h, Ne.symm h]
  | cons e rest ih =>
      obtain ⟨name, n⟩ := e
      by_cases h : name = key
      · subst h
        by_cases hk : name = k
        · subst hk; simp [bump, count]
        · simp [bump, count, hk, Ne.symm hk]
      · by_cases hk : name = k
        · subst hk; simp [bump, count, h]
        · simp only [count] at ih
          simp [bump, count, h, hk, ih]

theorem count_bumpAll (keys : List String) (c : Counters) (k : String) :
    (c.bumpAll keys).count k = c.count k + keys.count k := by
  induction keys generalizing c with
  | nil => simp [bumpAll]
  | cons key keys ih =>
      have : bumpAll (key :: keys) c = bumpAll keys (c.bump key) := rfl
      rw [this, ih, count_bump, List.count_cons]
      by_cases h : k = key
      · subst h; simp; omega
      · have : (key == k) = false := by simp [Ne.symm h]
        simp [h, this]

end Counters

end ThreatMarker.Trace
