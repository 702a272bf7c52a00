import ThreatMarker.Batch.Output
/-
# The moment of a clock

A clock counts seconds from the beginning of 1970.  The date is found by counting days from the first of
March of the year 0, so that a leap day is the last day of its year.
-/

namespace ThreatMarker.Batch.Stamp

set_option autoImplicit false

def secondsPerDay : Nat := 86400

/-- Days from the first of March of the year 0 to the beginning of 1970. -/
def daysToEpoch : Nat := 719468

/-- Days in four hundred years. -/
def daysPerEra : Nat := 146097

/-- The moment that is that many seconds after the beginning of 1970. -/
def ofSeconds (seconds : Nat) : Stamp :=
  let days := seconds / secondsPerDay + daysToEpoch
  let rest := seconds % secondsPerDay
  let dayOfEra := days % daysPerEra
  let yearOfEra :=
    (dayOfEra - dayOfEra / 1460 + dayOfEra / 36524 - dayOfEra / 146096) / 365
  let dayOfYear := dayOfEra - (365 * yearOfEra + yearOfEra / 4 - yearOfEra / 100)
  let monthFromMarch := (5 * dayOfYear + 2) / 153
  let month := if monthFromMarch < 10 then monthFromMarch + 3 else monthFromMarch - 9
  let year := yearOfEra + 400 * (days / daysPerEra) + if month ≤ 2 then 1 else 0
  { year := year
    month := month
    day := dayOfYear - (153 * monthFromMarch + 2) / 5 + 1
    hour := rest / 3600
    minute := rest % 3600 / 60
    second := rest % 60 }

example : (ofSeconds 0).text = "19700101000000" := by decide +kernel

example : (ofSeconds 951868799).text = "20000229235959" := by decide +kernel

example : (ofSeconds 1728568536).text = "20241010135536" := by decide +kernel

end ThreatMarker.Batch.Stamp
