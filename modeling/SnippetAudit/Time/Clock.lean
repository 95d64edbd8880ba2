import SnippetAudit.Time.Instant

/-!
# Seconds since 1970

Clocks count seconds from the first of January 1970. The calendar repeats after 400 years, which are 146097 days; years
are counted from March here, so that the leap day is the last one of a year.
-/

namespace SnippetAudit

/-- The date some days after the first of January 1970. -/
def Date.ofDays (days : Int) : Date :=
  let shifted := days + 719468
  let era := shifted / 146097
  let day := (shifted % 146097).toNat
  let year := (day - day / 1460 + day / 36524 - day / 146096) / 365
  let dayOfYear := day - (365 * year + year / 4 - year / 100)
  let fromMarch := (5 * dayOfYear + 2) / 153
  let month := if fromMarch < 10 then fromMarch + 3 else fromMarch - 9
  { year := era * 400 + year + (if month ≤ 2 then 1 else 0)
    month := month
    day := dayOfYear - (153 * fromMarch + 2) / 5 + 1 }

/-- The instant some seconds after the first of January 1970. -/
def Instant.ofSeconds (seconds : Int) (nano : Nat) : Instant :=
  let ofDay := (seconds % 86400).toNat
  ⟨.ofDays (seconds / 86400), ofDay / 3600, ofDay / 60 % 60, ofDay % 60, nano⟩

end SnippetAudit
