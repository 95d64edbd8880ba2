/-!
# Instants

A point in time as its date and time of day in UTC, to the nanosecond. A second may be the sixtieth, after which the
minute ends late. Moving an instant by an offset of less than a day changes the date by at most one day, so no day
count is needed.
-/

namespace SnippetAudit

structure Date where
  year : Int
  month : Nat
  day : Nat
  deriving DecidableEq, Repr

namespace Date

def isLeap (year : Int) : Bool := year % 4 == 0 && (year % 100 != 0 || year % 400 == 0)

/-- The days of a month. -/
def daysIn (year : Int) (month : Nat) : Nat :=
  if month = 2 then (if isLeap year then 29 else 28)
  else if month = 4 ∨ month = 6 ∨ month = 9 ∨ month = 11 then 30
  else 31

/-- The first and the last year that are kept. -/
def firstYear : Int := -262143

def lastYear : Int := 262142

def isValid (d : Date) : Bool :=
  firstYear ≤ d.year && d.year ≤ lastYear && 1 ≤ d.month && d.month ≤ 12 && 1 ≤ d.day &&
    d.day ≤ daysIn d.year d.month

def next (d : Date) : Date :=
  if d.day < daysIn d.year d.month then { d with day := d.day + 1 }
  else if d.month < 12 then ⟨d.year, d.month + 1, 1⟩
  else ⟨d.year + 1, 1, 1⟩

def previous (d : Date) : Date :=
  if 1 < d.day then { d with day := d.day - 1 }
  else if 1 < d.month then ⟨d.year, d.month - 1, daysIn d.year (d.month - 1)⟩
  else ⟨d.year - 1, 12, 31⟩

end Date

structure Instant where
  date : Date
  hour : Nat
  minute : Nat
  /-- From 0 to 60. -/
  second : Nat
  nano : Nat
  deriving DecidableEq, Repr

namespace Instant

def isValid (t : Instant) : Bool :=
  t.date.isValid && t.hour < 24 && t.minute < 60 && t.second ≤ 60 && t.nano < 1000000000

/-- The instant some minutes earlier, by less than a day either way. -/
def minus (t : Instant) (minutes : Int) : Instant :=
  let m : Int := 60 * t.hour + t.minute - minutes
  let (date, m) :=
    if m < 0 then (t.date.previous, m + 1440)
    else if 1440 ≤ m then (t.date.next, m - 1440)
    else (t.date, m)
  { t with date, hour := m.toNat / 60, minute := m.toNat % 60 }

end Instant
end SnippetAudit
