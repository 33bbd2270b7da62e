import StorageLedger.Text.Digit

namespace StorageLedger.Calendar
open StorageLedger.Text

/-- Every fourth year is a leap year, but of the full centuries only every fourth. -/
def isLeap (year : Nat) : Bool := year % 4 == 0 && (year % 100 != 0 || year % 400 == 0)

def yearLength (year : Nat) : Nat := if isLeap year then 366 else 365

def monthLength (year month : Nat) : Nat :=
  if month = 2 then (if isLeap year then 29 else 28)
  else if month = 4 ∨ month = 6 ∨ month = 9 ∨ month = 11 then 30
  else if 1 ≤ month ∧ month ≤ 12 then 31
  else 0

theorem yearLength_pos (year : Nat) : 0 < yearLength year := by
  unfold yearLength
  split <;> omega

structure Date where
  year : Nat
  /-- The month, from one. -/
  month : Nat
  /-- The day of the month, from one. -/
  day : Nat
  year_le : year ≤ 9999
  day_pos : 1 ≤ day
  day_le : day ≤ monthLength year month
deriving DecidableEq, Repr

theorem Date.month_bounds (d : Date) : 1 ≤ d.month ∧ d.month ≤ 12 := by
  have hpos := d.day_pos
  have hle := d.day_le
  unfold monthLength at hle
  split at hle
  · omega
  · split at hle
    · omega
    · split at hle
      · assumption
      · omega

def Date.ofParts? (year month day : Nat) : Option Date :=
  if h : year ≤ 9999 ∧ 1 ≤ day ∧ day ≤ monthLength year month then
    some ⟨year, month, day, h.1, h.2.1, h.2.2⟩
  else none

/-- A day count from the start of a year, as a year and a day count in it. -/
def splitYears (year days : Nat) : Nat × Nat :=
  if days < yearLength year then (year, days)
  else splitYears (year + 1) (days - yearLength year)
termination_by days
decreasing_by have := yearLength_pos year; omega

def splitMonths (year month days : Nat) : Nat × Nat :=
  if days < monthLength year month then (month, days)
  else if monthLength year month = 0 then (month, days)
  else splitMonths year (month + 1) (days - monthLength year month)
termination_by days
decreasing_by omega

/-- The number of days from the start of year 0 to the start of year 10000. -/
def dayLimit : Nat := 3652425

/-- The date that lies a number of days after the first of January of year 0. -/
def Date.ofDayCount? (days : Nat) : Option Date :=
  if days < dayLimit then
    let (year, days) := splitYears 0 days
    let (month, days) := splitMonths year 1 days
    Date.ofParts? year month (days + 1)
  else none

/-- The text of a date: four, two and two digits with hyphens. -/
def Date.text (d : Date) : List Char :=
  paddedDigits 4 d.year ++ '-' :: paddedDigits 2 d.month ++ '-' :: paddedDigits 2 d.day

end StorageLedger.Calendar
