/-!
# The Gregorian calendar

Days are counted from the first of January 1970, before it with negative numbers, and the calendar
is extended back unchanged. Years are reckoned from March so that the leap day comes last.
-/

namespace CatalogDelta.Calendar

def isLeap (year : Int) : Bool := year % 4 = 0 && (year % 100 ≠ 0 || year % 400 = 0)

def daysInMonth (year : Int) (month : Nat) : Nat :=
  if month = 2 then (if isLeap year then 29 else 28)
  else if month = 4 ∨ month = 6 ∨ month = 9 ∨ month = 11 then 30
  else 31

def dayNumber (year : Int) (month day : Nat) : Int :=
  let marchYear := if month ≤ 2 then year - 1 else year
  let era := marchYear.fdiv 400
  let yearOfEra := marchYear - era * 400
  let monthFromMarch : Int := (month + 9) % 12
  let dayOfYear := (153 * monthFromMarch + 2) / 5 + day - 1
  let dayOfEra := yearOfEra * 365 + yearOfEra / 4 - yearOfEra / 100 + dayOfYear
  era * 146097 + dayOfEra - 719468

def dateOf (dayNumber : Int) : Int × Nat × Nat :=
  let shifted := dayNumber + 719468
  let era := shifted.fdiv 146097
  let dayOfEra := shifted - era * 146097
  let yearOfEra := (dayOfEra - dayOfEra / 1460 + dayOfEra / 36524 - dayOfEra / 146096) / 365
  let dayOfYear := dayOfEra - (365 * yearOfEra + yearOfEra / 4 - yearOfEra / 100)
  let monthFromMarch := (5 * dayOfYear + 2) / 153
  let day := (dayOfYear - (153 * monthFromMarch + 2) / 5 + 1).toNat
  let month := (if monthFromMarch < 10 then monthFromMarch + 3 else monthFromMarch - 9).toNat
  let year := yearOfEra + era * 400 + (if month ≤ 2 then 1 else 0)
  (year, month, day)

/-- The weekday of a day number, Monday being zero. -/
def weekday (dayNumber : Int) : Int := (dayNumber + 3) % 7

/-- The day number of the Monday that begins the first week of a year: the week of its first
Thursday. -/
def firstMonday (year : Int) : Int :=
  let newYear := dayNumber year 1 1
  let monday := newYear - weekday newYear
  if weekday newYear > 3 then monday + 7 else monday

def weeksIn (year : Int) : Int := (firstMonday (year + 1) - firstMonday year) / 7

def dateOfWeek? (year week day : Int) : Option (Int × Nat × Nat) :=
  if 1 ≤ year ∧ year ≤ 9999 ∧ 1 ≤ week ∧ week ≤ weeksIn year ∧ 1 ≤ day ∧ day ≤ 7 then
    some (dateOf (firstMonday year + (week - 1) * 7 + day - 1))
  else none

end CatalogDelta.Calendar
