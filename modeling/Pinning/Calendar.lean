/-!
The proleptic Gregorian calendar. A date is counted in days from the first of January 1970; the
count uses years that begin in March, so that the leap day is the last of its year, and eras of four
hundred years, each of 146097 days.
-/

set_option autoImplicit false
set_option relaxedAutoImplicit false

namespace Pinning

/-- A year, a month from 1 to 12 and a day from 1 on. -/
structure Date where
  year : Int
  month : Nat
  day : Nat
  deriving DecidableEq

namespace Date

def isLeapYear (year : Int) : Bool :=
  year % 4 == 0 && (year % 100 != 0 || year % 400 == 0)

/-- The number of days in a month; no month has the number 0 or one above 12. -/
def daysInMonth (year : Int) (month : Nat) : Nat :=
  if month = 2 then (if isLeapYear year then 29 else 28)
  else if month ∈ [4, 6, 9, 11] then 30
  else if 1 ≤ month ∧ month ≤ 12 then 31
  else 0

def IsValid (d : Date) : Prop :=
  1 ≤ d.month ∧ d.month ≤ 12 ∧ 1 ≤ d.day ∧ d.day ≤ daysInMonth d.year d.month

instance (d : Date) : Decidable d.IsValid := by unfold IsValid; infer_instance

def daysInEra : Int := 146097

def epochOffset : Int := 719468

def toDays (d : Date) : Int :=
  let marchYear : Int := if d.month ≤ 2 then d.year - 1 else d.year
  let monthFromMarch : Int := ((d.month : Int) + 9) % 12
  let era := marchYear / 400
  let yearOfEra := marchYear % 400
  let dayOfYear := (153 * monthFromMarch + 2) / 5 + (d.day : Int) - 1
  let dayOfEra := yearOfEra * 365 + yearOfEra / 4 - yearOfEra / 100 + dayOfYear
  era * daysInEra + dayOfEra - epochOffset

/-- The date a number of days after the first of January 1970. -/
def ofDays (days : Int) : Date :=
  let fromEpoch := days + epochOffset
  let era := fromEpoch / daysInEra
  let dayOfEra := fromEpoch % daysInEra
  let yearOfEra :=
    (dayOfEra - dayOfEra / 1460 + dayOfEra / 36524 - dayOfEra / 146096) / 365
  let dayOfYear := dayOfEra - (365 * yearOfEra + yearOfEra / 4 - yearOfEra / 100)
  let monthFromMarch := (5 * dayOfYear + 2) / 153
  let day := dayOfYear - (153 * monthFromMarch + 2) / 5 + 1
  let month := (monthFromMarch + 2) % 12 + 1
  let year := yearOfEra + era * 400
  { year := if month ≤ 2 then year + 1 else year, month := month.toNat, day := day.toNat }

example : toDays ⟨1970, 1, 1⟩ = 0 := by decide
example : toDays ⟨2000, 2, 29⟩ = 11016 := by decide
example : ofDays 11016 = ⟨2000, 2, 29⟩ := by decide
example : ofDays (-1) = ⟨1969, 12, 31⟩ := by decide
example : ¬ IsValid ⟨1900, 2, 29⟩ ∧ IsValid ⟨2000, 2, 29⟩ := by decide

end Date

end Pinning
