import Mathlib.Tactic.IntervalCases
import Mathlib.Tactic.SplitIfs
import Pinning.Calendar
/-!
Counting days. The date of a day number exists and is counted back to the same number. An era is
made of centuries, a century of spans of four years, and the last year of a span and of an era may
have one day more; all the divisions of the conversion follow from where in this division a day
stands.
-/

set_option autoImplicit false
set_option relaxedAutoImplicit false

namespace Pinning.Date

def yearOfEra (dayOfEra : Int) : Int :=
  (dayOfEra - dayOfEra / 1460 + dayOfEra / 36524 - dayOfEra / 146096) / 365

def yearStart (yearOfEra : Int) : Int := 365 * yearOfEra + yearOfEra / 4 - yearOfEra / 100

def monthStart (monthFromMarch : Int) : Int := (153 * monthFromMarch + 2) / 5

def monthOfYear (dayOfYear : Int) : Int := (5 * dayOfYear + 2) / 153

section Era

private theorem yearOfEra_eq {day century span rest : Int} (hcentury : 0 ≤ century ∧ century < 4)
    (hspan : 0 ≤ span ∧ span < 25) (hrest : 0 ≤ rest ∧ rest < 1461)
    (hlast : span = 24 → rest < 1460) (h : day = 36524 * century + 1461 * span + rest) :
    yearOfEra day = 100 * century + 4 * span + min 3 (rest / 365) := by
  have hera : day / 146096 = 0 := by omega
  have hcenturies : day / 36524 = century := by omega
  have hspans : day / 1460
      = 25 * century + span + if 1460 ≤ rest + 24 * century + span then 1 else 0 := by
    split <;> omega
  rw [yearOfEra, hera, hcenturies, hspans]
  split <;> omega

theorem dayOfYear_spec {day : Int} (h : 0 ≤ day ∧ day < daysInEra) :
    (0 ≤ yearOfEra day ∧ yearOfEra day < 400) ∧ 0 ≤ day - yearStart (yearOfEra day)
      ∧ day - yearStart (yearOfEra day) ≤ 365
      ∧ (day - yearStart (yearOfEra day) = 365 → isLeapYear (yearOfEra day + 1) = true) := by
  simp only [daysInEra] at h
  by_cases hend : day = 146096
  · subst hend
    decide
  · have hyear : yearOfEra day
        = 100 * (day / 36524) + 4 * (day % 36524 / 1461) + min 3 (day % 36524 % 1461 / 365) :=
      yearOfEra_eq (by omega) (by omega) (by omega) (by omega) (by omega)
    generalize hcentury : day / 36524 = century at hyear
    generalize hspan : day % 36524 / 1461 = span at hyear
    generalize hrest : day % 36524 % 1461 = rest at hyear
    have hday : day = 36524 * century + 1461 * span + rest := by omega
    have hstart : yearStart (yearOfEra day)
        = 36524 * century + 1461 * span + 365 * min 3 (rest / 365) := by
      have hfours : yearOfEra day / 4 = 25 * century + span := by omega
      have hhundreds : yearOfEra day / 100 = century := by omega
      rw [yearStart, hfours, hhundreds, hyear]
      omega
    refine ⟨by omega, by omega, by omega, fun hlong => ?_⟩
    have hfour : (yearOfEra day + 1) % 4 = 0 := by omega
    have hcenturyEnd : (yearOfEra day + 1) % 100 ≠ 0 := by omega
    simp [isLeapYear, hfour, hcenturyEnd]

end Era

section Years

theorem daysInMonth_le (year : Int) (month : Nat) : daysInMonth year month ≤ 31 := by
  rw [daysInMonth]
  split_ifs <;> decide

theorem isLeapYear_add (year era : Int) : isLeapYear (era * 400 + year) = isLeapYear year := by
  have hfour : (era * 400 + year) % 4 = year % 4 := by omega
  have hhundred : (era * 400 + year) % 100 = year % 100 := by omega
  have hfourHundred : (era * 400 + year) % 400 = year % 400 := by omega
  rw [isLeapYear, isLeapYear, hfour, hhundred, hfourHundred]

end Years

/-- A date by its era, the year, month and day in it, all counted from the first of March. -/
structure Place where
  era : Int
  year : Int
  month : Int
  day : Int
  year_mem : 0 ≤ year ∧ year < 400
  month_mem : 0 ≤ month ∧ month < 12
  day_nonneg : 0 ≤ day
  /-- No month goes on behind the beginning of the next one. -/
  day_lt : month < 11 → monthStart month + day < monthStart (month + 1)
  leap : month = 11 → monthStart 11 + day ≤ if isLeapYear (year + 1) then 365 else 364

namespace Place

def date (p : Place) : Date where
  year := if p.month < 10 then p.era * 400 + p.year else p.era * 400 + p.year + 1
  month := if p.month < 10 then (p.month + 3).toNat else (p.month - 9).toNat
  day := (p.day + 1).toNat

def days (p : Place) : Int :=
  p.era * daysInEra + (yearStart p.year + (monthStart p.month + p.day)) - epochOffset

theorem toDays_date (p : Place) : p.date.toDays = p.days := by
  have hyear := p.year_mem
  have hmonth := p.month_mem
  have hday := p.day_nonneg
  have hmarch : (if p.date.month ≤ 2 then p.date.year - 1 else p.date.year)
      = p.era * 400 + p.year := by
    by_cases hlate : p.month < 10 <;> simp only [date, hlate, if_true, if_false] <;> split <;> omega
  have hfromMarch : ((p.date.month : Int) + 9) % 12 = p.month := by
    by_cases hlate : p.month < 10 <;> simp only [date, hlate, if_true, if_false] <;> omega
  have hera : (p.era * 400 + p.year) / 400 = p.era := by omega
  have hofEra : (p.era * 400 + p.year) % 400 = p.year := by omega
  have hdate : (p.date.day : Int) = p.day + 1 := by
    simp only [date]
    omega
  rw [toDays, hmarch, hfromMarch, hera, hofEra, hdate, days, yearStart, monthStart]
  omega

theorem isValid_date (p : Place) : p.date.IsValid := by
  obtain ⟨era, year, month, day, -, hmonth, hday, hlt, hleap⟩ := p
  obtain ⟨hfirst, hlast⟩ := hmonth
  have hyears := isLeapYear_add (year + 1) era
  rw [← add_assoc] at hyears
  -- the lengths of the months are the differences of their beginnings, up to the leap day
  interval_cases month
  all_goals simp [date, IsValid, daysInMonth, monthStart, hyears] at hlt hleap ⊢
  case «11» =>
    split at hleap <;> simp_all <;> omega
  all_goals omega

end Place

theorem exists_place (days : Int) : ∃ p : Place, p.days = days ∧ p.date = ofDays days := by
  have hrange : 0 ≤ (days + epochOffset) % daysInEra
      ∧ (days + epochOffset) % daysInEra < daysInEra := by
    simp only [daysInEra]
    omega
  obtain ⟨hyear, hday, hlong, hleap⟩ := dayOfYear_spec hrange
  generalize hofEra : (days + epochOffset) % daysInEra = dayOfEra at hyear hday hlong hleap
  generalize hofYear : dayOfEra - yearStart (yearOfEra dayOfEra) = dayOfYear at hday hlong hleap
  let place : Place := {
    era := (days + epochOffset) / daysInEra
    year := yearOfEra dayOfEra
    month := monthOfYear dayOfYear
    day := dayOfYear - monthStart (monthOfYear dayOfYear)
    year_mem := hyear
    month_mem := by rw [monthOfYear]; omega
    day_nonneg := by rw [monthStart, monthOfYear]; omega
    day_lt := by rw [monthStart, monthStart, monthOfYear]; omega
    leap := by
      intro hmonth
      rw [hmonth]
      split
      · omega
      · next hcommon =>
        have hshort : dayOfYear ≠ 365 := fun hday => hcommon (hleap hday)
        omega }
  refine ⟨place, ?_, ?_⟩
  · simp only [place, Place.days, daysInEra] at hofEra ⊢
    omega
  · have hmonth : 0 ≤ monthOfYear dayOfYear ∧ monthOfYear dayOfYear < 12 := place.month_mem
    rw [yearStart] at hofYear
    simp only [place, Place.date, ofDays, hofEra]
    rw [← yearOfEra, hofYear, ← monthOfYear, ← monthStart]
    by_cases hlate : monthOfYear dayOfYear < 10
    · have hjanuary : (monthOfYear dayOfYear + 2) % 12 + 1 = monthOfYear dayOfYear + 3 := by omega
      rw [if_pos hlate, if_pos hlate, hjanuary, if_neg (by omega),
        Int.add_comm (yearOfEra dayOfEra)]
    · have hjanuary : (monthOfYear dayOfYear + 2) % 12 + 1 = monthOfYear dayOfYear - 9 := by omega
      rw [if_neg hlate, if_neg hlate, hjanuary, if_pos (by omega),
        Int.add_comm (yearOfEra dayOfEra)]

theorem toDays_ofDays (days : Int) : (ofDays days).toDays = days := by
  obtain ⟨p, hdays, hdate⟩ := exists_place days
  rw [← hdate, p.toDays_date, hdays]

theorem isValid_ofDays (days : Int) : (ofDays days).IsValid := by
  obtain ⟨p, -, hdate⟩ := exists_place days
  exact hdate ▸ p.isValid_date

section NewYear

def newYear (year : Int) : Date := ⟨year, 1, 1⟩

theorem toDays_newYear (year : Int) :
    (newYear year).toDays
      = 365 * (year - 1) + (year - 1) / 4 - (year - 1) / 100 + (year - 1) / 400 - 719162 := by
  simp only [newYear, toDays, daysInEra, epochOffset]
  omega

theorem toDays_newYear_le {first second : Int} (h : first ≤ second) :
    (newYear first).toDays ≤ (newYear second).toDays := by
  rw [toDays_newYear, toDays_newYear]
  omega

theorem IsValid.toDays_mem {d : Date} (h : d.IsValid) :
    (newYear d.year).toDays ≤ d.toDays ∧ d.toDays < (newYear (d.year + 1)).toDays := by
  obtain ⟨year, month, day⟩ := d
  obtain ⟨hfirst, hlast, hday, hlength⟩ := h
  have hshort : day ≤ 31 := hlength.trans (daysInMonth_le year month)
  simp only at hfirst hlast hday
  rw [toDays_newYear, toDays_newYear]
  simp only [toDays, daysInEra, epochOffset]
  split
  · omega
  · omega

theorem year_ofDays_lt_iff (days year : Int) :
    (ofDays days).year < year ↔ days < (newYear year).toDays := by
  obtain ⟨hfirst, hlast⟩ := (isValid_ofDays days).toDays_mem
  rw [toDays_ofDays] at hfirst hlast
  constructor
  · intro hbefore
    have hnext : (newYear ((ofDays days).year + 1)).toDays ≤ (newYear year).toDays :=
      toDays_newYear_le (by omega)
    omega
  · intro hbefore
    by_contra hnot
    have hown : (newYear year).toDays ≤ (newYear (ofDays days).year).toDays :=
      toDays_newYear_le (by omega)
    omega

end NewYear

end Pinning.Date
