import Mathlib.Logic.Function.Iterate
import Mathlib.Order.Lattice
import Pinning.Proofs.Calendar
/-!
Counting days one by one. The rule for the day after a date knows the lengths of the months and
nothing of day numbers; a day number is how often the rule is applied, so the date of a number is
the one that the rule leads to.
-/

set_option autoImplicit false
set_option relaxedAutoImplicit false

namespace Pinning.Date

/-- The day after a date: in the same month, or the first of the next month or of the next year. -/
def next (d : Date) : Date :=
  if d.day < daysInMonth d.year d.month then { d with day := d.day + 1 }
  else if d.month < 12 then ⟨d.year, d.month + 1, 1⟩
  else newYear (d.year + 1)

def monthDays (year : Int) (month : Nat) : Int := toDays ⟨year, month, 1⟩

theorem toDays_eq (d : Date) : d.toDays = monthDays d.year d.month + d.day - 1 := by
  simp only [toDays, monthDays]
  omega

theorem daysInMonth_february (year : Int) :
    (daysInMonth year 2 : Int)
      = 28 + (year / 4 - year / 100 + year / 400)
        - ((year - 1) / 4 - (year - 1) / 100 + (year - 1) / 400) := by
  have hleap : isLeapYear year = true ↔ year % 4 = 0 ∧ (year % 100 ≠ 0 ∨ year % 400 = 0) := by
    simp [isLeapYear]
  by_cases h : isLeapYear year = true
  · have hlength : daysInMonth year 2 = 29 := by simp [daysInMonth, h]
    have hyear := hleap.1 h
    rw [hlength]
    omega
  · have hlength : daysInMonth year 2 = 28 := by simp [daysInMonth, h]
    have hyear := mt hleap.2 h
    rw [hlength]
    omega

theorem monthDays_succ {year : Int} {month : Nat} (hfirst : 1 ≤ month) (hlast : month < 12) :
    monthDays year (month + 1) = monthDays year month + daysInMonth year month := by
  by_cases hfebruary : month = 2
  · subst hfebruary
    have hdays := daysInMonth_february year
    simp only [monthDays, toDays, daysInEra, epochOffset, Nat.reduceAdd, Nat.reduceLeDiff,
      Std.le_refl, if_true, if_false, Nat.cast_ofNat, Nat.cast_one]
    omega
  · interval_cases month
    all_goals simp [monthDays, toDays, daysInMonth, daysInEra, epochOffset] at hfebruary ⊢
    all_goals omega

theorem monthDays_newYear (year : Int) : monthDays (year + 1) 1 = monthDays year 12 + 31 := by
  simp only [monthDays, toDays, daysInEra, epochOffset, Nat.reduceLeDiff, if_true, if_false,
    Nat.cast_ofNat, Nat.cast_one]
  omega

theorem monthDays_lt {year : Int} {month later : Nat} (hfirst : 1 ≤ month) (hlt : month < later)
    (hlast : later ≤ 12) :
    monthDays year month + daysInMonth year month ≤ monthDays year later := by
  induction later, hlt using Nat.le_induction with
  | base => exact (monthDays_succ hfirst hlast).ge
  | succ later hle ih =>
    have hbefore := ih (by omega)
    have hstep : monthDays year (later + 1) = monthDays year later + daysInMonth year later :=
      monthDays_succ (by omega) hlast
    omega

theorem daysInMonth_pos {year : Int} {month : Nat} (hfirst : 1 ≤ month) (hlast : month ≤ 12) :
    1 ≤ daysInMonth year month := by
  rw [daysInMonth]
  split_ifs <;> omega

theorem IsValid.next {d : Date} (h : d.IsValid) : d.next.IsValid := by
  obtain ⟨hfirst, hlast, hday, hlength⟩ := h
  rw [Date.next]
  split
  · next hmore => exact ⟨hfirst, hlast, Nat.le_add_left 1 _, hmore⟩
  · split
    · next hmonth =>
        exact ⟨Nat.le_add_left 1 _, hmonth, le_rfl, daysInMonth_pos (Nat.le_add_left 1 _) hmonth⟩
    · have hlast : 1 ≤ 12 := by decide
      exact ⟨le_rfl, hlast, le_rfl, daysInMonth_pos le_rfl hlast⟩

theorem IsValid.toDays_next {d : Date} (h : d.IsValid) : d.next.toDays = d.toDays + 1 := by
  obtain ⟨hfirst, hlast, hday, hlength⟩ := h
  rw [Date.next]
  split
  · rw [toDays_eq, toDays_eq d]
    simp only [Nat.cast_add, Nat.cast_one]
    omega
  · next hend =>
    have hfull : d.day = daysInMonth d.year d.month := by omega
    split
    · next hmonth =>
      rw [toDays_eq, toDays_eq d, monthDays_succ hfirst hmonth, hfull]
      simp only [Nat.cast_one]
      omega
    · next hmonth =>
      have hdecember : d.month = 12 := by omega
      have hlong : daysInMonth d.year 12 = 31 := rfl
      rw [hdecember, hlong] at hfull
      rw [toDays_eq, toDays_eq d, newYear, monthDays_newYear, hdecember, hfull]
      simp only [Nat.cast_one]
      omega

theorem IsValid.toDays_lt_of_year {d e : Date} (hd : d.IsValid) (he : e.IsValid)
    (h : d.year < e.year) :
    d.toDays < e.toDays := by
  have hbehind := hd.toDays_mem.2
  have hle : (newYear (d.year + 1)).toDays ≤ (newYear e.year).toDays := toDays_newYear_le h
  have hbefore := he.toDays_mem.1
  omega

theorem IsValid.toDays_lt_of_month {d e : Date} (hd : d.IsValid) (he : e.IsValid)
    (hyear : d.year = e.year) (h : d.month < e.month) : d.toDays < e.toDays := by
  obtain ⟨hfirst, -, -, hlength⟩ := hd
  obtain ⟨-, hlast, hday, -⟩ := he
  have hmonth : monthDays e.year d.month + daysInMonth e.year d.month ≤ monthDays e.year e.month :=
    monthDays_lt hfirst h hlast
  rw [toDays_eq, toDays_eq e, hyear]
  rw [hyear] at hlength
  omega

theorem IsValid.toDays_inj {d e : Date} (hd : d.IsValid) (he : e.IsValid)
    (h : d.toDays = e.toDays) : d = e := by
  have hyear : d.year = e.year := by
    by_contra hne
    rcases lt_or_gt_of_ne hne with hlt | hlt
    · exact (hd.toDays_lt_of_year he hlt).ne h
    · exact (he.toDays_lt_of_year hd hlt).ne h.symm
  have hmonth : d.month = e.month := by
    by_contra hne
    rcases lt_or_gt_of_ne hne with hlt | hlt
    · exact (hd.toDays_lt_of_month he hyear hlt).ne h
    · exact (he.toDays_lt_of_month hd hyear.symm hlt).ne h.symm
  have hday : d.day = e.day := by
    rw [toDays_eq, toDays_eq e, hyear, hmonth] at h
    omega
  cases d
  cases e
  simp_all

theorem ofDays_succ (days : Int) : ofDays (days + 1) = (ofDays days).next := by
  have hvalid := isValid_ofDays days
  apply (isValid_ofDays (days + 1)).toDays_inj hvalid.next
  rw [hvalid.toDays_next, toDays_ofDays, toDays_ofDays]

theorem ofDays_eq_iterate (days : Nat) : ofDays days = next^[days] (newYear 1970) := by
  induction days with
  | zero => decide
  | succ days ih =>
    rw [Function.iterate_succ_apply', ← ih, ← ofDays_succ]
    rfl

end Pinning.Date
