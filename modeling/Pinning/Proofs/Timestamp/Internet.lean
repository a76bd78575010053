import Pinning.Proofs.Calendar
import Pinning.Proofs.Text.Numeral
import Pinning.Timestamp
/-!
The internet date and time format (RFC 3339). Its years have four digits, so the text of an instant
has this format exactly if the instant lies in one of the years 0 to 9999; before and after them the
year has a sign.
-/

set_option autoImplicit false
set_option relaxedAutoImplicit false

namespace Pinning.Timestamp

open Text (isDigit decimalValue padded isDigit_of_mem_padded decimalValue_padded length_padded)

/-- A number of the format: digits that fill their field. -/
def IsField (width : Nat) (cs : List Char) : Prop := cs.length = width ∧ ∀ c ∈ cs, isDigit c = true

/-- Year, month, day, hour, minute and second, each in a field of its own, with their separators.
The date is one of the calendar; the second may be a sixtieth, which is a leap second; `Z` says that
the zone is UTC. -/
def IsDateTime (s : String) : Prop :=
  ∃ year month day hour minute second : List Char,
    s.toList = year ++ '-' :: month ++ '-' :: day ++ 'T' :: hour ++ ':' :: minute ++ ':' :: second
      ++ ['Z']
    ∧ IsField 4 year ∧ (∀ field ∈ [month, day, hour, minute, second], IsField 2 field)
    ∧ Date.IsValid ⟨decimalValue year, decimalValue month, decimalValue day⟩
    ∧ decimalValue hour < 24 ∧ decimalValue minute < 60 ∧ decimalValue second ≤ 60

theorem IsDateTime.isDigit_of_eq_cons {s : String} {c : Char} {rest : List Char} (h : IsDateTime s)
    (hs : s.toList = c :: rest) : isDigit c = true := by
  obtain ⟨year, month, day, hour, minute, second, htext, ⟨hlength, hdigits⟩, -⟩ := h
  rw [hs] at htext
  cases year with
  | nil => cases hlength
  | cons first others =>
    obtain rfl := (List.cons.inj htext).1
    exact hdigits c List.mem_cons_self

theorem isField_padded {width n : Nat} (hpos : 0 < width) (h : n < Nat.pow 10 width) :
    IsField width (padded width n) :=
  ⟨length_padded hpos h, fun _ hc => isDigit_of_mem_padded hc⟩

variable {t : Timestamp}

def year (t : Timestamp) : Int := (Date.ofDays t.day).year

private theorem renderSeconds_eq (t : Timestamp) :
    t.renderSeconds.toList
      = yearText t.year ++ '-' :: padded 2 (Date.ofDays t.day).month ++ '-'
        :: padded 2 (Date.ofDays t.day).day
        ++ 'T' :: padded 2 (t.second / 3600) ++ ':' :: padded 2 (t.second / 60 % 60)
        ++ ':' :: padded 2 (t.second % 60 + t.nano / secondNanos) ++ ['Z'] := by
  rw [renderSeconds, String.toList_ofList, dateTimeText, clockText]
  rfl

private theorem isDateTime_of_year (h : 0 ≤ t.year ∧ t.year ≤ 9999) :
    IsDateTime t.renderSeconds := by
  have hyear : yearText t.year = padded 4 t.year.toNat := if_pos h
  have hsecond : t.second < 86400 := t.second_lt
  have hnano : t.nano / secondNanos < 2 :=
    Nat.div_lt_of_lt_mul (by rw [Nat.mul_comm]; exact t.nano_lt)
  have hvalid := Date.isValid_ofDays t.day
  have hmonth : (Date.ofDays t.day).month ≤ 12 := hvalid.2.1
  have hday : (Date.ofDays t.day).day ≤ 31 := hvalid.2.2.2.trans (Date.daysInMonth_le _ _)
  have htwo : ∀ n, n < 100 → IsField 2 (padded 2 n) := fun n hn => isField_padded (by decide) hn
  refine ⟨_, _, _, _, _, _, hyear ▸ renderSeconds_eq t, ?_, ?_, ?_, ?_, ?_, ?_⟩
  · have hfour : t.year.toNat < 10000 := by omega
    exact isField_padded (by decide) hfour
  · intro field hfield
    simp only [List.mem_cons, List.not_mem_nil, or_false] at hfield
    rcases hfield with rfl | rfl | rfl | rfl | rfl
    all_goals exact htwo _ (by omega)
  · have hwhole : ((t.year.toNat : Nat) : Int) = (Date.ofDays t.day).year := Int.toNat_of_nonneg h.1
    rw [decimalValue_padded, decimalValue_padded, decimalValue_padded, hwhole]
    exact hvalid
  · rw [decimalValue_padded]
    omega
  · rw [decimalValue_padded]
    omega
  · rw [decimalValue_padded]
    omega

private theorem year_of_isDateTime (h : IsDateTime t.renderSeconds) :
    0 ≤ t.year ∧ t.year ≤ 9999 := by
  by_contra hnot
  have htext := renderSeconds_eq t
  rw [yearText, if_neg hnot] at htext
  -- The text begins with a sign instead of a digit.
  have hdigit := h.isDigit_of_eq_cons htext
  split at hdigit
  · exact absurd hdigit (by decide)
  · exact absurd hdigit (by decide)

theorem isDateTime_renderSeconds_iff (t : Timestamp) :
    IsDateTime t.renderSeconds ↔ 0 ≤ t.year ∧ t.year ≤ 9999 :=
  ⟨year_of_isDateTime, isDateTime_of_year⟩

theorem isDateTime_renderSeconds_iff_toUnix (t : Timestamp) :
    IsDateTime t.renderSeconds ↔ -62167219200 ≤ t.toUnix ∧ t.toUnix < 253402300800 := by
  have hfirst := Date.year_ofDays_lt_iff t.day 0
  have hlast := Date.year_ofDays_lt_iff t.day 10000
  have hzero : (Date.newYear 0).toDays = -719528 := by decide
  have htenThousand : (Date.newYear 10000).toDays = 2932897 := by decide
  have hsecond : t.second < 86400 := t.second_lt
  rw [hzero] at hfirst
  rw [htenThousand] at hlast
  rw [isDateTime_renderSeconds_iff, year, toUnix, daySeconds]
  omega

end Pinning.Timestamp
