import Pinning.Proofs.Timestamp.Reader
/-!
Moments, among which a leap second may follow any second. They are written as instants are, but a
text says nothing of a leap second within a minute: it denotes the next second. The instants are the
moments that are read back from their texts.
-/

set_option autoImplicit false
set_option relaxedAutoImplicit false

namespace Pinning

open Timestamp in
/-- A day, a second of the day and nanoseconds, which go on from 10^9 inside a leap second. -/
structure Moment where
  day : Int
  second : Nat
  nano : Nat
  firstDay_le : firstDay ≤ day
  le_lastDay : day ≤ lastDay
  second_lt : second < daySeconds
  nano_lt : nano < 2 * secondNanos

def Timestamp.toMoment (t : Timestamp) : Moment :=
  ⟨t.day, t.second, t.nano, t.firstDay_le, t.le_lastDay, t.second_lt, t.nano_lt⟩

namespace Moment

open Timestamp

def render (m : Moment) : String :=
  String.ofList (clockText m.day m.second m.nano ++ fractionText m.nano ++ ['Z'])

theorem render_toMoment (t : Timestamp) : t.toMoment.render = t.render := rfl

/-- The moment lies in no leap second but one after the last second of a minute. -/
def IsRegular (m : Moment) : Prop := secondNanos ≤ m.nano → m.second % 60 = 59

instance (m : Moment) : Decidable m.IsRegular :=
  inferInstanceAs (Decidable (secondNanos ≤ m.nano → m.second % 60 = 59))

theorem isRegular_toMoment (t : Timestamp) : t.toMoment.IsRegular := t.leap

variable {m : Moment}

theorem succ_second_lt (h : ¬m.IsRegular) : m.second + 1 < daySeconds := by
  have hsecond := m.second_lt
  simp only [IsRegular, Classical.not_imp] at h
  simp only [daySeconds] at hsecond ⊢
  omega

theorem nano_sub_lt (m : Moment) : m.nano - secondNanos < secondNanos := by
  have hnano := m.nano_lt
  simp only [secondNanos] at hnano ⊢
  omega

theorem nano_sub_lt_two (m : Moment) : m.nano - secondNanos < 2 * secondNanos := by
  have hnano := m.nano_sub_lt
  omega

theorem not_le_nano_sub (m : Moment) : ¬secondNanos ≤ m.nano - secondNanos :=
  Nat.not_le.mpr m.nano_sub_lt

/-- The instant that is read from the text of a moment. -/
def toInstant (m : Moment) : Timestamp :=
  if h : m.IsRegular then
    ⟨m.day, m.second, m.nano, m.firstDay_le, m.le_lastDay, m.second_lt, m.nano_lt, h⟩
  else
    ⟨m.day, m.second + 1, m.nano - secondNanos, m.firstDay_le, m.le_lastDay, succ_second_lt h,
      m.nano_sub_lt_two, fun hleap => absurd hleap m.not_le_nano_sub⟩

private theorem fractionText_congr {nano other : Nat}
    (h : nano % secondNanos = other % secondNanos) :
    fractionText nano = fractionText other := by
  simp only [fractionText]
  rw [h]

private theorem render_toInstant_of_not_isRegular (h : ¬m.IsRegular) :
    m.toInstant.render = m.render := by
  have hnano := m.nano_lt
  have hlate := h
  simp only [IsRegular, Classical.not_imp, secondNanos] at hlate hnano
  have hhour : (m.second + 1) / 3600 = m.second / 3600 := by omega
  have hminute : (m.second + 1) / 60 % 60 = m.second / 60 % 60 := by omega
  have hofMinute : (m.second + 1) % 60 + (m.nano - 1000000000) / 1000000000
      = m.second % 60 + m.nano / 1000000000 := by omega
  have hclock : clockText m.day (m.second + 1) (m.nano - secondNanos)
      = clockText m.day m.second m.nano := by
    simp only [clockText, secondNanos, hhour, hminute, hofMinute]
  have hfraction : fractionText (m.nano - secondNanos) = fractionText m.nano := by
    refine fractionText_congr ?_
    simp only [secondNanos]
    omega
  rw [toInstant, dif_neg h, Timestamp.render, dateTimeText, render, hclock, hfraction]

theorem render_toInstant (m : Moment) : m.toInstant.render = m.render := by
  by_cases h : m.IsRegular
  · rw [toInstant, dif_pos h]
    rfl
  · exact render_toInstant_of_not_isRegular h

theorem parse?_render (m : Moment) : parse? m.render = some m.toInstant := by
  rw [← render_toInstant]
  exact m.toInstant.parse?_render

theorem toMoment_toInstant_iff : m.toInstant.toMoment = m ↔ m.IsRegular := by
  constructor
  · intro h
    rw [← h]
    exact isRegular_toMoment _
  · intro h
    rw [toInstant, dif_pos h]
    rfl

theorem readBack_iff (m : Moment) :
    (∃ t, parse? m.render = some t ∧ t.toMoment = m) ↔ m.IsRegular := by
  simp only [parse?_render, Option.some.injEq, exists_eq_left', toMoment_toInstant_iff]

end Moment

end Pinning
