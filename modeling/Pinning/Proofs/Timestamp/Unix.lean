import Pinning.Proofs.Calendar.Succession
import Pinning.Proofs.Timestamp.Reader
import Pinning.Search.Codec
/-!
Seconds since 1970 as texts. A positive number of seconds has a text as long as there is an instant
for it, and the text is read back as that instant: no second is lost or shifted, and no two share a
text.
-/

set_option autoImplicit false
set_option relaxedAutoImplicit false

namespace Pinning.Timestamp

/-- The last second that there is an instant for, at the end of the year 262142. -/
def lastSecond : Int := 8210266876799

theorem lastSecond_eq : lastSecond = lastDay * daySeconds + (daySeconds - 1) := by decide

theorem toUnix_le_lastSecond (t : Timestamp) : t.toUnix ≤ lastSecond := by
  have hday : t.day ≤ lastDay := t.le_lastDay
  have hsecond : t.second < 86400 := t.second_lt
  rw [lastSecond_eq, toUnix, daySeconds]
  omega

theorem exists_toUnix_eq {seconds : Int} (hpos : 0 < seconds) (hlast : seconds ≤ lastSecond) :
    ∃ t : Timestamp, t.toUnix = seconds ∧ t.nano = 0 := by
  rw [lastSecond_eq, daySeconds] at hlast
  have hfirstDay : firstDay ≤ 0 := by decide
  let t : Timestamp := {
    day := seconds / 86400
    second := (seconds % 86400).toNat
    nano := 0
    firstDay_le := by omega
    le_lastDay := by omega
    second_lt := by rw [daySeconds]; omega
    nano_lt := by decide
    leap := fun hleap => absurd hleap (by decide) }
  refine ⟨t, ?_, rfl⟩
  show seconds / 86400 * 86400 + ((seconds % 86400).toNat : Int) = seconds
  omega

theorem unixText?_eq_some_iff {seconds : Int} {text : String} :
    unixText? seconds = some text
      ↔ 0 < seconds ∧ ∃ t : Timestamp, t.toUnix = seconds ∧ t.nano = 0
        ∧ text = t.renderSeconds := by
  rw [unixText?]
  split
  · next hnot =>
    constructor
    · intro h
      cases h
    · rintro ⟨hpos, -⟩
      omega
  · next hpos =>
    rw [Option.map_eq_some_iff]
    constructor
    · rintro ⟨t, ht, rfl⟩
      obtain ⟨hunix, hnano⟩ := ofUnix?_eq_some_iff.1 ht
      exact ⟨by omega, t, hunix, hnano, rfl⟩
    · rintro ⟨-, t, hunix, hnano, rfl⟩
      exact ⟨t, ofUnix?_eq_some_iff.2 ⟨hunix, hnano⟩, rfl⟩

theorem unixText?_eq_none_iff {seconds : Int} :
    unixText? seconds = none ↔ seconds ≤ 0 ∨ lastSecond < seconds := by
  rw [Option.eq_none_iff_forall_ne_some]
  constructor
  · intro hnone
    by_contra hnot
    have hpos : 0 < seconds := by omega
    have hlast : seconds ≤ lastSecond := by omega
    obtain ⟨t, hunix, hnano⟩ := exists_toUnix_eq hpos hlast
    exact hnone _ (unixText?_eq_some_iff.2 ⟨hpos, t, hunix, hnano, rfl⟩)
  · intro hrange text htext
    obtain ⟨hpos, t, hunix, -, -⟩ := unixText?_eq_some_iff.1 htext
    have hle := t.toUnix_le_lastSecond
    omega

theorem parse?_renderSeconds {t : Timestamp} (hnano : t.nano = 0) :
    parse? t.renderSeconds = some t := by
  have hfraction : fractionText t.nano = [] := by
    rw [hnano]
    rfl
  have hexact : t.renderSeconds = t.render := by
    rw [render, hfraction, List.append_nil, renderSeconds]
  rw [hexact, parse?_render]

/-- The instant of a positive number of seconds lies on a day that is counted from the first of
January 1970. -/
theorem ofDays_day {t : Timestamp} (hpos : 0 < t.toUnix) :
    Date.ofDays t.day = Date.next^[t.day.toNat] ⟨1970, 1, 1⟩ := by
  have hsecond : t.second < 86400 := t.second_lt
  have hday : (t.day.toNat : Int) = t.day := by
    rw [toUnix, daySeconds] at hpos
    omega
  rw [← hday]
  exact Date.ofDays_eq_iterate _

/-- Seconds since 1970 convert exactly. There is no text exactly for zero, for negative seconds and
for those behind the last one. Every other text shows date and time of an instant that is as many
seconds after the first of January 1970, days being counted by the calendar; records are read with
that instant for the text, and no other number of seconds has the text. -/
theorem unixText?_exact (s : Int64) :
    (unixText? s.toInt = none ↔ s.toInt ≤ 0 ∨ 8210266876799 < s.toInt)
      ∧ ∀ text, unixText? s.toInt = some text →
        (∃ t, Search.timestamp? (.text text) = some t ∧ t.toUnix = s.toInt ∧ t.nano = 0
          ∧ text = t.renderSeconds ∧ Date.ofDays t.day = Date.next^[t.day.toNat] ⟨1970, 1, 1⟩)
        ∧ ∀ other : Int64, unixText? other.toInt = some text → other = s := by
  constructor
  · rw [unixText?_eq_none_iff, lastSecond]
  intro text htext
  obtain ⟨hpos, t, hunix, hnano, rfl⟩ := unixText?_eq_some_iff.1 htext
  have hread := parse?_renderSeconds hnano
  have hdecoded : Search.timestamp? (.text t.renderSeconds) = some t := by
    rw [Search.timestamp?, Json.text?, Option.bind_some, hread]
  refine ⟨⟨t, hdecoded, hunix, hnano, rfl, ofDays_day (hunix ▸ hpos)⟩, ?_⟩
  intro other hother
  obtain ⟨-, u, huUnix, huNano, hsame⟩ := unixText?_eq_some_iff.1 hother
  -- The text is read as one instant only.
  have hinstant : t = u := by
    have hother := parse?_renderSeconds huNano
    rw [← hsame] at hother
    exact Option.some.inj (hread.symm.trans hother)
  apply Int64.toInt_inj.1
  rw [← huUnix, ← hunix, hinstant]

/-- The last second, in a year of six digits, and the first one without a text. -/
theorem unixText?_exact_lastSecond :
    unixText? (8210266876799 : Int64).toInt = some "+262142-12-31T23:59:59Z"
      ∧ (∃ t, Search.timestamp? (.text "+262142-12-31T23:59:59Z") = some t
          ∧ t.toUnix = 8210266876799
        ∧ t.nano = 0)
      ∧ unixText? (8210266876800 : Int64).toInt = none := by
  have htext : unixText? (8210266876799 : Int64).toInt = some "+262142-12-31T23:59:59Z" := by
    decide +kernel
  obtain ⟨⟨t, hread, hunix, hnano, -, -⟩, -⟩ := (unixText?_exact 8210266876799).2 _ htext
  refine ⟨htext, ⟨t, hread, hunix, hnano⟩, ?_⟩
  exact (unixText?_exact 8210266876800).1.2 (.inr (by decide))

end Pinning.Timestamp
