import Pinning.Timestamp
/-!
Instants and numbers of seconds. A number of seconds since 1970 is the instant whose whole seconds
they are and which has no fraction; there is no other.
-/

set_option autoImplicit false
set_option relaxedAutoImplicit false

namespace Pinning.Timestamp

def epoch : Timestamp :=
  ⟨0, 0, 0, by decide, by decide, by decide, by decide, by decide⟩

theorem of?_eq_some_iff {day : Int} {second nano : Nat} {t : Timestamp} :
    of? day second nano = some t ↔ t.day = day ∧ t.second = second ∧ t.nano = nano := by
  rw [of?]
  constructor
  · intro h
    split at h
    · obtain rfl := Option.some.inj h
      exact ⟨rfl, rfl, rfl⟩
    · cases h
  · rintro ⟨rfl, rfl, rfl⟩
    rw [dif_pos ⟨t.firstDay_le, t.le_lastDay, t.second_lt, t.nano_lt, t.leap⟩]

theorem of?_seconds_eq_some_iff {seconds : Int} {nano : Nat} {t : Timestamp} :
    of? (seconds / daySeconds) (seconds % daySeconds).toNat nano = some t
      ↔ t.toUnix = seconds ∧ t.nano = nano := by
  have hsecond : t.second < 86400 := t.second_lt
  rw [of?_eq_some_iff, toUnix]
  simp only [daySeconds]
  omega

theorem ofUnix?_eq_some_iff {seconds : Int} {t : Timestamp} :
    ofUnix? seconds = some t ↔ t.toUnix = seconds ∧ t.nano = 0 := of?_seconds_eq_some_iff

theorem unixText?_of_toUnix {seconds : Int} {t : Timestamp} (hpos : 0 < seconds)
    (hunix : t.toUnix = seconds) (hnano : t.nano = 0) :
    unixText? seconds = some t.renderSeconds := by
  rw [unixText?, if_neg (by omega), ofUnix?_eq_some_iff.2 ⟨hunix, hnano⟩]
  rfl

end Pinning.Timestamp
