import Pinning.Proofs.Timestamp.Reader
/-!
Instants cut down to whole seconds. The text to the second is the exact text of the instant that is
cut down so.
-/

set_option autoImplicit false
set_option relaxedAutoImplicit false

namespace Pinning.Timestamp

/-- The instant at which the second of an instant began. The beginning of a leap second is told
apart from that of the second before it. -/
def truncated (t : Timestamp) : Timestamp where
  day := t.day
  second := t.second
  nano := t.nano / secondNanos * secondNanos
  firstDay_le := t.firstDay_le
  le_lastDay := t.le_lastDay
  second_lt := t.second_lt
  nano_lt := Nat.lt_of_le_of_lt (Nat.div_mul_le_self _ _) t.nano_lt
  leap := fun h => t.leap (Nat.le_trans h (Nat.div_mul_le_self _ _))

variable (t : Timestamp)

theorem dateTimeText_truncated : dateTimeText t.truncated = dateTimeText t := by
  have hwhole : t.truncated.nano / secondNanos = t.nano / secondNanos :=
    Nat.mul_div_cancel _ (by decide)
  have hday : t.truncated.day = t.day := rfl
  have hsecond : t.truncated.second = t.second := rfl
  simp only [dateTimeText, clockText, hwhole, hday, hsecond]

theorem fractionText_truncated : fractionText t.truncated.nano = [] := by
  have hpart : t.truncated.nano % secondNanos = 0 := Nat.mul_mod_left _ _
  simp only [fractionText, hpart, if_true]

theorem renderSeconds_eq_render_truncated : t.renderSeconds = t.truncated.render := by
  rw [render, renderSeconds, dateTimeText_truncated, fractionText_truncated, List.append_nil]

end Pinning.Timestamp
