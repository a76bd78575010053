import Pinning.Text.Numeral
/-!
Reading numerals back. The digits that a number is written with denote the number, with and without
the zeros in front of them, and no number but zero is written with a zero in front.
-/

set_option autoImplicit false
set_option relaxedAutoImplicit false

namespace Pinning.Text

theorem isDigit_eq (c : Char) : isDigit c = c.isDigit := by
  have hdigit : ('0' ≤ c ∧ c ≤ '9') ↔ c.isDigit = true := by
    simp only [Char.isDigit, Bool.and_eq_true, decide_eq_true_eq]
    exact Iff.rfl
  rw [isDigit, digitValue?]
  by_cases h : c.isDigit = true
  · simp [hdigit.2 h, h]
  · have hnot : ¬('0' ≤ c ∧ c ≤ '9') := fun hc => h (hdigit.1 hc)
    simp [hnot, h]

theorem toNat_of_isDigit {c : Char} (h : isDigit c = true) : 48 ≤ c.toNat ∧ c.toNat ≤ 57 := by
  rw [isDigit_eq, Char.isDigit, Bool.and_eq_true, decide_eq_true_eq, decide_eq_true_eq] at h
  exact h

theorem digitValue?_digitChar {d : Nat} (h : d < 10) : digitValue? d.digitChar = some d := by
  have hall : ∀ d, d < 10 → digitValue? (Nat.digitChar d) = some d := by decide
  exact hall d h

section Decimal

theorem decimal_eq (n : Nat) :
    decimal n = if n < 10 then [n.digitChar] else decimal (n / 10) ++ [(n % 10).digitChar] :=
  Nat.toDigits_eq_if (by decide)

theorem decimal_ne_nil (n : Nat) : decimal n ≠ [] := Nat.toDigits_ne_nil

theorem isDigit_of_mem_decimal {n : Nat} {c : Char} (h : c ∈ decimal n) : isDigit c = true := by
  rw [isDigit_eq]
  exact Nat.isDigit_of_mem_toDigits (by decide) (by decide) h

theorem decimalValue_append_digit (cs : List Char) {d : Nat} (h : d < 10) :
    decimalValue (cs ++ [d.digitChar]) = 10 * decimalValue cs + d := by
  simp only [decimalValue, ofDigits, List.filterMap_append, List.filterMap_cons, List.filterMap_nil,
    digitValue?_digitChar h, List.foldl_append, List.foldl_cons, List.foldl_nil]
  omega

theorem decimalValue_decimal (n : Nat) : decimalValue (decimal n) = n := by
  induction n using Nat.strongRecOn with
  | _ n ih =>
    rw [decimal_eq]
    split
    · next hlt =>
      have hdigit := decimalValue_append_digit [] hlt
      simpa [decimalValue, ofDigits] using hdigit
    · next hge =>
      rw [decimalValue_append_digit _ (Nat.mod_lt n (by decide)), ih (n / 10) (by omega)]
      omega

theorem head?_decimal {n : Nat} (h : 0 < n) : (decimal n).head? ≠ some '0' := by
  induction n using Nat.strongRecOn with
  | _ n ih =>
    rw [decimal_eq]
    split
    · next hlt =>
      have hall : ∀ d, d < 10 → 0 < d → Nat.digitChar d ≠ '0' := by decide
      simpa using hall n hlt h
    · next hge =>
      have hrest := ih (n / 10) (by omega) (by omega)
      cases hfront : decimal (n / 10) with
      | nil => exact absurd hfront (decimal_ne_nil _)
      | cons c more =>
        rw [hfront] at hrest
        exact hrest

end Decimal

section Padded

theorem isDigit_of_mem_padded {width n : Nat} {c : Char} (h : c ∈ padded width n) :
    isDigit c = true := by
  rcases List.mem_append.1 h with hzero | hdigit
  · rw [(List.mem_replicate.1 hzero).2]
    rfl
  · exact isDigit_of_mem_decimal hdigit

theorem decimalValue_padded (width n : Nat) : decimalValue (padded width n) = n := by
  have hzeros : ∀ k, decimalValue (List.replicate k '0' ++ decimal n) = n := by
    intro k
    induction k with
    | zero => exact decimalValue_decimal n
    | succ k ih => exact ih
  exact hzeros _

theorem padded_ne_nil (width n : Nat) : padded width n ≠ [] := by
  intro h
  exact decimal_ne_nil n (List.append_eq_nil_iff.1 h).2

theorem length_padded {width n : Nat} (hpos : 0 < width) (h : n < Nat.pow 10 width) :
    (padded width n).length = width := by
  have hlength : (decimal n).length ≤ width :=
    (Nat.length_toDigits_le_iff (by decide) hpos).2 h
  simp only [padded, List.length_append, List.length_replicate]
  omega

end Padded

section Runs

variable {digits rest : List Char}

theorem takeWhile_digits (hdigits : ∀ c ∈ digits, isDigit c = true)
    (hrest : ∀ c, rest.head? = some c → isDigit c = false) :
    (digits ++ rest).takeWhile isDigit = digits := by
  rw [List.takeWhile_append_of_pos hdigits]
  cases rest with
  | nil => simp
  | cons c more => simp [hrest c rfl]

theorem dropWhile_digits (hdigits : ∀ c ∈ digits, isDigit c = true)
    (hrest : ∀ c, rest.head? = some c → isDigit c = false) :
    (digits ++ rest).dropWhile isDigit = rest := by
  rw [List.dropWhile_append_of_pos hdigits]
  cases rest with
  | nil => rfl
  | cons c more => simp [hrest c rfl]

end Runs

end Pinning.Text
