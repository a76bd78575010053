import Pinning.Proofs.Calendar
import Pinning.Proofs.Text.Blank
import Pinning.Proofs.Text.Numeral
import Pinning.Proofs.Timestamp
import Pinning.Timestamp.Reader
/-!
Reading instants back. The text of an instant, with its fraction of a second and with the offset of
any zone, denotes the instant it was written for.
-/

set_option autoImplicit false
set_option relaxedAutoImplicit false

namespace Pinning.Timestamp

section Numbers

variable {rest : List Char}

theorem digits_append {limit : Nat} {run : List Char} (hrun : ∀ c ∈ run, Text.isDigit c = true)
    (hlimit : run.length ≤ limit)
    (hrest : run.length = limit ∨ ∀ c, rest.head? = some c → Text.isDigit c = false) :
    digits limit (run ++ rest) = (run, rest) := by
  have htake : ((run ++ rest).take limit).takeWhile Text.isDigit = run := by
    rw [List.take_append, List.take_of_length_le hlimit]
    rcases hrest with hfull | hrest
    · rw [hfull, Nat.sub_self, List.take_zero]
      exact Text.takeWhile_digits hrun (by simp)
    · refine Text.takeWhile_digits hrun fun c hc => ?_
      cases rest with
      | nil => simp at hc
      | cons d more =>
        rw [List.head?_take] at hc
        split at hc
        · cases hc
        · exact hrest c hc
  rw [digits, htake, List.drop_left]

theorem unsigned?_append {limit : Nat} {run : List Char} (hne : run ≠ [])
    (hrun : ∀ c ∈ run, Text.isDigit c = true) (hlimit : run.length ≤ limit)
    (hrest : run.length = limit ∨ ∀ c, rest.head? = some c → Text.isDigit c = false) :
    unsigned? limit (run ++ rest) = some (Text.decimalValue run, rest) := by
  rw [unsigned?, digits_append hrun hlimit hrest]
  cases run with
  | nil => exact absurd rfl hne
  | cons c more => rfl

theorem not_isBlank_of_isDigit {c : Char} (h : Text.isDigit c = true) : Text.isBlank c = false := by
  have hbounds := Text.toNat_of_isDigit h
  simp only [Text.isBlank, Bool.or_eq_false_iff, Bool.and_eq_false_iff, beq_eq_false_iff_ne,
    decide_eq_false_iff_not]
  omega

theorem trimStart_digits {run : List Char} (hne : run ≠ [])
    (hrun : ∀ c ∈ run, Text.isDigit c = true) :
    Text.trimStart (run ++ rest) = run ++ rest := by
  cases run with
  | nil => exact absurd rfl hne
  | cons c more =>
    exact Text.trimStart_of_not_blank (not_isBlank_of_isDigit (hrun c List.mem_cons_self))

theorem twoDigit?_padded {n : Nat} (h : n < 100) :
    twoDigit? (Text.padded 2 n ++ rest) = some (n, rest) := by
  have hdigits : ∀ c ∈ Text.padded 2 n, Text.isDigit c = true := fun c => Text.isDigit_of_mem_padded
  have hlength : (Text.padded 2 n).length = 2 := Text.length_padded (by decide) h
  rw [twoDigit?, trimStart_digits (Text.padded_ne_nil 2 n) hdigits,
    unsigned?_append (Text.padded_ne_nil 2 n) hdigits (Nat.le_of_eq hlength) (.inl hlength),
    Text.decimalValue_padded]

theorem separator?_self {sep : Char} (h : Text.isBlank sep = false) :
    separator? sep (sep :: rest) = some rest := by
  rw [separator?, Text.trimStart_of_not_blank h]
  exact if_pos rfl

theorem year?_yearText (year : Int) :
    year? (yearText year ++ '-' :: rest) = some (year, '-' :: rest) := by
  have hdigits : ∀ n, ∀ c ∈ Text.padded 4 n, Text.isDigit c = true :=
    fun n c => Text.isDigit_of_mem_padded
  have hhyphen : ∀ c, ('-' :: rest).head? = some c → Text.isDigit c = false := by
    intro c hc
    obtain rfl := Option.some.inj hc
    rfl
  have hsigned : ∀ n, unsigned? (Text.padded 4 n ++ '-' :: rest).length
      (Text.padded 4 n ++ '-' :: rest)
      = some (n, '-' :: rest) := by
    intro n
    rw [unsigned?_append (Text.padded_ne_nil 4 n) (hdigits n) (by simp) (.inr hhyphen),
      Text.decimalValue_padded]
  rw [yearText]
  split
  · next hplain =>
    have hvalue : (year.toNat : Int) = year := by omega
    have hlength : (Text.padded 4 year.toNat).length = 4 := by
      refine Text.length_padded (by decide) ?_
      show year.toNat < 10000
      omega
    have hread : unsigned? 4 (Text.padded 4 year.toNat ++ '-' :: rest)
        = some (year.toNat, '-' :: rest) := by
      rw [unsigned?_append (Text.padded_ne_nil 4 _) (hdigits _) (Nat.le_of_eq hlength)
        (.inl hlength),
        Text.decimalValue_padded]
    rw [year?, trimStart_digits (Text.padded_ne_nil 4 _) (hdigits _)]
    obtain ⟨c, more, hpadded⟩ := List.exists_cons_of_ne_nil (Text.padded_ne_nil 4 year.toNat)
    have hc : Text.isDigit c = true := hdigits _ c (hpadded ▸ List.mem_cons_self)
    rw [hpadded] at hread ⊢
    split
    · next heq => exact absurd ((List.cons.inj heq).1 ▸ hc) (by decide)
    · next heq => exact absurd ((List.cons.inj heq).1 ▸ hc) (by decide)
    · simp only [hread, Option.map_some, hvalue]
  · next hsign =>
    by_cases hneg : year < 0
    · have hvalue : -(year.natAbs : Int) = year := by omega
      rw [if_pos hneg, List.cons_append, year?, Text.trimStart_of_not_blank (by decide)]
      show (unsigned? _ _).map _ = _
      simp only [hsigned, Option.map_some, hvalue]
    · have hvalue : (year.natAbs : Int) = year := by omega
      rw [if_neg hneg, List.cons_append, year?, Text.trimStart_of_not_blank (by decide)]
      show (unsigned? _ _).map _ = _
      simp only [hsigned, Option.map_some, hvalue]

theorem fraction?_fractionText {nano : Nat}
    (hrest : ∀ c, rest.head? = some c → Text.isDigit c = false ∧ c ≠ '.') :
    fraction? (fractionText nano ++ rest) = some (nano % secondNanos, rest) := by
  have hplaces : ∀ places value, 0 < places → places ≤ 9 → value < Nat.pow 10 places →
      fraction? ('.' :: Text.padded places value ++ rest)
        = some (value * Nat.pow 10 (9 - places), rest) := by
    intro places value hpos hle hvalue
    have hdigits : ∀ c ∈ Text.padded places value, Text.isDigit c = true :=
      fun c => Text.isDigit_of_mem_padded
    have hlength : (Text.padded places value).length = places := Text.length_padded hpos hvalue
    have hrun : digits 9 (Text.padded places value ++ rest) = (Text.padded places value, rest) :=
      digits_append hdigits (by omega) (.inr fun c hc => (hrest c hc).1)
    have hdrop : ([] ++ rest).dropWhile Text.isDigit = rest :=
      Text.dropWhile_digits (by simp) fun c hc => (hrest c hc).1
    obtain ⟨c, more, hpadded⟩ := List.exists_cons_of_ne_nil (Text.padded_ne_nil places value)
    have hread := Text.decimalValue_padded places value
    rw [hpadded] at hrun hlength hread
    rw [List.cons_append, hpadded, fraction?, hrun]
    rw [List.nil_append] at hdrop
    simp only [hlength, hread, hdrop]
  have hpart : nano % secondNanos < 1000000000 := Nat.mod_lt _ (by decide)
  rw [fractionText]
  generalize nano % secondNanos = part at hpart
  split
  · next hzero =>
    rw [List.nil_append, fraction?.eq_def]
    split
    · next after => exact absurd rfl (hrest '.' rfl).2
    · rw [hzero]
  · split
    · next hmilli =>
      rw [hplaces 3 (part / 1000000) (by decide) (by decide) (by show _ < 1000; omega)]
      show some (part / 1000000 * 1000000, rest) = _
      rw [Nat.div_mul_cancel (Nat.dvd_of_mod_eq_zero hmilli)]
    · split
      · next hmicro =>
        rw [hplaces 6 (part / 1000) (by decide) (by decide) (by show _ < 1000000; omega)]
        show some (part / 1000 * 1000, rest) = _
        rw [Nat.div_mul_cancel (Nat.dvd_of_mod_eq_zero hmicro)]
      · rw [hplaces 9 part (by decide) (by decide) hpart]
        show some (part * 1, rest) = _
        rw [Nat.mul_one]

end Numbers

def offsetText (minutes : Int) : List Char :=
  (if minutes < 0 then '-' else '+')
    :: (Text.padded 2 (minutes.natAbs / 60) ++ ':' :: Text.padded 2 (minutes.natAbs % 60))

/-- The text of the local time of a zone, with its offset from UTC in minutes. -/
def zonedText (wall : Timestamp) (minutes : Int) : String :=
  String.ofList (dateTimeText wall ++ fractionText wall.nano ++ offsetText minutes)

section Offsets

theorem digitPair?_padded {n : Nat} (h : n < 100) (rest : List Char) :
    digitPair? (Text.padded 2 n ++ rest) = some (n, rest) := by
  have hall : ∀ n, n < 100 →
      Text.padded 2 n = [Nat.digitChar (n / 10), Nat.digitChar (n % 10)] := by decide
  have htens := Text.digitValue?_digitChar (show n / 10 < 10 by omega)
  have hones := Text.digitValue?_digitChar (show n % 10 < 10 by omega)
  have hvalue : 10 * (n / 10) + n % 10 = n := by omega
  rw [hall n h]
  simp only [List.cons_append, List.nil_append, digitPair?, htens, hones, Option.bind_eq_bind,
    Option.bind_some, hvalue]

theorem offset?_offsetText {minutes : Int} (h : minutes.natAbs < 1440) :
    offset? (offsetText minutes) = some (minutes * 60, []) := by
  have hminute : minutes.natAbs % 60 < 60 := Nat.mod_lt _ (by decide)
  have hcolon : skipColons (':' :: Text.padded 2 (minutes.natAbs % 60))
      = Text.padded 2 (minutes.natAbs % 60) := by
    obtain ⟨c, more, hpadded⟩ :=
      List.exists_cons_of_ne_nil (Text.padded_ne_nil 2 (minutes.natAbs % 60))
    have hc : Text.isDigit c = true := Text.isDigit_of_mem_padded (hpadded ▸ List.mem_cons_self)
    have hne : c ≠ ':' := by
      rintro rfl
      exact absurd hc (by decide)
    have hblank := not_isBlank_of_isDigit hc
    rw [hpadded, skipColons, if_pos (.inl rfl), skipColons, if_neg (by simp [hne, hblank])]
  have hsize : offsetSize?
      (Text.padded 2 (minutes.natAbs / 60) ++ ':' :: Text.padded 2 (minutes.natAbs % 60))
      = some (minutes.natAbs * 60, []) := by
    have hhour := digitPair?_padded (show minutes.natAbs / 60 < 100 by omega)
      (':' :: Text.padded 2 (minutes.natAbs % 60))
    have hrest := digitPair?_padded (show minutes.natAbs % 60 < 100 by omega) []
    rw [List.append_nil] at hrest
    have hrange : minutes.natAbs / 60 < 24 ∧ minutes.natAbs % 60 < 60 := ⟨by omega, hminute⟩
    have hvalue : minutes.natAbs / 60 * 3600 + minutes.natAbs % 60 * 60 = minutes.natAbs * 60 := by
      omega
    simp only [offsetSize?, hhour, hcolon, hrest, Option.bind_eq_bind, Option.bind_some,
      if_pos hrange, hvalue]
  rw [offsetText]
  split
  · next hneg =>
    have hvalue : -((minutes.natAbs * 60 : Nat) : Int) = minutes * 60 := by omega
    rw [offset?.eq_def]
    show (if _ then _ else _) = _
    simp only [true_or, if_true, hsize, Option.map_some, hvalue]
  · next hneg =>
    have hvalue : ((minutes.natAbs * 60 : Nat) : Int) = minutes * 60 := by omega
    rw [offset?]
    simp only [hsize, Option.map_some, hvalue]

end Offsets

section Instants

theorem instant?_wall (wall : Timestamp) (minutes : Int) :
    instant? (Date.ofDays wall.day) (wall.second / 3600) (wall.second / 60 % 60)
        (wall.second % 60 + wall.nano / secondNanos) (wall.nano % secondNanos) (minutes * 60)
      = of? ((wall.toUnix - minutes * 60) / daySeconds)
        ((wall.toUnix - minutes * 60) % daySeconds).toNat
        wall.nano := by
  have hsecond : wall.second < 86400 := wall.second_lt
  have hnano : wall.nano < 2000000000 := wall.nano_lt
  have hleap : 1000000000 ≤ wall.nano → wall.second % 60 = 59 := wall.leap
  simp only [toUnix, daySeconds, secondNanos]
  have hinRange : (Date.ofDays wall.day).IsValid ∧ firstDay ≤ (Date.ofDays wall.day).toDays
      ∧ (Date.ofDays wall.day).toDays ≤ lastDay ∧ wall.second / 3600 < 24
      ∧ wall.second / 60 % 60 < 60
      ∧ wall.second % 60 + wall.nano / 1000000000 ≤ 60 := by
    rw [Date.toDays_ofDays]
    exact ⟨Date.isValid_ofDays _, wall.firstDay_le, wall.le_lastDay, by omega, by omega, by omega⟩
  have hofMinute : min (wall.second % 60 + wall.nano / 1000000000) 59 = wall.second % 60 := by omega
  have hwhole : (wall.nano % 1000000000
      + if wall.second % 60 + wall.nano / 1000000000 = 60 then 1000000000 else 0) = wall.nano := by
    split <;> omega
  have helapsed : ((wall.second / 3600 : Nat) : Int) * 3600 + ((wall.second / 60 % 60 : Nat) : Int)
      * 60
      + ((wall.second % 60 : Nat) : Int) - minutes * 60 = wall.second - minutes * 60 := by
    omega
  rw [instant?, if_pos hinRange]
  simp only [hofMinute, secondNanos, hwhole, helapsed, Date.toDays_ofDays, daySeconds]
  congr 1
  all_goals omega

theorem ofChars?_dateTimeText (wall : Timestamp) {tail : List Char} {minutes : Int}
    (hoffset : offset? tail = some (minutes * 60, []))
    (htail : ∃ c more, tail = c :: more ∧ Text.isDigit c = false ∧ c ≠ '.'
      ∧ Text.isBlank c = false) :
    ofChars? (dateTimeText wall ++ fractionText wall.nano ++ tail)
      = of? ((wall.toUnix - minutes * 60) / daySeconds)
          ((wall.toUnix - minutes * 60) % daySeconds).toNat wall.nano := by
  obtain ⟨c, more, rfl, hdigit, hpoint, hblank⟩ := htail
  have hsecond : wall.second < 86400 := wall.second_lt
  have hvalid := Date.isValid_ofDays wall.day
  have hmonth : (Date.ofDays wall.day).month < 100 := Nat.lt_of_le_of_lt hvalid.2.1 (by decide)
  have hday : (Date.ofDays wall.day).day < 100 :=
    Nat.lt_of_le_of_lt (hvalid.2.2.2.trans (Date.daysInMonth_le _ _)) (by decide)
  have hminute : wall.second / 60 % 60 < 60 := Nat.mod_lt _ (by decide)
  have hnano : wall.nano / secondNanos ≤ 1 := by
    have hlt : wall.nano < 2000000000 := wall.nano_lt
    simp only [secondNanos]
    omega
  have hfraction := @fraction?_fractionText (c :: more) wall.nano (by
    intro d hd
    obtain rfl := Option.some.inj hd
    exact ⟨hdigit, hpoint⟩)
  have hempty : Text.trimStart [] = [] := rfl
  simp only [ofChars?, dateTimeText, clockText, List.append_assoc, List.cons_append, year?_yearText,
    Option.bind_eq_bind, Option.bind_some,
    separator?_self (show Text.isBlank '-' = false by decide),
    separator?_self (show Text.isBlank ':' = false by decide), twoDigit?_padded hmonth,
    twoDigit?_padded hday, dateEnd?, true_or, if_true,
    twoDigit?_padded (show wall.second / 3600 < 100 by omega),
    twoDigit?_padded (show wall.second / 60 % 60 < 100 by omega),
    twoDigit?_padded (show wall.second % 60 + wall.nano / secondNanos < 100 by omega), hfraction,
    Text.trimStart_of_not_blank hblank, hoffset, hempty, List.isEmpty_nil]
  exact instant?_wall wall minutes

theorem parse?_zonedText {wall t : Timestamp} {minutes : Int} (h : minutes.natAbs < 1440) :
    parse? (zonedText wall minutes) = some t
      ↔ t.toUnix = wall.toUnix - minutes * 60 ∧ t.nano = wall.nano := by
  have htail : ∃ c more, offsetText minutes = c :: more ∧ Text.isDigit c = false ∧ c ≠ '.'
      ∧ Text.isBlank c = false := by
    rw [offsetText]
    split
    · exact ⟨'-', _, rfl, by decide⟩
    · exact ⟨'+', _, rfl, by decide⟩
  rw [parse?, zonedText, String.toList_ofList,
    ofChars?_dateTimeText wall (offset?_offsetText h) htail]
  exact of?_seconds_eq_some_iff

theorem parse?_render (t : Timestamp) : parse? t.render = some t := by
  have hread : ofChars? (dateTimeText t ++ fractionText t.nano ++ ['Z']) = _ :=
    ofChars?_dateTimeText t (show offset? ['Z'] = some (0 * 60, []) from rfl)
      ⟨'Z', [], rfl, by decide⟩
  rw [parse?, render, String.toList_ofList, hread]
  exact of?_seconds_eq_some_iff.2 ⟨by simp, rfl⟩

end Instants

end Pinning.Timestamp
