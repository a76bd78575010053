import Mathlib.Data.Bool.AllAny
import Pinning.Proofs.Text
import Pinning.Url.Percent
/-!
What a percent-encoded text stands for. Encoding a component changes nothing about it, no escape
reaches over a separator, and a text stands for itself exactly if it holds no escape.
-/

set_option autoImplicit false
set_option relaxedAutoImplicit false

namespace Pinning.Url

/-- The byte that two hexadecimal digits at the beginning of a text denote, and what follows them.
-/
def hexPair? : List Char → Option (UInt8 × List Char)
  | a :: b :: rest =>
    match Text.hexValue? a, Text.hexValue? b with
    | some high, some low => some (UInt8.ofNat (16 * high + low), rest)
    | _, _ => none
  | _ => none

def hasEscape : List Char → Bool
  | [] => false
  | c :: rest => (c == '%' && (hexPair? rest).isSome) || hasEscape rest

theorem hasEscape_eq_false {cs : List Char} (h : '%' ∉ cs) : hasEscape cs = false := by
  induction cs with
  | nil => rfl
  | cons c rest ih =>
    have hc : c ≠ '%' := fun heq => h (heq ▸ List.mem_cons_self)
    have hrest : '%' ∉ rest := fun hmem => h (List.mem_cons_of_mem c hmem)
    simp [hasEscape, hc, ih hrest]

theorem hexPair?_eq_some_iff {rest behind : List Char} {byte : UInt8} :
    hexPair? rest = some (byte, behind)
      ↔ ∃ a b high low, rest = a :: b :: behind ∧ Text.hexValue? a = some high
        ∧ Text.hexValue? b = some low ∧ UInt8.ofNat (16 * high + low) = byte := by
  constructor
  · intro h
    rw [hexPair?.eq_def] at h
    split at h
    · next a b rest =>
      split at h
      · next high low hhigh hlow =>
        obtain ⟨hbyte, rfl⟩ : UInt8.ofNat (16 * high + low) = byte ∧ rest = behind := by
          simpa using h
        exact ⟨a, b, high, low, rfl, hhigh, hlow, hbyte⟩
      · cases h
    · cases h
  · rintro ⟨a, b, high, low, rfl, hhigh, hlow, rfl⟩
    simp only [hexPair?, hhigh, hlow]

theorem hexPair?_cons_eq_none {c : Char} (hc : Text.hexValue? c = none) (rest : List Char) :
    hexPair? (c :: rest) = none := by
  refine Option.eq_none_iff_forall_ne_some.2 fun ⟨byte, behind⟩ h => ?_
  obtain ⟨a, b, high, low, hrest, hhigh, -, -⟩ := hexPair?_eq_some_iff.1 h
  obtain ⟨rfl, -⟩ := List.cons.inj hrest
  cases hc.symm.trans hhigh

theorem hexPair?_cons_cons_eq_none {c : Char} (hc : Text.hexValue? c = none) (a : Char)
    (rest : List Char) : hexPair? (a :: c :: rest) = none := by
  refine Option.eq_none_iff_forall_ne_some.2 fun ⟨byte, behind⟩ h => ?_
  obtain ⟨a, b, high, low, hrest, -, hlow, -⟩ := hexPair?_eq_some_iff.1 h
  obtain ⟨-, rfl, -⟩ : _ = a ∧ c = b ∧ rest = behind := by simpa using hrest
  cases hc.symm.trans hlow

theorem toNat_of_hexValue? {c : Char} {n : Nat} (h : Text.hexValue? c = some n) :
    0x30 ≤ c.toNat ∧ c.toNat ≤ 0x66 := by
  have hbounds : ∀ low high : Char, low ≤ c ∧ c ≤ high →
      low.toNat ≤ c.toNat ∧ c.toNat ≤ high.toNat :=
    fun low high hc => ⟨Char.le_def.1 hc.1, Char.le_def.1 hc.2⟩
  rw [Text.hexValue?] at h
  split at h
  · next hdigit =>
    obtain ⟨hlow, hhigh⟩ := hbounds _ _ hdigit
    simp at hlow hhigh
    omega
  · split at h
    · next hletter =>
      obtain ⟨hlow, hhigh⟩ := hbounds _ _ hletter
      simp at hlow hhigh
      omega
    · split at h
      · next hletter =>
        obtain ⟨hlow, hhigh⟩ := hbounds _ _ hletter
        simp at hlow hhigh
        omega
      · cases h

theorem length_utf8EncodeChar_of_hexValue? {c : Char} {n : Nat} (h : Text.hexValue? c = some n) :
    (String.utf8EncodeChar c).length = 1 := by
  rw [String.length_utf8EncodeChar, Char.utf8Size_eq_one_iff]
  exact Nat.le_trans (toNat_of_hexValue? h).2 (by decide)

section Reading

theorem decodedBytes_cons {c : Char} {rest : List Char} (h : c = '%' → hexPair? rest = none) :
    decodedBytes (c :: rest) = String.utf8EncodeChar c ++ decodedBytes rest := by
  rw [decodedBytes.eq_def]
  split
  · next a b behind heq =>
    obtain ⟨rfl, rfl⟩ := List.cons.inj heq
    have hpair := h rfl
    cases hhigh : Text.hexValue? a with
    | none => rfl
    | some high =>
      cases hlow : Text.hexValue? b with
      | none => rfl
      | some low =>
        have hescape : hexPair? (a :: b :: behind) = some (_, behind) :=
          hexPair?_eq_some_iff.2 ⟨a, b, high, low, rfl, hhigh, hlow, rfl⟩
        cases hpair.symm.trans hescape
  · next heq =>
    obtain ⟨rfl, rfl⟩ := List.cons.inj heq
    rfl
  · next heq => cases heq

theorem decodedBytes_escape {rest behind : List Char} {byte : UInt8}
    (h : hexPair? rest = some (byte, behind)) :
    decodedBytes ('%' :: rest) = byte :: decodedBytes behind := by
  obtain ⟨a, b, high, low, rfl, hhigh, hlow, rfl⟩ := hexPair?_eq_some_iff.1 h
  simp only [decodedBytes, hhigh, hlow]

theorem escape_induction {P : List Char → Prop} (nil : P [])
    (escape : ∀ rest byte behind, hexPair? rest = some (byte, behind) → P behind → P ('%' :: rest))
    (cons : ∀ c rest, (c = '%' → hexPair? rest = none) → P rest → P (c :: rest)) (cs : List Char) :
    P cs := by
  induction hlength : cs.length using Nat.strongRecOn generalizing cs with
  | _ n ih =>
    cases cs with
    | nil => exact nil
    | cons c rest =>
      have hrest : P rest := ih rest.length (by simp at hlength; omega) rest rfl
      by_cases hc : c = '%'
      · subst hc
        cases hpair : hexPair? rest with
        | none => exact cons _ _ (fun _ => hpair) hrest
        | some found =>
          obtain ⟨byte, behind⟩ := found
          obtain ⟨a, b, _, _, rfl, -⟩ := hexPair?_eq_some_iff.1 hpair
          refine escape _ _ _ hpair (ih behind.length ?_ behind rfl)
          simp at hlength
          omega
      · exact cons _ _ (fun h => absurd h hc) hrest

theorem length_decodedBytes_le (cs : List Char) :
    (decodedBytes cs).length + (if hasEscape cs then 1 else 0) ≤ (Text.utf8Bytes cs).length := by
  induction cs using escape_induction with
  | nil => simp [decodedBytes, hasEscape]
  | escape rest byte behind hpair ih =>
    obtain ⟨a, b, _, _, rfl, ha, hb, -⟩ := hexPair?_eq_some_iff.1 hpair
    have hthree : (Text.utf8Bytes ('%' :: a :: b :: behind)).length
        = 3 + (Text.utf8Bytes behind).length := by
      have hpercent : (String.utf8EncodeChar '%').length = 1 := by decide
      simp only [Text.utf8Bytes_cons, List.length_append, length_utf8EncodeChar_of_hexValue? ha,
        length_utf8EncodeChar_of_hexValue? hb, hpercent]
      omega
    rw [decodedBytes_escape hpair, hthree, List.length_cons]
    split at ih <;> split <;> omega
  | cons c rest hc ih =>
    have hsame : hasEscape (c :: rest) = hasEscape rest := by
      by_cases hpercent : c = '%'
      · simp [hasEscape, hc hpercent]
      · simp [hasEscape, hpercent]
    rw [decodedBytes_cons hc, hsame, Text.utf8Bytes_cons]
    simp only [List.length_append]
    omega

theorem decodedBytes_eq_utf8Bytes_iff {cs : List Char} :
    decodedBytes cs = Text.utf8Bytes cs ↔ hasEscape cs = false := by
  constructor
  · intro h
    have hle := length_decodedBytes_le cs
    rw [h] at hle
    refine Bool.eq_false_iff.2 fun hescape => ?_
    rw [if_pos hescape] at hle
    omega
  · intro h
    induction cs with
    | nil => simp [decodedBytes]
    | cons c rest ih =>
      simp only [hasEscape, Bool.or_eq_false_iff, Bool.and_eq_false_iff, beq_eq_false_iff_ne,
        Option.isSome_eq_false_iff, Option.isNone_iff_eq_none] at h
      rw [decodedBytes_cons fun hc => h.1.resolve_left fun hne => hne hc, ih h.2,
        Text.utf8Bytes_cons]

end Reading

section Separator

variable {sep : Char}

private theorem hexPair?_append (hsep : Text.hexValue? sep = none) (rest behind : List Char) :
    hexPair? (rest ++ sep :: behind)
      = (hexPair? rest).map fun found => (found.1, found.2 ++ sep :: behind) := by
  match rest with
  | [] => exact hexPair?_cons_eq_none hsep behind
  | [a] => exact hexPair?_cons_cons_eq_none hsep a behind
  | a :: b :: more =>
    simp only [List.cons_append, hexPair?]
    split <;> rfl

theorem decodedBytes_append (hsep : Text.hexValue? sep = none) (hpercent : sep ≠ '%')
    (before behind : List Char) :
    decodedBytes (before ++ sep :: behind)
      = decodedBytes before ++ (String.utf8EncodeChar sep ++ decodedBytes behind) := by
  induction before using escape_induction with
  | nil =>
    have hbehind : sep = '%' → hexPair? behind = none := fun h => absurd h hpercent
    simp [decodedBytes_cons hbehind, decodedBytes]
  | escape rest byte found hpair ih =>
    have hlater : hexPair? (rest ++ sep :: behind) = some (byte, found ++ sep :: behind) := by
      rw [hexPair?_append hsep, hpair]
      rfl
    rw [List.cons_append, decodedBytes_escape hlater, decodedBytes_escape hpair, ih]
    rfl
  | cons c rest hc ih =>
    have hlater : c = '%' → hexPair? (rest ++ sep :: behind) = none := by
      intro h
      rw [hexPair?_append hsep, hc h]
      rfl
    rw [List.cons_append, decodedBytes_cons hlater, decodedBytes_cons hc, ih, List.append_assoc]

end Separator

section Encoding

/-- Escapes can be written with the characters that a set leaves as they are. -/
def EncodeSet.KeepsEscapes (set : EncodeSet) : Prop :=
  ∀ c ∈ set, c ≠ '%' ∧ Text.hexValue? c = none

variable {set : EncodeSet}

theorem hexValue?_upperHexDigit : ∀ n < 16, Text.hexValue? (upperHexDigit n) = some n := by
  decide

theorem decodedBytes_percentByte (b : UInt8) (rest : List Char) :
    decodedBytes (percentByte b ++ rest) = b :: decodedBytes rest := by
  have hhigh : b.toNat / 16 < 16 := by
    have := b.toNat_lt
    omega
  have hlow : b.toNat % 16 < 16 := Nat.mod_lt _ (by decide)
  have hbyte : UInt8.ofNat (16 * (b.toNat / 16) + b.toNat % 16) = b := by
    rw [Nat.div_add_mod]
    exact UInt8.ofNat_toNat
  exact decodedBytes_escape (hexPair?_eq_some_iff.2
    ⟨_, _, _, _, rfl, hexValue?_upperHexDigit _ hhigh, hexValue?_upperHexDigit _ hlow, hbyte⟩)

theorem decodedBytes_percentChar (c : Char) (rest : List Char) :
    decodedBytes (percentChar c ++ rest) = String.utf8EncodeChar c ++ decodedBytes rest := by
  rw [percentChar]
  induction String.utf8EncodeChar c with
  | nil => rfl
  | cons b bytes ih =>
    rw [List.flatMap_cons, List.append_assoc, decodedBytes_percentByte, ih]
    rfl

private theorem percentChar_eq_cons (c : Char) : ∃ rest, percentChar c = '%' :: rest := by
  cases hbytes : String.utf8EncodeChar c with
  | nil => exact absurd hbytes String.utf8EncodeChar_ne_nil
  | cons b bytes => exact ⟨_, by rw [percentChar, hbytes]; rfl⟩

theorem encodeChar_of_hexValue? (hset : set.KeepsEscapes) {c : Char} {n : Nat}
    (h : Text.hexValue? c = some n) : encodeChar set c = [c] := by
  obtain ⟨hlow, hhigh⟩ := toNat_of_hexValue? h
  have hprintable : isOutsidePrintable c = false := by
    simp only [isOutsidePrintable, Bool.or_eq_false_iff, decide_eq_false_iff_not]
    omega
  have hplain : c ∉ set := fun hmem => by cases (hset c hmem).2.symm.trans h
  simp [encodeChar, hprintable, hplain]

theorem encodeChar_eq (set : EncodeSet) (c : Char) :
    encodeChar set c = [c] ∨ encodeChar set c = percentChar c := by
  rw [encodeChar]
  split
  · exact .inr rfl
  · exact .inl rfl

theorem notMem_percentChar {sep : Char} (hsep : Text.hexValue? sep = none) (hpercent : sep ≠ '%')
    (c : Char) :
    sep ∉ percentChar c := by
  have hdigit : ∀ n < 16, sep ≠ upperHexDigit n := by
    rintro n hn rfl
    cases hsep.symm.trans (hexValue?_upperHexDigit n hn)
  intro hmem
  obtain ⟨b, -, hb⟩ := List.mem_flatMap.1 hmem
  have hlt := b.toNat_lt
  simp only [percentByte, List.mem_cons, List.not_mem_nil, or_false] at hb
  obtain hb | hb | hb := hb
  · exact hpercent hb
  · exact hdigit _ (by omega) hb
  · exact hdigit _ (by omega) hb

theorem notMem_encode {sep : Char} (hsep : Text.hexValue? sep = none) (hpercent : sep ≠ '%')
    {cs : List Char} (h : sep ∉ cs) : sep ∉ encode set cs := by
  intro hmem
  obtain ⟨c, hc, hmem⟩ := List.mem_flatMap.1 hmem
  rcases encodeChar_eq set c with hchar | hchar
  · rw [hchar, List.mem_singleton] at hmem
    exact h (hmem ▸ hc)
  · rw [hchar] at hmem
    exact notMem_percentChar hsep hpercent c hmem

theorem encode_ne_nil {cs : List Char} (h : cs ≠ []) : encode set cs ≠ [] := by
  obtain ⟨c, rest, rfl⟩ := List.exists_cons_of_ne_nil h
  rw [encode, List.flatMap_cons]
  rcases encodeChar_eq set c with hchar | hchar
  · simp [hchar]
  · obtain ⟨tail, htail⟩ := percentChar_eq_cons c
    simp [hchar, htail]

private theorem hexPair?_encode (hset : set.KeepsEscapes) (cs : List Char) :
    hexPair? (encode set cs) = (hexPair? cs).map fun found => (found.1, encode set found.2) := by
  have hpercent : Text.hexValue? '%' = none := by decide
  -- Only the first two characters count: a digit is kept, and what is none becomes itself or begins
  -- with `%`.
  match cs with
  | [] => rfl
  | a :: rest =>
    rw [encode, List.flatMap_cons]
    cases ha : Text.hexValue? a with
    | none =>
      rw [hexPair?_cons_eq_none ha]
      rcases encodeChar_eq set a with hchar | hchar
      · rw [hchar]
        exact hexPair?_cons_eq_none ha _
      · obtain ⟨tail, htail⟩ := percentChar_eq_cons a
        rw [hchar, htail]
        exact hexPair?_cons_eq_none hpercent _
    | some high =>
      rw [encodeChar_of_hexValue? hset ha]
      match rest with
      | [] => rfl
      | b :: more =>
        rw [List.flatMap_cons]
        cases hb : Text.hexValue? b with
        | none =>
          rw [hexPair?_cons_cons_eq_none hb]
          rcases encodeChar_eq set b with hchar | hchar
          · rw [hchar]
            exact hexPair?_cons_cons_eq_none hb a _
          · obtain ⟨tail, htail⟩ := percentChar_eq_cons b
            rw [hchar, htail]
            exact hexPair?_cons_cons_eq_none hpercent a _
        | some low =>
          rw [encodeChar_of_hexValue? hset hb]
          simp only [hexPair?, List.cons_append, List.nil_append, ha, hb]
          rfl

theorem decodedBytes_encode (hset : set.KeepsEscapes) (cs : List Char) :
    decodedBytes (encode set cs) = decodedBytes cs := by
  induction cs using escape_induction with
  | nil => rfl
  | escape rest byte behind hpair ih =>
    have hlater : hexPair? (encode set rest) = some (byte, encode set behind) := by
      rw [hexPair?_encode hset, hpair]
      rfl
    have hkept : encode set ('%' :: rest) = '%' :: encode set rest := by
      have hpercent : '%' ∉ set := fun hmem => (hset '%' hmem).1 rfl
      simp [encode, encodeChar, isOutsidePrintable, hpercent]
    rw [hkept, decodedBytes_escape hlater, decodedBytes_escape hpair, ih]
  | cons c rest hc ih =>
    rw [decodedBytes_cons hc, encode, List.flatMap_cons]
    rcases encodeChar_eq set c with hchar | hchar
    · have hlater : c = '%' → hexPair? (encode set rest) = none := by
        intro h
        rw [hexPair?_encode hset, hc h]
        rfl
      rw [hchar, ← ih]
      exact decodedBytes_cons hlater
    · rw [hchar, decodedBytes_percentChar, ← ih]
      rfl

theorem keepsEscapes_pathSet : pathSet.KeepsEscapes := by
  unfold EncodeSet.KeepsEscapes
  exact List.all_iff_forall_prop.1 (by decide)

end Encoding

end Pinning.Url
