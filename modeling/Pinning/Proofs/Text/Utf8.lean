import Pinning.Text.Utf8
/-!
Reading UTF-8 back. The first byte of a character tells how many bytes follow and within which
bounds, so a written character is read whole, whatever stands behind it; a written text has no
faults.
-/

set_option autoImplicit false
set_option relaxedAutoImplicit false

namespace Pinning.Text

private theorem byteIn_iff {low high : Nat} {b : UInt8} :
    byteIn low high b = true ↔ low ≤ b.toNat ∧ b.toNat ≤ high := by
  rw [byteIn, Bool.and_eq_true, decide_eq_true_eq, decide_eq_true_eq]

private theorem toNat_ofNat_of_lt {n : Nat} (h : n < 256) : (UInt8.ofNat n).toNat = n := by
  rw [UInt8.toNat_ofNat']
  exact Nat.mod_eq_of_lt h

section Tail

variable {first second : UInt8} {tail rest : List UInt8}

private theorem byteIn_secondBounds (hsecond : 0x80 ≤ second.toNat ∧ second.toNat ≤ 0xBF)
    (hE0 : first.toNat = 0xE0 → 0xA0 ≤ second.toNat)
    (hED : first.toNat = 0xED → second.toNat ≤ 0x9F)
    (hF0 : first.toNat = 0xF0 → 0x90 ≤ second.toNat)
    (hF4 : first.toNat = 0xF4 → second.toNat ≤ 0x8F) :
    byteIn (secondBounds first).1 (secondBounds first).2 second = true := by
  rw [byteIn_iff, secondBounds]
  split
  · next h => exact ⟨hE0 h, hsecond.2⟩
  split
  · next h => exact ⟨hsecond.1, hED h⟩
  split
  · next h => exact ⟨hF0 h, hsecond.2⟩
  split
  · next h => exact ⟨hsecond.1, hF4 h⟩
  · exact hsecond

private theorem tailRun_cons {bounds : Nat × Nat} {count : Nat}
    (h : byteIn bounds.1 bounds.2 second = true) :
    tailRun bounds (count + 1) (second :: rest) = second :: tailRun (0x80, 0xBF) count rest := by
  rw [tailRun, if_pos h]

private theorem tailRun_append (htail : ∀ b ∈ tail, byteIn 0x80 0xBF b = true) :
    tailRun (0x80, 0xBF) tail.length (tail ++ rest) = tail := by
  induction tail with
  | nil => rfl
  | cons b more ih =>
    rw [List.length_cons, List.cons_append, tailRun_cons (htail b List.mem_cons_self),
      ih fun other hother => htail other (List.mem_cons_of_mem b hother)]

private def leadBits (first : UInt8) (length : Nat) : Nat := first.toNat % Nat.pow 2 (7 - length)

private theorem readChars_cons {v : Nat} (hlength : sequenceLength? first = some (tail.length + 2))
    (hsecond : byteIn (secondBounds first).1 (secondBounds first).2 second = true)
    (htail : ∀ b ∈ tail, byteIn 0x80 0xBF b = true)
    (hbits : (second :: tail).foldl (fun n b => n * 64 + tailBits b)
      (leadBits first (tail.length + 2)) = v) :
    readChars (first :: second :: tail ++ rest) = some (Char.ofNat v) :: readChars rest := by
  have hrun : tailRun (secondBounds first) (tail.length + 1) (second :: (tail ++ rest))
      = second :: tail := by
    rw [tailRun_cons hsecond, tailRun_append htail]
  have hread : readChar first (second :: (tail ++ rest))
      = (some (Char.ofNat v), tail.length + 1) := by
    rw [readChar, hlength]
    simp [hrun, ← hbits, leadBits]
  rw [List.cons_append, List.cons_append, readChars, hread]
  simp

end Tail

section Written

private def continuation (bits : Nat) : UInt8 := UInt8.ofNat (bits % 64 + 128)

private theorem toNat_continuation (bits : Nat) : (continuation bits).toNat = bits % 64 + 128 := by
  rw [continuation, toNat_ofNat_of_lt (by omega)]

private theorem byteIn_continuation (bits : Nat) : byteIn 0x80 0xBF (continuation bits) = true := by
  rw [byteIn_iff, toNat_continuation]
  omega

private theorem tailBits_continuation (bits : Nat) : tailBits (continuation bits) = bits % 64 := by
  rw [tailBits, toNat_continuation]
  omega

private theorem sequenceLength?_of_toNat (first : UInt8) :
    (0xC2 ≤ first.toNat ∧ first.toNat ≤ 0xDF → sequenceLength? first = some 2)
      ∧ (0xE0 ≤ first.toNat ∧ first.toNat ≤ 0xEF → sequenceLength? first = some 3)
      ∧ (0xF0 ≤ first.toNat ∧ first.toNat ≤ 0xF4 → sequenceLength? first = some 4) := by
  simp only [sequenceLength?, byteIn_iff]
  refine ⟨fun h => ?_, fun h => ?_, fun h => ?_⟩
  · rw [if_neg (by omega), if_pos h]
  · rw [if_neg (by omega), if_neg (by omega), if_pos h]
  · rw [if_neg (by omega), if_neg (by omega), if_neg (by omega), if_pos h]

theorem readChars_utf8EncodeChar_append (c : Char) (rest : List UInt8) :
    readChars (String.utf8EncodeChar c ++ rest) = some c :: readChars rest := by
  have hvalid : c.toNat < 0xD800 ∨ 0xDFFF < c.toNat ∧ c.toNat < 0x110000 := c.valid
  have hself : some (Char.ofNat c.toNat) = some c := congrArg some (Char.ofNat_toNat c)
  have hnumber : c.val.toNat = c.toNat := rfl
  rw [← hself, String.utf8EncodeChar]
  simp only [hnumber]
  generalize c.toNat = v at hvalid
  -- One case for each length. The bits are put together again as they were taken apart, and the
  -- closer bounds of a second byte hold because `v` is too large for fewer bytes and no surrogate.
  split
  · next hone =>
    have hfirst : (UInt8.ofNat v).toNat = v := toNat_ofNat_of_lt (by omega)
    have hread : readChar (UInt8.ofNat v) rest = (some (Char.ofNat v), 0) := by
      have hlength : sequenceLength? (UInt8.ofNat v) = some 1 := by
        rw [sequenceLength?, hfirst, if_pos (by omega)]
      simp [readChar, hlength, tailRun, hfirst]
    rw [List.singleton_append, readChars, hread]
    rfl
  split
  · next htwo =>
    have hfirst : (UInt8.ofNat (v / 64 % 32 + 192)).toNat = v / 64 + 192 := by
      rw [toNat_ofNat_of_lt (by omega)]
      omega
    have hsecond := toNat_continuation v
    show readChars (_ :: continuation v :: [] ++ rest) = _
    refine readChars_cons ((sequenceLength?_of_toNat _).1 (by omega)) ?_ (by simp) ?_
    · apply byteIn_secondBounds <;> omega
    · show _ % 32 * 64 + _ = v
      rw [hfirst, tailBits_continuation]
      omega
  split
  · next hthree =>
    have hfirst : (UInt8.ofNat (v / 4096 % 16 + 224)).toNat = v / 4096 + 224 := by
      rw [toNat_ofNat_of_lt (by omega)]
      omega
    have hsecond := toNat_continuation (v / 64)
    show readChars (_ :: continuation (v / 64) :: [continuation v] ++ rest) = _
    refine readChars_cons ((sequenceLength?_of_toNat _).2.1 (by omega)) ?_
      (by simp [byteIn_continuation]) ?_
    · apply byteIn_secondBounds <;> omega
    · show (_ % 16 * 64 + _) * 64 + _ = v
      rw [hfirst, tailBits_continuation, tailBits_continuation]
      omega
  · next hfour =>
    have hfirst : (UInt8.ofNat (v / 262144 % 8 + 240)).toNat = v / 262144 + 240 := by
      rw [toNat_ofNat_of_lt (by omega)]
      omega
    have hsecond := toNat_continuation (v / 4096)
    show readChars (_ :: continuation (v / 4096) :: [continuation (v / 64), continuation v] ++ rest)
      = _
    refine readChars_cons ((sequenceLength?_of_toNat _).2.2 (by omega)) ?_
      (by simp [byteIn_continuation]) ?_
    · apply byteIn_secondBounds <;> omega
    · show ((_ % 8 * 64 + _) * 64 + _) * 64 + _ = v
      rw [hfirst, tailBits_continuation, tailBits_continuation, tailBits_continuation]
      omega

end Written

theorem readChars_utf8Bytes (cs : List Char) : readChars (utf8Bytes cs) = cs.map some := by
  induction cs with
  | nil => rw [utf8Bytes, List.flatMap_nil, readChars, List.map_nil]
  | cons c rest ih =>
    rw [utf8Bytes, List.flatMap_cons, readChars_utf8EncodeChar_append]
    exact congrArg (some c :: ·) ih

theorem decodeLossy_utf8Bytes (cs : List Char) : decodeLossy (utf8Bytes cs) = cs := by
  rw [decodeLossy, readChars_utf8Bytes, List.map_map]
  exact List.map_id'' (fun _ => rfl) cs

end Pinning.Text
