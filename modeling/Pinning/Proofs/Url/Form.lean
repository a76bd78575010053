import Pinning.Proofs.Text.Utf8
import Pinning.Proofs.Url.Percent
import Pinning.Url.Form
/-!
Form encoding can be undone. The marks that divide pairs, and a name from its value, stand for
nothing else in a written form, so what is written is cut where it was joined, and every text comes
back from its written form.
-/

set_option autoImplicit false
set_option relaxedAutoImplicit false

namespace Pinning.Url.Form

/-- The characters that mean something in the written form of pairs, other than the beginning of an
escape. -/
def marks : List Char := ['&', '=', '+']

section Characters

variable {c d : Char}

private theorem notMem_marks_of_isPlain (h : isPlain c = true) : c ∉ marks ∧ c ≠ '%' := by
  have hmarks : ∀ d ∈ '%' :: marks, isPlain d = false := List.all_iff_forall_prop.1 (by decide)
  have hother : c ∉ '%' :: marks := fun hmem => by simp [hmarks c hmem] at h
  rw [List.mem_cons, not_or] at hother
  exact ⟨hother.2, hother.1⟩

private theorem notMem_marks_of_percentChar (h : d ∈ percentChar c) : d ∉ marks := by
  have hmarks : ∀ mark ∈ marks, Text.hexValue? mark = none ∧ mark ≠ '%' :=
    List.all_iff_forall_prop.1 (by decide)
  intro hmem
  obtain ⟨hdigit, hpercent⟩ := hmarks d hmem
  exact notMem_percentChar hdigit hpercent c h

theorem notMem_encode (cs : List Char) : '&' ∉ encode cs ∧ '=' ∉ encode cs := by
  have hchar : ∀ c, ∀ d ∈ encodeChar c, d ∉ marks ∨ d = '+' := by
    intro c d hd
    rw [encodeChar] at hd
    split at hd
    · next hplain =>
      obtain rfl := List.mem_singleton.1 hd
      exact .inl (notMem_marks_of_isPlain hplain).1
    split at hd
    · exact .inr (List.mem_singleton.1 hd)
    · exact .inl (notMem_marks_of_percentChar hd)
  have hall : ∀ d ∈ encode cs, d ∉ marks ∨ d = '+' := by
    intro d hd
    obtain ⟨c, -, hd⟩ := List.mem_flatMap.1 hd
    exact hchar c d hd
  constructor
  · intro hmem
    exact absurd (hall _ hmem) (by decide)
  · intro hmem
    exact absurd (hall _ hmem) (by decide)

end Characters

section Texts

private def spaced (c : Char) : Char := if c = '+' then ' ' else c

private theorem map_spaced_percentChar (c : Char) : (percentChar c).map spaced = percentChar c := by
  have hkept : ∀ d ∈ percentChar c, spaced d = d := by
    intro d hd
    have hplus : d ≠ '+' := fun heq => notMem_marks_of_percentChar hd (by simp [marks, heq])
    exact if_neg hplus
  exact (List.map_congr_left hkept).trans (List.map_id _)

private theorem decodedBytes_encodeChar (c : Char) (rest : List Char) :
    decodedBytes ((encodeChar c).map spaced ++ rest)
      = String.utf8EncodeChar c ++ decodedBytes rest := by
  rw [encodeChar]
  split
  · next hplain =>
    obtain ⟨hmarks, hpercent⟩ := notMem_marks_of_isPlain hplain
    have hkept : spaced c = c := if_neg fun heq => hmarks (by simp [marks, heq])
    rw [List.map_singleton, List.singleton_append, hkept]
    exact decodedBytes_cons fun heq => absurd heq hpercent
  split
  · next hspace =>
    subst hspace
    exact decodedBytes_cons fun heq => absurd heq (by decide)
  · rw [map_spaced_percentChar, decodedBytes_percentChar]

theorem decode_encode (cs : List Char) : decode (encode cs) = cs := by
  have hbytes : decodedBytes ((encode cs).map spaced) = Text.utf8Bytes cs := by
    induction cs with
    | nil => rfl
    | cons c rest ih =>
      rw [encode, List.flatMap_cons, List.map_append, decodedBytes_encodeChar, Text.utf8Bytes_cons]
      exact congrArg (String.utf8EncodeChar c ++ ·) ih
  rw [decode]
  show Text.decodeLossy (decodedBytes ((encode cs).map spaced)) = cs
  rw [hbytes, Text.decodeLossy_utf8Bytes]

end Texts

section Pairs

theorem decodePair_encodePair (pair : String × String) : decodePair (encodePair pair) = pair := by
  have hcut : Text.cutFirst? '=' (encodePair pair)
      = some (encode pair.1.toList, encode pair.2.toList) :=
    Text.cutFirst?_eq_some_iff.2 ⟨rfl, (notMem_encode _).2⟩
  rw [decodePair, hcut]
  simp only [decode_encode, String.ofList_toList]

theorem decodePairs_encodePairs (pairs : List (String × String)) :
    decodePairs (encodePairs pairs) = pairs := by
  cases pairs with
  | nil => rfl
  | cons first rest =>
    have hampersand : ∀ text ∈ (first :: rest).map encodePair, '&' ∉ text := by
      intro text htext
      obtain ⟨pair, -, rfl⟩ := List.mem_map.1 htext
      simp [encodePair, (notMem_encode _).1]
    have hfilled : ∀ text ∈ (first :: rest).map encodePair, (!text.isEmpty) = true := by
      intro text htext
      obtain ⟨pair, -, rfl⟩ := List.mem_map.1 htext
      simp [encodePair]
    rw [decodePairs, encodePairs, Text.fields_intercalate (by simp) hampersand,
      List.filter_eq_self.2 hfilled, List.map_map]
    exact List.map_id'' decodePair_encodePair _

end Pairs

end Pinning.Url.Form
