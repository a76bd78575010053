import Pinning.Text.Split
import Pinning.Text.Utf8
/-!
Texts as bytes and as fields. A text is determined by its bytes, leaving characters out makes it
shorter, and the fields of two texts with a separator between them are those of the one and those of
the other.
-/

set_option autoImplicit false
set_option relaxedAutoImplicit false

namespace Pinning.Text

section Bytes

@[simp] theorem utf8Bytes_nil : utf8Bytes [] = [] := rfl

@[simp] theorem utf8Bytes_cons (c : Char) (cs : List Char) :
    utf8Bytes (c :: cs) = String.utf8EncodeChar c ++ utf8Bytes cs := List.flatMap_cons

theorem utf8Bytes_inj {cs ds : List Char} : utf8Bytes cs = utf8Bytes ds ↔ cs = ds := by
  constructor
  · intro h
    have hencode : cs.utf8Encode = ds.utf8Encode := congrArg List.toByteArray h
    have hdecode := congrArg ByteArray.utf8Decode? hencode
    rw [List.utf8Decode?_utf8Encode, List.utf8Decode?_utf8Encode] at hdecode
    simpa using hdecode
  · rintro rfl
    rfl

theorem length_utf8EncodeChar_pos (c : Char) : 0 < (String.utf8EncodeChar c).length := by
  rw [String.length_utf8EncodeChar]
  exact c.utf8Size_pos

theorem length_utf8Bytes_toList (s : String) : (utf8Bytes s.toList).length = s.utf8ByteSize := by
  have hencode : s.toByteArray = s.toList.utf8Encode := by
    rw [← String.toByteArray_ofList, String.ofList_toList]
  rw [← String.size_toByteArray, hencode]
  simp [List.utf8Encode, utf8Bytes]

theorem length_le_utf8ByteSize (s : String) : s.length ≤ s.utf8ByteSize := by
  have hchars : ∀ cs : List Char, cs.length ≤ (utf8Bytes cs).length := by
    intro cs
    induction cs with
    | nil => simp
    | cons c rest ih =>
      have hpos := length_utf8EncodeChar_pos c
      simp only [utf8Bytes_cons, List.length_append, List.length_cons]
      omega
  rw [← length_utf8Bytes_toList, ← String.length_toList]
  exact hchars s.toList

theorem length_utf8Bytes_le_of_sublist {cs ds : List Char} (h : cs.Sublist ds) :
    (utf8Bytes cs).length ≤ (utf8Bytes ds).length := by
  induction h with
  | slnil => exact Nat.le_refl _
  | cons c _ ih =>
    simp only [utf8Bytes_cons, List.length_append]
    omega
  | cons_cons c _ ih =>
    simp only [utf8Bytes_cons, List.length_append]
    omega

theorem eq_of_sublist_of_length_le {cs ds : List Char} (h : cs.Sublist ds)
    (hlength : (utf8Bytes ds).length ≤ (utf8Bytes cs).length) : cs = ds := by
  induction h with
  | slnil => rfl
  | @cons cs ds c hsub ih =>
    have hle := length_utf8Bytes_le_of_sublist hsub
    have hpos := length_utf8EncodeChar_pos c
    simp only [utf8Bytes_cons, List.length_append] at hlength
    omega
  | cons_cons c _ ih =>
    simp only [utf8Bytes_cons, List.length_append] at hlength
    rw [ih (by omega)]

end Bytes

section Fields

variable {sep : Char}

theorem fields_ne_nil (sep : Char) (cs : List Char) : fields sep cs ≠ [] := by
  cases cs with
  | nil => simp [fields]
  | cons c rest =>
    rw [fields]
    split
    · simp
    · split <;> simp

theorem fields_append (before behind : List Char) :
    fields sep (before ++ sep :: behind) = fields sep before ++ fields sep behind := by
  induction before with
  | nil => simp [fields]
  | cons c rest ih =>
    simp only [List.cons_append, fields, ih]
    split
    · rfl
    · cases hfields : fields sep rest with
      | nil => exact absurd hfields (fields_ne_nil sep rest)
      | cons first more => rfl

theorem length_fields (cs : List Char) : (fields sep cs).length = cs.count sep + 1 := by
  induction cs with
  | nil => rfl
  | cons c rest ih =>
    rw [fields]
    split
    · next hc => rw [hc, List.count_cons_self, List.length_cons, ih]
    · next hc =>
      rw [List.count_cons_of_ne hc]
      cases hfields : fields sep rest with
      | nil => exact absurd hfields (fields_ne_nil sep rest)
      | cons first more =>
        rw [hfields] at ih
        exact ih

theorem fields_eq_singleton {cs : List Char} (h : sep ∉ cs) : fields sep cs = [cs] := by
  induction cs with
  | nil => rfl
  | cons c rest ih =>
    have hc : c ≠ sep := fun heq => h (heq ▸ List.mem_cons_self)
    have hrest : sep ∉ rest := fun hmem => h (List.mem_cons_of_mem c hmem)
    simp only [fields, if_neg hc, ih hrest]

theorem fields_append_of_notMem {added : List Char} (h : sep ∉ added) (cs : List Char) :
    ∃ front last, fields sep cs = front ++ [last]
      ∧ fields sep (cs ++ added) = front ++ [last ++ added] := by
  induction cs with
  | nil => exact ⟨[], [], rfl, fields_eq_singleton h⟩
  | cons c rest ih =>
    obtain ⟨front, last, hrest, hadded⟩ := ih
    rw [List.cons_append, fields, fields, hrest, hadded]
    split
    · exact ⟨[] :: front, last, rfl, rfl⟩
    · cases front with
      | nil => exact ⟨[], c :: last, rfl, rfl⟩
      | cons first more => exact ⟨(c :: first) :: more, last, rfl, rfl⟩

theorem fields_intercalate {texts : List (List Char)} (hne : texts ≠ [])
    (h : ∀ text ∈ texts, sep ∉ text) :
    fields sep ([sep].intercalate texts) = texts := by
  induction texts with
  | nil => exact absurd rfl hne
  | cons first rest ih =>
    have hfirst := h first List.mem_cons_self
    cases rest with
    | nil => rw [List.intercalate_singleton, fields_eq_singleton hfirst]
    | cons second more =>
      have hrest := ih (List.cons_ne_nil _ _) fun text htext =>
        h text (List.mem_cons_of_mem first htext)
      rw [List.intercalate_cons_cons, List.append_assoc, List.singleton_append, fields_append,
        fields_eq_singleton hfirst, hrest, List.singleton_append]

end Fields

end Pinning.Text
