import Pinning.Text.Blank
/-!
Trimming, without the recursion. The trimmed text is what stands between two runs of blank
characters and neither begins nor ends with one; a text has only one such part.
-/

set_option autoImplicit false
set_option relaxedAutoImplicit false

namespace Pinning.Text

/-- A run of blank characters, which may be empty. -/
def IsGap (cs : List Char) : Prop := ∀ c ∈ cs, isBlank c = true

instance (cs : List Char) : Decidable (IsGap cs) :=
  List.decidableBAll (fun c => isBlank c = true) cs

structure IsTrimmed (cs : List Char) : Prop where
  begins : ∀ c ∈ cs.head?, isBlank c = false
  ends : ∀ c ∈ cs.getLast?, isBlank c = false

/-- The text is another one without the blank characters at its ends. -/
def IsTrimOf (text cs : List Char) : Prop :=
  IsTrimmed text ∧ ∃ front back, IsGap front ∧ IsGap back ∧ cs = front ++ text ++ back

theorem IsGap.reverse {cs : List Char} (h : IsGap cs) : IsGap cs.reverse := by
  intro c hc
  exact h c (List.mem_reverse.1 hc)

section Start

theorem trimStart_of_not_blank {c : Char} {rest : List Char} (h : isBlank c = false) :
    trimStart (c :: rest) = c :: rest := by
  rw [trimStart, h]
  rfl

theorem trimStart_eq_self {cs : List Char} (h : ∀ c ∈ cs.head?, isBlank c = false) :
    trimStart cs = cs := by
  cases cs with
  | nil => rfl
  | cons c rest => exact trimStart_of_not_blank (h c rfl)

theorem trimStart_gap {cs : List Char} (h : IsGap cs) : trimStart cs = [] := by
  have hnil := trimStart_blank_append cs [] h
  rwa [List.append_nil] at hnil

theorem not_blank_of_head?_trimStart (cs : List Char) :
    ∀ c ∈ (trimStart cs).head?, isBlank c = false := by
  induction cs with
  | nil =>
    intro c hc
    cases hc
  | cons d rest ih =>
    cases hd : isBlank d with
    | true => simpa only [trimStart, hd, if_true] using ih
    | false =>
      rw [trimStart_of_not_blank hd]
      intro c hc
      obtain rfl : d = c := Option.some.inj hc
      exact hd

theorem exists_gap_append_trimStart (cs : List Char) :
    ∃ front, IsGap front ∧ cs = front ++ trimStart cs := by
  induction cs with
  | nil => exact ⟨[], by simp [IsGap], rfl⟩
  | cons d rest ih =>
    cases hd : isBlank d with
    | true =>
      obtain ⟨front, hfront, hrest⟩ := ih
      refine ⟨d :: front, List.forall_mem_cons.2 ⟨hd, hfront⟩, ?_⟩
      simp only [trimStart, hd, if_true]
      rw [List.cons_append, ← hrest]
    | false =>
      refine ⟨[], by simp [IsGap], ?_⟩
      rw [trimStart_of_not_blank hd, List.nil_append]

theorem trimStart_append (cs ds : List Char) :
    trimStart (cs ++ ds) = if trimStart cs = [] then trimStart ds else trimStart cs ++ ds := by
  induction cs with
  | nil => rfl
  | cons d rest ih =>
    cases hd : isBlank d with
    | true => simpa only [List.cons_append, trimStart, hd, if_true] using ih
    | false => simp [trimStart_of_not_blank hd]

end Start

section End

theorem trimEnd_eq_reverse (cs : List Char) : trimEnd cs = (trimStart cs.reverse).reverse := by
  induction cs with
  | nil => rfl
  | cons c rest ih =>
    rw [List.reverse_cons, trimStart_append]
    split
    · next hblank =>
      have hrest : trimEnd rest = [] := by rw [ih, hblank, List.reverse_nil]
      cases hc : isBlank c <;> simp [trimEnd, trimStart, hrest, hc]
    · next hfilled =>
      have hrest : trimEnd rest ≠ [] := by
        rw [ih]
        simpa using hfilled
      obtain ⟨first, others, hcons⟩ := List.exists_cons_of_ne_nil hrest
      rw [List.reverse_append, ← ih, trimEnd, hcons]
      rfl

theorem trimEnd_append_gap (cs : List Char) {back : List Char} (h : IsGap back) :
    trimEnd (cs ++ back) = trimEnd cs := by
  rw [trimEnd_eq_reverse, List.reverse_append, trimStart_blank_append _ _ h.reverse,
    ← trimEnd_eq_reverse]

theorem trimEnd_eq_self {cs : List Char} (h : ∀ c ∈ cs.getLast?, isBlank c = false) :
    trimEnd cs = cs := by
  rw [trimEnd_eq_reverse, trimStart_eq_self, List.reverse_reverse]
  rwa [List.head?_reverse]

theorem not_blank_of_getLast?_trimEnd (cs : List Char) :
    ∀ c ∈ (trimEnd cs).getLast?, isBlank c = false := by
  rw [trimEnd_eq_reverse, List.getLast?_reverse]
  exact not_blank_of_head?_trimStart cs.reverse

theorem exists_trimEnd_append_gap (cs : List Char) :
    ∃ back, IsGap back ∧ cs = trimEnd cs ++ back := by
  obtain ⟨front, hfront, hcs⟩ := exists_gap_append_trimStart cs.reverse
  refine ⟨front.reverse, hfront.reverse, ?_⟩
  rw [trimEnd_eq_reverse, ← List.reverse_append, ← hcs, List.reverse_reverse]

end End

theorem isTrimOf_trim (cs : List Char) : IsTrimOf (trim cs) cs := by
  obtain ⟨front, hfront, hcs⟩ := exists_gap_append_trimStart cs
  obtain ⟨back, hback, hrest⟩ := exists_trimEnd_append_gap (trimStart cs)
  refine ⟨⟨?_, not_blank_of_getLast?_trimEnd _⟩, front, back, hfront, hback, ?_⟩
  · -- What is left begins as it did before its end was trimmed.
    intro c hc
    apply not_blank_of_head?_trimStart cs c
    rw [hrest, List.head?_append]
    rw [trim] at hc
    simp [Option.mem_def.1 hc]
  · rw [List.append_assoc, trim, ← hrest, ← hcs]

theorem trim_eq_iff {cs text : List Char} : trim cs = text ↔ IsTrimOf text cs := by
  constructor
  · rintro rfl
    exact isTrimOf_trim cs
  · rintro ⟨htext, front, back, hfront, hback, rfl⟩
    rw [trim, List.append_assoc, trimStart_blank_append _ _ hfront, trimStart_append]
    split
    · next hblank =>
      have hnil : text = [] := (trimStart_eq_self htext.begins).symm.trans hblank
      rw [trimStart_gap hback, hnil]
      rfl
    · rw [trimStart_eq_self htext.begins, trimEnd_append_gap _ hback, trimEnd_eq_self htext.ends]

theorem trim_append_gap (cs : List Char) {back : List Char} (h : IsGap back) :
    trim (cs ++ back) = trim cs := by
  obtain ⟨htrimmed, front, inner, hfront, hinner, hcs⟩ := isTrimOf_trim cs
  refine trim_eq_iff.2 ⟨htrimmed, front, inner ++ back, hfront, ?_, ?_⟩
  · intro c hc
    exact (List.mem_append.1 hc).elim (hinner c) (h c)
  · rw [← List.append_assoc, ← hcs]

theorem IsTrimmed.isTrimOf_self {text : List Char} (h : IsTrimmed text) : IsTrimOf text text :=
  ⟨h, [], [], by simp [IsGap], by simp [IsGap], by simp⟩

end Pinning.Text
