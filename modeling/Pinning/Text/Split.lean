/-!
Cutting a text at one character. `cutFirst?` and `cutLast?` return what stands before and after the
first or the last occurrence of a separator, `fields` cuts at every occurrence, and `after?` removes
a fixed beginning. The lemmas say that cutting is undone by writing the separator back.
-/

set_option autoImplicit false
set_option relaxedAutoImplicit false

namespace Pinning.Text

def cutFirst? (sep : Char) : List Char → Option (List Char × List Char)
  | [] => none
  | c :: rest =>
    if c = sep then some ([], rest)
    else (cutFirst? sep rest).map fun (before, behind) => (c :: before, behind)

def cutLast? (sep : Char) : List Char → Option (List Char × List Char)
  | [] => none
  | c :: rest =>
    match cutLast? sep rest with
    | some (before, behind) => some (c :: before, behind)
    | none => if c = sep then some ([], rest) else none

/-- The texts between the occurrences of `sep`; there is one more of them than occurrences. -/
def fields (sep : Char) : List Char → List (List Char)
  | [] => [[]]
  | c :: rest =>
    if c = sep then [] :: fields sep rest
    else match fields sep rest with
      | [] => [[c]]
      | first :: more => (c :: first) :: more

def after? : List Char → List Char → Option (List Char)
  | [], cs => some cs
  | _ :: _, [] => none
  | p :: ps, c :: cs => if p = c then after? ps cs else none

theorem eq_of_cutFirst? {sep : Char} {cs before behind : List Char}
    (h : cutFirst? sep cs = some (before, behind)) :
    cs = before ++ sep :: behind ∧ sep ∉ before := by
  induction cs generalizing before with
  | nil => simp [cutFirst?] at h
  | cons c rest ih =>
    by_cases hc : c = sep
    · simp only [cutFirst?, hc, if_true, Option.some.injEq, Prod.mk.injEq] at h
      obtain ⟨rfl, rfl⟩ := h
      simp [hc]
    · simp only [cutFirst?, hc, if_false, Option.map_eq_some_iff, Prod.mk.injEq] at h
      obtain ⟨⟨b, a⟩, hcut, rfl, rfl⟩ := h
      obtain ⟨rfl, hb⟩ := ih hcut
      exact ⟨rfl, by simp [hb, Ne.symm hc]⟩

theorem cutFirst?_eq_some_iff {sep : Char} {cs before behind : List Char} :
    cutFirst? sep cs = some (before, behind) ↔ cs = before ++ sep :: behind ∧ sep ∉ before := by
  constructor
  · exact eq_of_cutFirst?
  · rintro ⟨rfl, hbefore⟩
    induction before with
    | nil => simp [cutFirst?]
    | cons c before ih =>
      have hc : c ≠ sep := fun heq => hbefore (heq ▸ List.mem_cons_self)
      have hrest : sep ∉ before := fun hmem => hbefore (List.mem_cons_of_mem c hmem)
      rw [List.cons_append, cutFirst?, if_neg hc, ih hrest]
      rfl

theorem cutFirst?_eq_none_iff {sep : Char} {cs : List Char} :
    cutFirst? sep cs = none ↔ sep ∉ cs := by
  induction cs with
  | nil => simp [cutFirst?]
  | cons c rest ih =>
    by_cases hc : c = sep
    · simp [cutFirst?, hc]
    · simp [cutFirst?, hc, ih, Ne.symm hc]

theorem cutLast?_eq_none_iff {sep : Char} {cs : List Char} :
    cutLast? sep cs = none ↔ sep ∉ cs := by
  induction cs with
  | nil => simp [cutLast?]
  | cons c rest ih =>
    simp only [cutLast?]
    split
    · next hcut => simp_all
    · next hcut =>
      have hrest := ih.1 hcut
      by_cases hc : c = sep
      · simp [hc]
      · simp [hc, hrest, Ne.symm hc]

theorem eq_of_cutLast? {sep : Char} {cs before behind : List Char}
    (h : cutLast? sep cs = some (before, behind)) :
    cs = before ++ sep :: behind ∧ sep ∉ behind := by
  induction cs generalizing before with
  | nil => simp [cutLast?] at h
  | cons c rest ih =>
    simp only [cutLast?] at h
    split at h
    · next b a hcut =>
      obtain ⟨rfl, rfl⟩ := by simpa using h
      obtain ⟨rfl, hb⟩ := ih hcut
      exact ⟨rfl, hb⟩
    · next hcut =>
      by_cases hc : c = sep
      · simp only [hc, if_true, Option.some.injEq, Prod.mk.injEq] at h
        obtain ⟨rfl, rfl⟩ := h
        exact ⟨by simp [hc], cutLast?_eq_none_iff.1 hcut⟩
      · simp [hc] at h

theorem cutLast?_eq_some_iff {sep : Char} {cs before behind : List Char} :
    cutLast? sep cs = some (before, behind) ↔ cs = before ++ sep :: behind ∧ sep ∉ behind := by
  constructor
  · exact eq_of_cutLast?
  · rintro ⟨rfl, hbehind⟩
    induction before with
    | nil => simp [cutLast?, cutLast?_eq_none_iff.2 hbehind]
    | cons c before ih => rw [List.cons_append, cutLast?, ih]

theorem after?_append (p cs : List Char) : after? p (p ++ cs) = some cs := by
  induction p with
  | nil => rfl
  | cons c p ih => simp [after?, ih]

theorem eq_of_after? {p cs rest : List Char} (h : after? p cs = some rest) : cs = p ++ rest := by
  induction p generalizing cs with
  | nil => simpa [after?] using h
  | cons c p ih =>
    match cs with
    | [] => simp [after?] at h
    | d :: cs =>
      by_cases hd : c = d
      · subst hd
        simp only [after?, if_true] at h
        simp [ih h]
      · simp [after?, hd] at h

theorem after?_eq_some_iff {p cs rest : List Char} : after? p cs = some rest ↔ cs = p ++ rest := by
  constructor
  · exact eq_of_after?
  · rintro rfl
    exact after?_append p rest

end Pinning.Text
