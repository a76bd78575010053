import Pinning.Proofs.Text.Blank
import Pinning.Spec
/-!
How a spec is divided. A version is what stands behind the last `@` of the trimmed text, if
something stands there and something stands in front of it; joining a name and a version with an
`@`, between any blank characters, is undone.
-/

set_option autoImplicit false
set_option relaxedAutoImplicit false

namespace Pinning.Spec

theorem divide_eq_some_iff {cs name version : List Char} :
    divide cs = (name, some version)
      ↔ cs = name ++ '@' :: version ∧ name ≠ [] ∧ version ≠ [] ∧ '@' ∉ version := by
  constructor
  · intro h
    rw [divide] at h
    split at h
    · next before behind hcut =>
      obtain ⟨hcs, hbehind⟩ := Text.cutLast?_eq_some_iff.1 hcut
      split at h
      · cases h
      · next hbefore =>
        obtain ⟨rfl, hversion⟩ := Prod.mk.inj h
        split at hversion
        · cases hversion
        · next hfilled =>
          obtain rfl := Option.some.inj hversion
          exact ⟨hcs, by simpa using hbefore, by simpa using hfilled, hbehind⟩
    · cases h
  · rintro ⟨hcs, hname, hversion, hfree⟩
    have hcut : Text.cutLast? '@' cs = some (name, version) :=
      Text.cutLast?_eq_some_iff.2 ⟨hcs, hfree⟩
    rw [divide, hcut]
    simp [hname, hversion]

/-- There is no version if there is no `@`, if the last one is the first character, or if nothing
stands behind it. -/
theorem divide_snd_eq_none_iff {cs : List Char} :
    (divide cs).2 = none
      ↔ '@' ∉ cs ∨ (∃ rest, cs = '@' :: rest ∧ '@' ∉ rest) ∨ ∃ front, cs = front ++ ['@'] := by
  cases hcut : Text.cutLast? '@' cs with
  | none =>
    have hfree := Text.cutLast?_eq_none_iff.1 hcut
    simp [divide, hcut, hfree]
  | some parts =>
    obtain ⟨before, behind⟩ := parts
    obtain ⟨hcs, hbehind⟩ := Text.cutLast?_eq_some_iff.1 hcut
    have hmem : '@' ∈ cs := by simp [hcs]
    -- The text is cut in one way, so its first and its last character say which part is missing.
    have hfirst : (∃ rest, cs = '@' :: rest ∧ '@' ∉ rest) ↔ before = [] := by
      constructor
      · rintro ⟨rest, hrest, hfree⟩
        have hother : Text.cutLast? '@' cs = some ([], rest) :=
          Text.cutLast?_eq_some_iff.2 ⟨hrest, hfree⟩
        exact congrArg Prod.fst (Option.some.inj (hcut.symm.trans hother))
      · rintro rfl
        exact ⟨behind, hcs, hbehind⟩
    have hlast : (∃ front, cs = front ++ ['@']) ↔ behind = [] := by
      constructor
      · rintro ⟨front, hfront⟩
        have hother : Text.cutLast? '@' cs = some (front, []) :=
          Text.cutLast?_eq_some_iff.2 ⟨hfront, List.not_mem_nil⟩
        exact congrArg Prod.snd (Option.some.inj (hcut.symm.trans hother))
      · rintro rfl
        exact ⟨before, hcs⟩
    rw [hfirst, hlast, divide, hcut]
    cases before <;> cases behind <;> simp [hmem]

section Parse

variable {written text version : String}

theorem parse_of_isTrimOf (h : Text.IsTrimOf text.toList written.toList) :
    parse written = {
      name := String.ofList (divide text.toList).1
      version := (divide text.toList).2.map String.ofList
      raw := text } := by
  have htrim := Text.trim_eq_iff.2 h
  simp only [parse, htrim, String.ofList_toList]

theorem raw_eq_of_isTrimOf (h : Text.IsTrimOf text.toList written.toList) :
    (parse written).raw = text := by
  rw [parse_of_isTrimOf h]

theorem isTrimOf_raw (written : String) :
    Text.IsTrimOf (parse written).raw.toList written.toList := by
  rw [parse, String.toList_ofList]
  exact Text.isTrimOf_trim written.toList

theorem name_eq (written : String) :
    (parse written).name = String.ofList (divide (parse written).raw.toList).1 := by
  simp only [parse, String.toList_ofList]

theorem version_eq (written : String) :
    (parse written).version = (divide (parse written).raw.toList).2.map String.ofList := by
  simp only [parse, String.toList_ofList]

theorem raw_eq_of_version (h : (parse written).version = some version) :
    (parse written).raw = (parse written).name ++ "@" ++ version
      ∧ (parse written).name ≠ "" ∧ version ≠ "" ∧ '@' ∉ version.toList := by
  rw [version_eq] at h
  obtain ⟨behind, hbehind, rfl⟩ := Option.map_eq_some_iff.1 h
  have hboth : divide (parse written).raw.toList
      = ((divide (parse written).raw.toList).1, some behind) := by
    rw [← hbehind]
  obtain ⟨hcs, hname, hversion, hfree⟩ := divide_eq_some_iff.1 hboth
  rw [name_eq]
  refine ⟨?_, by simpa using hname, by simpa using hversion, by simpa using hfree⟩
  apply String.toList_inj.1
  simpa using hcs

theorem version_ne_empty (h : (parse written).version = some version) : version ≠ "" :=
  (raw_eq_of_version h).2.2.1

theorem version_eq_none_iff :
    (parse written).version = none
      ↔ '@' ∉ (parse written).raw.toList
        ∨ (∃ rest, (parse written).raw.toList = '@' :: rest ∧ '@' ∉ rest)
        ∨ ∃ front, (parse written).raw.toList = front ++ ['@'] := by
  rw [version_eq, Option.map_eq_none_iff, divide_snd_eq_none_iff]

theorem parse_raw (written : String) : parse (parse written).raw = parse written := by
  have htrim := isTrimOf_raw written
  rw [parse_of_isTrimOf htrim.1.isTrimOf_self, ← parse_of_isTrimOf htrim]

/-- Name and version can be told from the text that joins them: none is empty, the version holds no
`@`, and no blank character stands at the outer ends. -/
structure IsJoinable (name version : String) : Prop where
  named : name ≠ ""
  begins : ∀ c ∈ name.toList.head?, Text.isBlank c = false
  versioned : version ≠ ""
  free : '@' ∉ version.toList
  ends : ∀ c ∈ version.toList.getLast?, Text.isBlank c = false

theorem parse_join {name front back : String} (h : IsJoinable name version)
    (hfront : Text.IsGap front.toList) (hback : Text.IsGap back.toList) :
    parse (front ++ name ++ "@" ++ version ++ back)
      = { name, version := some version, raw := name ++ "@" ++ version } := by
  have hname : name.toList ≠ [] := by simpa using h.named
  have hversion : version.toList ≠ [] := by simpa using h.versioned
  have hjoined : (name ++ "@" ++ version).toList = name.toList ++ '@' :: version.toList := by simp
  have htrimmed : Text.IsTrimmed (name ++ "@" ++ version).toList := by
    obtain ⟨first, more, hfirst⟩ := List.exists_cons_of_ne_nil hname
    obtain ⟨last, hlast⟩ : ∃ last, version.toList.getLast? = some last :=
      Option.isSome_iff_exists.1 (by simpa using hversion)
    rw [hjoined]
    constructor
    · intro c hc
      apply h.begins c
      rw [hfirst] at hc ⊢
      exact hc
    · intro c hc
      apply h.ends c
      rw [List.getLast?_append, List.getLast?_cons, hlast] at hc
      rw [hlast]
      exact hc
  have htrim : Text.IsTrimOf
      (name ++ "@" ++ version).toList (front ++ name ++ "@" ++ version ++ back).toList := by
    refine ⟨htrimmed, front.toList, back.toList, hfront, hback, ?_⟩
    simp
  have hdivide : divide (name ++ "@" ++ version).toList = (name.toList, some version.toList) :=
    divide_eq_some_iff.2 ⟨hjoined, hname, hversion, h.free⟩
  rw [parse_of_isTrimOf htrim, hdivide]
  simp

/-- A spec is divided at the last `@` of its text, which is what was written without the blank
characters at the ends. A name and a version that can be told from the text that joins them are read
back from it, whatever blank characters stand around, and reading the text of a spec gives the spec.
-/
theorem parse_inverts_joining (written : String) :
    Text.IsTrimOf (parse written).raw.toList written.toList
      ∧ (∀ version, (parse written).version = some version →
        (parse written).raw = (parse written).name ++ "@" ++ version
          ∧ (parse written).name ≠ "" ∧ version ≠ "" ∧ '@' ∉ version.toList)
      ∧ ((parse written).version = none
        ↔ '@' ∉ (parse written).raw.toList
          ∨ (∃ rest, (parse written).raw.toList = '@' :: rest ∧ '@' ∉ rest)
          ∨ ∃ front, (parse written).raw.toList = front ++ ['@'])
      ∧ (∀ front name version back : String, IsJoinable name version → Text.IsGap front.toList →
        Text.IsGap back.toList → written = front ++ name ++ "@" ++ version ++ back →
        parse written = { name, version := some version, raw := name ++ "@" ++ version })
      ∧ parse (parse written).raw = parse written := by
  refine ⟨isTrimOf_raw written,
    fun version => raw_eq_of_version, version_eq_none_iff, ?_, parse_raw written⟩
  rintro front name version back hjoinable hfront hback rfl
  exact parse_join hjoinable hfront hback

/-- Blank characters of Unicode around a spec are left out, and those beside its last `@` are kept.
-/
theorem parse_inverts_joining_wideBlanks :
    (parse "\u3000\t@scope/tool @ 1.0\u2028").raw = "@scope/tool @ 1.0"
      ∧ (parse "\u3000\t@scope/tool @ 1.0\u2028").version = some " 1.0"
      ∧ (parse "\u3000\t@scope/tool @ 1.0\u2028").name ≠ "" := by
  have hbegins : ∀ c ∈ "@scope/tool ".toList.head?, Text.isBlank c = false := by
    rintro _ ⟨⟩
    decide
  have hends : ∀ c ∈ " 1.0".toList.getLast?, Text.isBlank c = false := by
    rintro _ ⟨⟩
    decide
  have hjoinable : IsJoinable "@scope/tool " " 1.0" :=
    ⟨by decide, hbegins, by decide, by decide, hends⟩
  have hread := (parse_inverts_joining "\u3000\t@scope/tool @ 1.0\u2028").2.2.2.1 "\u3000\t"
    "@scope/tool " " 1.0"
    "\u2028" hjoinable (by decide) (by decide) (by decide)
  have hversion := congrArg Spec.version hread
  have hname := ((parse_inverts_joining "\u3000\t@scope/tool @ 1.0\u2028").2.1 " 1.0" hversion).2.1
  exact ⟨congrArg Spec.raw hread, hversion, hname⟩

end Parse

end Pinning.Spec
