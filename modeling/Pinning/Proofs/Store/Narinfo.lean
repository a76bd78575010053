import Pinning.Proofs.Text
import Pinning.Proofs.Text.Blank
import Pinning.Store.Narinfo
/-!
What is read from a narinfo document, line by line. The value at a key is that of the first line
with the key, whatever other lines there are and however the lines end.
-/

set_option autoImplicit false
set_option relaxedAutoImplicit false

namespace Pinning.Store.Narinfo

open Text (cutFirst? fields trim)

def IsLineEnd (ending : List Char) : Prop := ending = ['\n'] ∨ ending = ['\r', '\n']

/-- The document is made of these lines. Each of them has an ending of its own; the last one may
lack it. -/
inductive Holds : List (List Char) → List Char → Prop
  | empty : Holds [] []
  | unended {line : List Char} (hline : '\n' ∉ line) : Holds [line] line
  | ended {line ending document : List Char} {lines : List (List Char)} (hline : '\n' ∉ line)
      (hending : IsLineEnd ending) (hlines : Holds lines document) :
      Holds (line :: lines) (line ++ ending ++ document)

/-- The line is a field with this key, and `rest` is all that stands behind its first colon. -/
def IsField (key line rest : List Char) : Prop :=
  ∃ name, line = name ++ ':' :: rest ∧ ':' ∉ name ∧ trim name = key

variable {key line value document : List Char} {lines : List (List Char)}

section Line

theorem valueAt?_eq_some_iff :
    valueAt? key line = some value ↔ ∃ rest, IsField key line rest ∧ trim rest = value := by
  rw [valueAt?, field?]
  cases hcut : cutFirst? ':' line with
  | none =>
    have hcolon := Text.cutFirst?_eq_none_iff.1 hcut
    simp only [Option.map_none, reduceCtorEq, false_iff]
    rintro ⟨rest, ⟨name, rfl, -⟩, -⟩
    simp at hcolon
  | some found =>
    obtain ⟨name, rest⟩ := found
    simp only [Option.map_some]
    constructor
    · intro h
      split at h
      · next hname =>
        obtain ⟨hline, hcolon⟩ := Text.eq_of_cutFirst? hcut
        exact ⟨rest, ⟨name, hline, hcolon, hname⟩, Option.some.inj h⟩
      · cases h
    · rintro ⟨other, ⟨before, hline, hcolon, hkey⟩, hvalue⟩
      have hsame : some (name, rest) = some (before, other) :=
        hcut.symm.trans (Text.cutFirst?_eq_some_iff.2 ⟨hline, hcolon⟩)
      obtain ⟨rfl, rfl⟩ := Prod.mk.inj (Option.some.inj hsame)
      rw [if_pos hkey, hvalue]

theorem valueAt?_eq_none_iff : valueAt? key line = none ↔ ∀ rest, ¬ IsField key line rest := by
  rw [Option.eq_none_iff_forall_ne_some]
  constructor
  · intro h rest hrest
    exact h (trim rest) (valueAt?_eq_some_iff.2 ⟨rest, hrest, rfl⟩)
  · intro h value hvalue
    obtain ⟨rest, hrest, -⟩ := valueAt?_eq_some_iff.1 hvalue
    exact h rest hrest

/-- A carriage return at the end of a line is trimmed with its value, and is nothing to a line
without a colon. -/
theorem valueAt?_append_return (key line : List Char) :
    valueAt? key (line ++ ['\r']) = valueAt? key line := by
  have hreturn : Text.IsGap ['\r'] := by decide
  rw [valueAt?, valueAt?, field?, field?]
  cases hcut : cutFirst? ':' line with
  | none =>
    have hcolon : ':' ∉ line ++ ['\r'] := by simpa using Text.cutFirst?_eq_none_iff.1 hcut
    rw [Text.cutFirst?_eq_none_iff.2 hcolon]
  | some found =>
    obtain ⟨name, rest⟩ := found
    obtain ⟨rfl, hcolon⟩ := Text.eq_of_cutFirst? hcut
    have hlater : cutFirst? ':' (name ++ ':' :: rest ++ ['\r']) = some (name, rest ++ ['\r']) :=
      Text.cutFirst?_eq_some_iff.2 ⟨by simp, hcolon⟩
    rw [hlater]
    simp only [Option.map_some, Text.trim_append_gap rest hreturn]

end Line

section Document

theorem get?_of_holds (key : List Char) (h : Holds lines document) :
    get? key document = lines.findSome? (valueAt? key) := by
  have hblank : valueAt? key [] = none := rfl
  rw [get?]
  induction h with
  | empty => simp [fields, hblank]
  | unended hline => rw [Text.fields_eq_singleton hline]
  | @ended line ending document lines hline hending _ ih =>
    -- The text up to the line feed is the line, or the line and a carriage return.
    obtain ⟨front, hfront, hsame, hwritten⟩ : ∃ front, '\n' ∉ front
        ∧ valueAt? key front = valueAt? key line
        ∧ line ++ ending ++ document = front ++ '\n' :: document := by
      obtain rfl | rfl := hending
      · exact ⟨line, hline, rfl, by simp⟩
      · exact ⟨line ++ ['\r'], by simpa using hline, valueAt?_append_return key line, by simp⟩
    rw [hwritten, Text.fields_append, Text.fields_eq_singleton hfront, List.singleton_append,
      List.findSome?_cons, List.findSome?_cons, hsame, ih]

theorem get?_eq_none_iff (h : Holds lines document) :
    get? key document = none ↔ ∀ line ∈ lines, ∀ rest, ¬ IsField key line rest := by
  rw [get?_of_holds key h, List.findSome?_eq_none_iff]
  simp only [valueAt?_eq_none_iff]

theorem get?_eq_some_iff (h : Holds lines document) :
    get? key document = some value ↔ ∃ before line after rest, lines = before ++ line :: after
      ∧ (∀ other ∈ before, ∀ rest, ¬ IsField key other rest) ∧ IsField key line rest
      ∧ trim rest = value := by
  rw [get?_of_holds key h, List.findSome?_eq_some_iff]
  simp only [valueAt?_eq_some_iff, valueAt?_eq_none_iff]
  constructor
  · rintro ⟨before, line, after, hlines, ⟨rest, hrest, hvalue⟩, hbefore⟩
    exact ⟨before, line, after, rest, hlines, hbefore, hrest, hvalue⟩
  · rintro ⟨before, line, after, rest, hlines, hbefore, hrest, hvalue⟩
    exact ⟨before, line, after, hlines, ⟨rest, hrest, hvalue⟩, hbefore⟩

theorem get?_eq_of_extra {before extra after : List (List Char)} {other : List Char}
    (h : Holds (before ++ after) document) (hother : Holds (before ++ extra ++ after) other)
    (hextra : ∀ line ∈ extra, ∀ rest, ¬ IsField key line rest) :
    get? key other = get? key document := by
  have hnone : extra.findSome? (valueAt? key) = none :=
    List.findSome?_eq_none_iff.2 fun line hline => valueAt?_eq_none_iff.2 (hextra line hline)
  rw [get?_of_holds key h, get?_of_holds key hother]
  simp only [List.findSome?_append, hnone, Option.or_none]

end Document

/-- The store path of a document is what stands behind the first colon of the first line that names
one, trimmed; there is none exactly if no line does. Other lines change nothing, wherever they are
put in or taken out, and neither does another way to end the lines. -/
theorem storePath?_exact (h : Holds lines document) :
    (storePath? document = none ↔ ∀ line ∈ lines, ∀ rest, ¬ IsField "StorePath".toList line rest)
      ∧ (∀ path, storePath? document = some path
          ↔ ∃ before line after rest, lines = before ++ line :: after
          ∧ (∀ other ∈ before, ∀ rest, ¬ IsField "StorePath".toList other rest)
          ∧ IsField "StorePath".toList line rest ∧ trim rest = path)
      ∧ ∀ before extra after other, lines = before ++ after →
        Holds (before ++ extra ++ after) other →
          (∀ line ∈ extra, ∀ rest, ¬ IsField "StorePath".toList line rest) →
          storePath? other = storePath? document := by
  refine ⟨get?_eq_none_iff h, fun path => get?_eq_some_iff h, ?_⟩
  rintro before extra after other rfl hother hextra
  exact get?_eq_of_extra h hother hextra

/-- A document with a line without a colon in front, a blank one, both ways to end a line, colons in
the value, a second store path and no ending of its last line. -/
theorem storePath?_exact_mixed :
    Holds ["StorePath".toList, [], " StorePath : /a:b ".toList, "StorePath: c".toList]
        "StorePath\r\n\n StorePath : /a:b \r\nStorePath: c".toList
      ∧ storePath? "StorePath\r\n\n StorePath : /a:b \r\nStorePath: c".toList
        = some "/a:b".toList := by
  have hholds : Holds ["StorePath".toList, [], " StorePath : /a:b ".toList, "StorePath: c".toList]
      "StorePath\r\n\n StorePath : /a:b \r\nStorePath: c".toList :=
    .ended (by decide) (.inr rfl)
      (.ended (by decide) (.inl rfl) (.ended (by decide) (.inr rfl) (.unended (by decide))))
  have hothers : ∀ line ∈ ["StorePath".toList, []], valueAt? "StorePath".toList line = none := by
    decide
  refine ⟨hholds, ((storePath?_exact hholds).2.1 _).2 ?_⟩
  exact ⟨["StorePath".toList, []], " StorePath : /a:b ".toList, ["StorePath: c".toList],
    " /a:b ".toList, rfl, fun other hother => valueAt?_eq_none_iff.1 (hothers other hother),
    ⟨" StorePath ".toList, rfl, by decide, by decide⟩, by decide⟩

end Pinning.Store.Narinfo
