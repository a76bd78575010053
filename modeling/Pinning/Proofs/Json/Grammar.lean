import Mathlib.Tactic.SplitIfs
import Pinning.Json
/-!
The JSON grammar, independent of the reader: which texts spell a value. A value may stand between
blanks, and each character of a text may be spelled in any of the ways that the grammar knows. What
is written, with and without line breaks, spells the value it was written for.
-/

set_option autoImplicit false
set_option relaxedAutoImplicit false

namespace Pinning.Json

def IsLayout (cs : List Char) : Prop := ∀ c ∈ cs, c = ' ' ∨ c = '\t' ∨ c = '\n' ∨ c = '\r'

def letterEscapes : List (Char × Char) :=
  [('"', '"'), ('\\', '\\'), ('/', '/'), ('b', Char.ofNat 8), ('f', Char.ofNat 12), ('n', '\n'),
    ('r', '\r'), ('t', '\t')]

structure FourDigits (value : Nat) (cs : List Char) : Prop where
  length : cs.length = 4
  value : (cs.mapM Text.hexValue?).map (Text.ofDigits 16) = some value

/-- The ways to write a character inside a text. -/
inductive CharSpelling : Char → List Char → Prop
  | raw {c : Char} (hcontrol : 0x20 ≤ c.toNat) (hquote : c ≠ '"') (hescape : c ≠ '\\') :
    CharSpelling c [c]
  | letter {c letter : Char} (h : (letter, c) ∈ letterEscapes) : CharSpelling c ['\\', letter]
  | unit {value : Nat} {digits : List Char} (hdigits : FourDigits value digits)
      (hscalar : value < 0xD800 ∨ 0xDFFF < value) :
    CharSpelling (Char.ofNat value) ('\\' :: 'u' :: digits)
  /-- Two surrogates for one character. -/
  | pair {high low : Nat} {first second : List Char}
      (hfirst : FourDigits high first) (hsecond : FourDigits low second)
      (hhigh : 0xD800 ≤ high ∧ high < 0xDC00) (hlow : 0xDC00 ≤ low ∧ low ≤ 0xDFFF) :
    CharSpelling (Char.ofNat (0x10000 + (high - 0xD800) * 0x400 + (low - 0xDC00)))
      ('\\' :: 'u' :: first ++ '\\' :: 'u' :: second)

/-- The ways to write a text between its quotes. -/
inductive TextSpelling : List Char → List Char → Prop
  | nil : TextSpelling [] []
  | cons {c : Char} {cs first more : List Char} (hfirst : CharSpelling c first)
      (hmore : TextSpelling cs more) :
    TextSpelling (c :: cs) (first ++ more)

def Quoted (s : String) (cs : List Char) : Prop :=
  ∃ body, cs = '"' :: body ++ ['"'] ∧ TextSpelling s.toList body

def Around (word : List Char → Prop) (cs : List Char) : Prop :=
  ∃ before inner behind, cs = before ++ inner ++ behind ∧ IsLayout before ∧ word inner
    ∧ IsLayout behind

mutual

/-- The text spells the value. A value without characters to show, and a number that is kept as it
was written, are left out. -/
def Spells : Json → List Char → Prop
  | .null => Around (· = ['n', 'u', 'l', 'l'])
  | .bool true => Around (· = ['t', 'r', 'u', 'e'])
  | .bool false => Around (· = ['f', 'a', 'l', 's', 'e'])
  | .integer value => Around (· = Text.signedDecimal value)
  | .text value => Around (Quoted value)
  | .array items => Around fun cs => ∃ inner, cs = '[' :: inner ++ [']'] ∧ SpellsItems items inner
  | .object members =>
    Around fun cs => ∃ inner, cs = '\x7b' :: inner ++ ['\x7d'] ∧ SpellsMembers members inner
  | .decimal _ => fun _ => False
  | .unreadable => fun _ => False

def SpellsItems : List Json → List Char → Prop
  | [] => IsLayout
  | [item] => Spells item
  | item :: next :: rest => fun cs =>
    ∃ first more, cs = first ++ ',' :: more ∧ Spells item first ∧ SpellsItems (next :: rest) more

def SpellsMembers : List (String × Json) → List Char → Prop
  | [] => IsLayout
  | [(key, value)] => fun cs =>
    ∃ name word, cs = name ++ ':' :: word ∧ Around (Quoted key) name ∧ Spells value word
  | (key, value) :: next :: rest => fun cs =>
    ∃ name word more, cs = name ++ ':' :: word ++ ',' :: more ∧ Around (Quoted key) name
      ∧ Spells value word
      ∧ SpellsMembers (next :: rest) more

end

mutual

/-- Every number in the value is an integer, and every text has characters. -/
def IsPlain : Json → Prop
  | .array items => ArePlain items
  | .object members => AreMembersPlain members
  | .decimal _ => False
  | .unreadable => False
  | _ => True

def ArePlain : List Json → Prop
  | [] => True
  | item :: rest => IsPlain item ∧ ArePlain rest

def AreMembersPlain : List (String × Json) → Prop
  | [] => True
  | (_, value) :: rest => IsPlain value ∧ AreMembersPlain rest

end

section Layout

theorem isLayout_nil : IsLayout [] := fun _ h => nomatch h

theorem isLayout_blank : IsLayout [' '] := fun _ h => .inl (List.mem_singleton.1 h)

theorem IsLayout.append {cs ds : List Char} (hcs : IsLayout cs) (hds : IsLayout ds) :
    IsLayout (cs ++ ds) :=
  fun c h => (List.mem_append.1 h).elim (hcs c) (hds c)

theorem isLayout_lineBreak (depth : Nat) : IsLayout (lineBreak depth) := by
  intro c hc
  rcases List.mem_cons.1 hc with rfl | hblank
  · exact .inr (.inr (.inl rfl))
  · exact .inl (List.mem_replicate.1 hblank).2

variable {word : List Char → Prop} {layout cs : List Char}

theorem Around.self (h : word cs) : Around word cs :=
  ⟨[], cs, [], by simp, isLayout_nil, h, isLayout_nil⟩

theorem Around.before (hlayout : IsLayout layout) (h : Around word cs) :
    Around word (layout ++ cs) := by
  obtain ⟨before, inner, behind, rfl, hbefore, hinner, hbehind⟩ := h
  exact ⟨layout ++ before, inner, behind, by simp, hlayout.append hbefore, hinner, hbehind⟩

theorem Around.behind (hlayout : IsLayout layout) (h : Around word cs) :
    Around word (cs ++ layout) := by
  obtain ⟨before, inner, behind, rfl, hbefore, hinner, hbehind⟩ := h
  exact ⟨before, inner, behind ++ layout, by simp, hbefore, hinner, hbehind.append hlayout⟩

theorem exists_around (j : Json) : ∃ word, ∀ cs, Spells j cs ↔ Around word cs := by
  have hnone : ∀ cs, False ↔ Around (fun _ => False) cs :=
    fun cs => ⟨False.elim, fun ⟨_, _, _, _, _, h, _⟩ => h⟩
  cases j with
  | bool value => cases value <;> exact ⟨_, fun _ => by rw [Spells]⟩
  | decimal literal => exact ⟨_, fun cs => by rw [Spells]; exact hnone cs⟩
  | unreadable => exact ⟨_, fun cs => by rw [Spells]; exact hnone cs⟩
  | _ => exact ⟨_, fun _ => by rw [Spells]⟩

theorem Spells.before {j : Json} (hlayout : IsLayout layout) (h : Spells j cs) :
    Spells j (layout ++ cs) := by
  obtain ⟨word, hword⟩ := exists_around j
  exact (hword _).2 (((hword _).1 h).before hlayout)

theorem Spells.behind {j : Json} (hlayout : IsLayout layout) (h : Spells j cs) :
    Spells j (cs ++ layout) := by
  obtain ⟨word, hword⟩ := exists_around j
  exact (hword _).2 (((hword _).1 h).behind hlayout)

theorem SpellsItems.behind {items : List Json} (hlayout : IsLayout layout)
    (h : SpellsItems items cs) :
    SpellsItems items (cs ++ layout) := by
  induction items generalizing cs with
  | nil => exact IsLayout.append h hlayout
  | cons item rest ih =>
    cases rest with
    | nil => exact Spells.behind hlayout h
    | cons next rest =>
      obtain ⟨first, more, rfl, hfirst, hmore⟩ := h
      exact ⟨first, more ++ layout, by simp, hfirst, ih hmore⟩

theorem SpellsMembers.behind {members : List (String × Json)} (hlayout : IsLayout layout)
    (h : SpellsMembers members cs) : SpellsMembers members (cs ++ layout) := by
  induction members generalizing cs with
  | nil => exact IsLayout.append h hlayout
  | cons member rest ih =>
    cases rest with
    | nil =>
      obtain ⟨name, word, rfl, hname, hword⟩ := h
      exact ⟨name, word ++ layout, by simp, hname, hword.behind hlayout⟩
    | cons next rest =>
      obtain ⟨name, word, more, rfl, hname, hword, hmore⟩ := h
      exact ⟨name, word, more ++ layout, by simp, hname, hword, ih hmore⟩

end Layout

section Written

private theorem fourDigits_control {n : Nat} (h : n < 0x20) :
    FourDigits n ['0', '0', Nat.digitChar (n / 16), Nat.digitChar (n % 16)] := by
  have hall : ∀ n, n < 0x20 →
      (['0', '0', Nat.digitChar (n / 16), Nat.digitChar (n % 16)].mapM Text.hexValue?).map
        (Text.ofDigits 16) = some n := by
    decide
  exact ⟨rfl, hall n h⟩

theorem charSpelling_textChar (c : Char) : CharSpelling c (textChar c) := by
  rw [textChar]
  split_ifs with hquote hescape hb hf hn hr ht hcontrol
  · subst hquote; exact .letter (by decide)
  · subst hescape; exact .letter (by decide)
  · subst hb; exact .letter (by decide)
  · subst hf; exact .letter (by decide)
  · subst hn; exact .letter (by decide)
  · subst hr; exact .letter (by decide)
  · subst ht; exact .letter (by decide)
  · have hunit := CharSpelling.unit (fourDigits_control hcontrol) (.inl (by omega))
    rwa [Char.ofNat_toNat] at hunit
  · exact .raw (by omega) hquote hescape

theorem quoted_textLiteral (s : String) : Quoted s (textLiteral s) := by
  have hbody : ∀ cs : List Char, TextSpelling cs (cs.flatMap textChar) := by
    intro cs
    induction cs with
    | nil => exact .nil
    | cons c cs ih => exact .cons (charSpelling_textChar c) ih
  exact ⟨_, rfl, hbody _⟩

mutual

theorem spells_compact : (j : Json) → IsPlain j → Spells j (compact j)
  | .null, _ => .self rfl
  | .bool true, _ => .self rfl
  | .bool false, _ => .self rfl
  | .integer _, _ => .self rfl
  | .text value, _ => .self (quoted_textLiteral value)
  | .array items, h => .self ⟨_, rfl, spellsItems_compact items h⟩
  | .object members, h => .self ⟨_, rfl, spellsMembers_compact members h⟩

theorem spellsItems_compact :
    (items : List Json) → ArePlain items → SpellsItems items (compact.compactItems items)
  | [], _ => isLayout_nil
  | [item], h => spells_compact item h.1
  | item :: next :: rest, h =>
    ⟨_, _, rfl, spells_compact item h.1, spellsItems_compact (next :: rest) h.2⟩

theorem spellsMembers_compact : (members : List (String × Json)) → AreMembersPlain members →
    SpellsMembers members (compact.compactMembers members)
  | [], _ => isLayout_nil
  | [(key, value)], h => ⟨_, _, rfl, .self (quoted_textLiteral key), spells_compact value h.1⟩
  | (key, value) :: next :: rest, h =>
    ⟨_, _, _, by simp [compact.compactMembers], .self (quoted_textLiteral key),
      spells_compact value h.1, spellsMembers_compact (next :: rest) h.2⟩

end

mutual

theorem spells_pretty (depth : Nat) : (j : Json) → IsPlain j → Spells j (pretty depth j)
  | .null, _ => .self rfl
  | .bool true, _ => .self rfl
  | .bool false, _ => .self rfl
  | .integer _, _ => .self rfl
  | .text value, _ => .self (quoted_textLiteral value)
  | .array [], _ => .self ⟨[], rfl, isLayout_nil⟩
  | .object [], _ => .self ⟨[], rfl, isLayout_nil⟩
  | .array (item :: rest), h =>
    .self ⟨_, rfl, (spellsItems_pretty (depth + 1) (item :: rest) h).behind
      (isLayout_lineBreak depth)⟩
  | .object (member :: rest), h =>
    .self ⟨_, rfl, (spellsMembers_pretty (depth + 1) (member :: rest) h).behind
      (isLayout_lineBreak depth)⟩

theorem spellsItems_pretty (depth : Nat) : (items : List Json) → ArePlain items →
    SpellsItems items (pretty.prettyItems depth items)
  | [], _ => isLayout_nil
  | [item], h => (spells_pretty depth item h.1).before (isLayout_lineBreak depth)
  | item :: next :: rest, h =>
    ⟨_, _, rfl, (spells_pretty depth item h.1).before (isLayout_lineBreak depth),
      spellsItems_pretty depth (next :: rest) h.2⟩

theorem spellsMembers_pretty (depth : Nat) :
    (members : List (String × Json)) → AreMembersPlain members →
    SpellsMembers members (pretty.prettyMembers depth members)
  | [], _ => isLayout_nil
  | [(key, value)], h =>
    ⟨_, _, rfl, (Around.self (quoted_textLiteral key)).before (isLayout_lineBreak depth),
      (spells_pretty depth value h.1).before isLayout_blank⟩
  | (key, value) :: next :: rest, h =>
    ⟨_, ' ' :: pretty depth value, _, by simp [pretty.prettyMembers],
      (Around.self (quoted_textLiteral key)).before (isLayout_lineBreak depth),
      (spells_pretty depth value h.1).before isLayout_blank,
      spellsMembers_pretty depth (next :: rest) h.2⟩

end

end Written

end Pinning.Json
