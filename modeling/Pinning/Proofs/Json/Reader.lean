import Pinning.Json.Reader
import Pinning.Proofs.Json.Grammar
import Pinning.Proofs.Text.Numeral
/-!
The reader is complete for the grammar: it reads every text that spells a value as that value, and
leaves what follows.
-/

set_option autoImplicit false
set_option relaxedAutoImplicit false

namespace Pinning.Json.Reader

def Ends (rest : List Char) : Prop :=
  ∀ c, rest.head? = some c → Text.isDigit c = false ∧ c ≠ '.' ∧ c ≠ 'e' ∧ c ≠ 'E'

theorem ends_nil : Ends [] := fun _ h => nomatch h

theorem ends_cons {c : Char} {rest : List Char}
    (h : c ∈ [' ', '\t', '\n', '\r', ',', ']', '\x7d']) :
    Ends (c :: rest) := by
  intro d hd
  obtain rfl := Option.some.inj hd
  simp only [List.mem_cons, List.not_mem_nil, or_false] at h
  rcases h with rfl | rfl | rfl | rfl | rfl | rfl | rfl <;> decide

theorem ends_layout {layout rest : List Char} (hlayout : IsLayout layout) (hrest : Ends rest) :
    Ends (layout ++ rest) := by
  cases layout with
  | nil => exact hrest
  | cons c more =>
    refine ends_cons ?_
    rcases hlayout c List.mem_cons_self with rfl | rfl | rfl | rfl <;> simp

section Blanks

theorem skipBlanks_layout {layout : List Char} (h : IsLayout layout) (rest : List Char) :
    skipBlanks (layout ++ rest) = skipBlanks rest := by
  induction layout with
  | nil => rfl
  | cons c more ih =>
    have hc := h c List.mem_cons_self
    rw [List.cons_append, skipBlanks, if_pos hc, ih fun d hd => h d (List.mem_cons_of_mem c hd)]

theorem skipBlanks_of_not_blank {c : Char} (rest : List Char)
    (h : ¬(c = ' ' ∨ c = '\t' ∨ c = '\n' ∨ c = '\r')) :
    skipBlanks (c :: rest) = c :: rest := by
  rw [skipBlanks, if_neg h]

end Blanks

section Texts

theorem pieces?_unit {value : Nat} {digits : List Char} (h : FourDigits value digits)
    (rest : List Char) :
    pieces? ('\\' :: 'u' :: digits ++ rest)
      = (pieces? rest).map fun (more, after) => (.unit value :: more, after) := by
  obtain ⟨a, b, c, d, rfl⟩ : ∃ a b c d, digits = [a, b, c, d] := by
    match digits, h.length with
    | [a, b, c, d], _ => exact ⟨a, b, c, d, rfl⟩
  have hvalue : fourHex? a b c d = some value := by
    have hread := h.value
    rw [fourHex?]
    cases hdigits : [a, b, c, d].mapM Text.hexValue? with
    | none =>
      rw [hdigits] at hread
      cases hread
    | some values =>
      rw [hdigits] at hread
      exact hread
  show pieces? ('\\' :: 'u' :: a :: b :: c :: d :: rest) = _
  rw [pieces?, hvalue]
  cases pieces? rest <;> rfl

theorem pieces?_letter {letter : Char} (h : letter ≠ 'u') {c : Char}
    (hc : shortEscape? letter = some c) (rest : List Char) :
    pieces? ('\\' :: letter :: rest)
      = (pieces? rest).map fun (more, after) => (.char c :: more, after) := by
  rw [pieces?, hc]
  · cases pieces? rest <;> rfl
  · intro _ _ _ _ _ hletter _
    exact h hletter

theorem pieces?_of_charSpelling {c : Char} {first : List Char} (h : CharSpelling c first) :
    ∃ pieces,
      (∀ rest, pieces? (first ++ rest)
          = (pieces? rest).map fun (more, after) => (pieces ++ more, after))
      ∧ ∀ more, characters? (pieces ++ more) = (characters? more).map (c :: ·) := by
  cases h with
  | raw hcontrol hquote hescape =>
    have hallowed : ¬(c.toNat < 0x20 ∨ c = '\\') := by
      rintro (hlt | heq)
      · omega
      · exact hescape heq
    refine ⟨[.char c], fun rest => ?_, fun more => rfl⟩
    rw [List.singleton_append, pieces?]
    · rw [if_neg hallowed]
      rfl
    all_goals simp_all
  | letter h =>
    have hall : ∀ e ∈ letterEscapes, e.1 ≠ 'u' ∧ shortEscape? e.1 = some e.2 := by decide
    obtain ⟨hu, hc⟩ := hall _ h
    exact ⟨[.char c], pieces?_letter hu hc, fun more => rfl⟩
  | @unit value digits hdigits hscalar =>
    refine ⟨[.unit value], pieces?_unit hdigits, fun more => ?_⟩
    rw [List.singleton_append, characters?.eq_def]
    exact if_pos hscalar
  | @pair high low first second hfirst hsecond hhigh hlow =>
    refine ⟨[.unit high, .unit low], fun rest => ?_, fun more => ?_⟩
    · rw [List.append_assoc, pieces?_unit hfirst, List.cons_append, List.cons_append,
        ← List.cons_append, ← List.cons_append, pieces?_unit hsecond]
      cases pieces? rest <;> rfl
    · show characters? (.unit high :: .unit low :: more) = _
      rw [characters?, if_neg (by omega), if_pos hhigh.2]
      exact if_pos hlow

theorem pieces?_of_textSpelling {cs body : List Char} (h : TextSpelling cs body) :
    ∃ pieces, (∀ rest, pieces? (body ++ '"' :: rest) = some (pieces, rest))
      ∧ characters? pieces = some cs := by
  induction h with
  | nil => exact ⟨[], fun rest => rfl, rfl⟩
  | @cons c cs first more hfirst _ ih =>
    obtain ⟨pieces, hpieces, hcharacters⟩ := ih
    obtain ⟨own, hown, hc⟩ := pieces?_of_charSpelling hfirst
    refine ⟨own ++ pieces, fun rest => ?_, ?_⟩
    · rw [List.append_assoc, hown, hpieces]
      rfl
    · rw [hc, hcharacters]
      rfl

theorem textBody?_of_textSpelling {s : String} {body : List Char} (h : TextSpelling s.toList body)
    (rest : List Char) : textBody? (body ++ '"' :: rest) = some (some s, rest) := by
  obtain ⟨pieces, hpieces, hcharacters⟩ := pieces?_of_textSpelling h
  rw [textBody?, hpieces]
  simp [hcharacters]

end Texts

section Numbers

theorem wholePart?_decimal (n : Nat) {rest : List Char} (h : Ends rest) :
    wholePart? (Text.decimal n ++ rest) = some (Text.decimal n, rest) := by
  rcases Nat.eq_zero_or_pos n with rfl | hpos
  · rfl
  · have hhead := Text.head?_decimal hpos
    have hrun : digitRun (Text.decimal n ++ rest) = (Text.decimal n, rest) := by
      have hdigits : ∀ c ∈ Text.decimal n, Text.isDigit c = true :=
        fun c => Text.isDigit_of_mem_decimal
      rw [digitRun, Text.takeWhile_digits hdigits fun c hc => (h c hc).1,
        Text.dropWhile_digits hdigits fun c hc => (h c hc).1]
    cases hdecimal : Text.decimal n with
    | nil => exact absurd hdecimal (Text.decimal_ne_nil n)
    | cons c more =>
      rw [hdecimal] at hhead hrun
      have hc : c ≠ '0' := fun heq => hhead (heq ▸ rfl)
      rw [List.cons_append] at hrun ⊢
      rw [wholePart?]
      · rw [hrun]
      · intro after heq
        exact hc (List.cons.inj heq).1

theorem fraction?_of_ends {rest : List Char} (h : Ends rest) :
    fraction? rest = some ([], rest) := by
  cases rest with
  | nil => rfl
  | cons c more =>
    have hc := h c rfl
    rw [fraction?]
    intro after heq
    exact hc.2.1 (List.cons.inj heq).1

theorem exponent?_of_ends {rest : List Char} (h : Ends rest) :
    exponent? rest = some ([], rest) := by
  cases rest with
  | nil => rfl
  | cons c more =>
    have hc := h c rfl
    rw [exponent?.eq_def]
    exact if_neg (not_or.2 hc.2.2)

theorem number?_signedDecimal (n : Int) {rest : List Char} (h : Ends rest) :
    number? (Text.signedDecimal n ++ rest) = some (.integer n, rest) := by
  rw [Text.signedDecimal]
  split
  · next hneg =>
    have hvalue : -(n.natAbs : Int) = n := by omega
    have hzero : (n.natAbs == 0) = false := by simpa using (by omega : n ≠ 0)
    simp only [number?, List.cons_append, wholePart?_decimal _ h, fraction?_of_ends h,
      exponent?_of_ends h, Option.bind_eq_bind, Option.bind_some, Text.decimalValue_decimal, hzero,
      Bool.false_and, Bool.not_false, List.isEmpty_nil, List.isEmpty_cons, Bool.and_self, if_true]
    exact congrArg (fun value => some (Json.integer value, rest)) hvalue
  · next hneg =>
    have hvalue : (n.natAbs : Int) = n := by omega
    rw [number?]
    · simp only [wholePart?_decimal _ h, fraction?_of_ends h, exponent?_of_ends h,
        Option.bind_eq_bind, Option.bind_some, Text.decimalValue_decimal, List.isEmpty_nil,
        Bool.not_true, Bool.and_false, Bool.not_false, Bool.and_self, if_true]
      exact congrArg (fun value => some (Json.integer value, rest)) hvalue
    · intro more heq
      obtain ⟨c, digits, hdecimal⟩ := List.exists_cons_of_ne_nil (Text.decimal_ne_nil n.natAbs)
      have hdigit : Text.isDigit c = true :=
        Text.isDigit_of_mem_decimal (n := n.natAbs) (hdecimal ▸ List.mem_cons_self)
      rw [hdecimal] at heq
      obtain rfl := (List.cons.inj heq).1
      exact absurd hdigit (by decide)

end Numbers

section Values

variable {fuel : Nat} {rest : List Char}

theorem skipBlanks_around {word : List Char → Prop} {cs : List Char} (h : Around word cs) :
    ∃ inner behind, word inner ∧ IsLayout behind ∧ inner.length + behind.length ≤ cs.length
      ∧ ∀ rest, skipBlanks (cs ++ rest) = skipBlanks (inner ++ (behind ++ rest)) := by
  obtain ⟨before, inner, behind, rfl, hbefore, hinner, hbehind⟩ := h
  refine ⟨inner, behind, hinner, hbehind, ?_, fun rest => ?_⟩
  · simp only [List.length_append]
    omega
  · rw [List.append_assoc, List.append_assoc, skipBlanks_layout hbefore]

theorem value?_of_around {word : List Char → Prop} {cs : List Char} {j : Json} (h : Around word cs)
    (hfuel : cs.length ≤ fuel) (hrest : Ends rest)
    (hword : ∀ inner, word inner → inner.length ≤ fuel → ∀ rest, Ends rest →
      value? (fuel + 1) (inner ++ rest) = some (j, rest)) :
    ∃ left, value? (fuel + 1) (cs ++ rest) = some (j, left)
      ∧ skipBlanks left = skipBlanks rest := by
  obtain ⟨inner, behind, hinner, hbehind, hlength, hskip⟩ := skipBlanks_around h
  refine ⟨behind ++ rest, ?_, skipBlanks_layout hbehind rest⟩
  rw [value?, hskip, ← hword inner hinner (by omega) (behind ++ rest) (ends_layout hbehind hrest),
    value?]

theorem value?_number {c : Char} (h : c = '-' ∨ Text.isDigit c = true) (more : List Char) :
    value? (fuel + 1) (c :: more) = number? (c :: more) := by
  have hne : ∀ d ∈ ['"', '[', '\x7b', 'n', 't', 'f', ' ', '\t', '\n', '\r'], c ≠ d := by
    rintro d hd rfl
    simp only [List.mem_cons, List.not_mem_nil, or_false] at hd
    rcases hd with rfl | rfl | rfl | rfl | rfl | rfl | rfl | rfl | rfl | rfl
      <;> exact absurd h (by decide)
  have hskip : skipBlanks (c :: more) = c :: more := by
    refine skipBlanks_of_not_blank more ?_
    rintro (rfl | rfl | rfl | rfl) <;> exact hne _ (by simp) rfl
  rw [value?, hskip]
  split
  all_goals first
    | rfl
    | next heq => exact absurd (List.cons.inj heq).1 (hne _ (by simp))

theorem signedDecimal_eq_cons (n : Int) :
    ∃ c more, Text.signedDecimal n = c :: more ∧ (c = '-' ∨ Text.isDigit c = true) := by
  rw [Text.signedDecimal]
  split
  · exact ⟨'-', _, rfl, .inl rfl⟩
  · obtain ⟨c, digits, hdecimal⟩ := List.exists_cons_of_ne_nil (Text.decimal_ne_nil n.natAbs)
    exact ⟨c, digits, hdecimal, .inr (Text.isDigit_of_mem_decimal (hdecimal ▸ List.mem_cons_self))⟩

theorem value?_signedDecimal (n : Int) (hrest : Ends rest) :
    value? (fuel + 1) (Text.signedDecimal n ++ rest) = some (.integer n, rest) := by
  obtain ⟨c, more, hhead, hc⟩ := signedDecimal_eq_cons n
  have hread := number?_signedDecimal n hrest
  rw [hhead] at hread ⊢
  rw [List.cons_append, value?_number hc, ← hread]
  rfl

theorem skipBlanks_of_spells {j : Json} {cs : List Char} (h : Spells j cs) (rest : List Char) :
    ∃ c more, skipBlanks (cs ++ rest) = c :: more ∧ c ≠ ']' := by
  have hword : ∀ word, Around word cs → (∀ inner, word inner → ∃ c more, inner = c :: more
      ∧ c ∉ [' ', '\t', '\n', '\r', ']']) →
        ∃ c more, skipBlanks (cs ++ rest) = c :: more ∧ c ≠ ']' := by
    intro word haround hbegins
    obtain ⟨inner, behind, hinner, -, -, hskip⟩ := skipBlanks_around haround
    obtain ⟨c, more, rfl, hc⟩ := hbegins inner hinner
    have hblank : ¬(c = ' ' ∨ c = '\t' ∨ c = '\n' ∨ c = '\r') := by
      rintro (rfl | rfl | rfl | rfl) <;> exact hc (by simp)
    refine ⟨c, more ++ (behind ++ rest), ?_, fun heq => hc (by simp [heq])⟩
    rw [hskip, List.cons_append, skipBlanks_of_not_blank _ hblank]
  cases j with
  | null => exact hword _ h fun inner heq => ⟨_, _, heq, by decide⟩
  | bool value => cases value <;> exact hword _ h fun inner heq => ⟨_, _, heq, by decide⟩
  | integer value =>
    refine hword _ h fun inner heq => ?_
    obtain ⟨c, more, hhead, hc⟩ := signedDecimal_eq_cons value
    refine ⟨c, more, heq.trans hhead, ?_⟩
    intro hmem
    simp only [List.mem_cons, List.not_mem_nil, or_false] at hmem
    rcases hmem with rfl | rfl | rfl | rfl | rfl <;> exact absurd hc (by decide)
  | text value => exact hword _ h fun inner ⟨_, heq, _⟩ => ⟨_, _, heq, by decide⟩
  | array items => exact hword _ h fun inner ⟨_, heq, _⟩ => ⟨_, _, heq, by decide⟩
  | object members => exact hword _ h fun inner ⟨_, heq, _⟩ => ⟨_, _, heq, by decide⟩
  | decimal literal => exact h.elim
  | unreadable => exact h.elim

theorem skipBlanks_of_spellsItems {item : Json} {more : List Json} {cs : List Char}
    (h : SpellsItems (item :: more) cs) (rest : List Char) :
    ∃ c behind, skipBlanks (cs ++ rest) = c :: behind ∧ c ≠ ']' := by
  cases more with
  | nil => exact skipBlanks_of_spells h rest
  | cons next more =>
    obtain ⟨first, behind, rfl, hfirst, -⟩ := h
    rw [List.append_assoc]
    exact skipBlanks_of_spells hfirst _

theorem value?_quoted {s : String} {cs : List Char} (h : Quoted s cs) :
    value? (fuel + 1) (cs ++ rest) = some (.text s, rest) := by
  obtain ⟨body, rfl, hbody⟩ := h
  have hread := textBody?_of_textSpelling hbody rest
  show Option.map _ (textBody? (body ++ ['"'] ++ rest)) = _
  rw [List.append_assoc, List.singleton_append, hread]
  rfl

theorem mapM_map_eq_some {α β : Type} {read : β → Option α} {write : α → β} {as : List α}
    (h : ∀ a ∈ as, read (write a) = some a) : (as.map write).mapM read = some as := by
  induction as with
  | nil => rfl
  | cons a as ih =>
    rw [List.map_cons, List.mapM_cons, h a List.mem_cons_self,
      ih fun b hb => h b (List.mem_cons_of_mem a hb)]
    rfl

theorem ofMembers_map_some (members : List (String × Json)) :
    ofMembers (members.map fun member => (some member.1, member.2)) = .object members := by
  have hread : ∀ read : Option String × Json → Option (String × Json),
      (∀ member, read (some member.1, member.2) = some member) →
      (members.map fun member => (some member.1, member.2)).mapM read = some members :=
    fun read h => mapM_map_eq_some fun member _ => h member
  rw [ofMembers, hread _ fun _ => rfl]

section Brackets

variable {between : List Char} {result : Option (Json × List Char)}

theorem value?_bracket
    (hempty : ∀ after, skipBlanks between = ']' :: after → some (.array [], after) = result)
    (hitems : (∀ after, skipBlanks between ≠ ']' :: after) →
      (items? fuel between).map (fun found => (.array found.1, found.2)) = result) :
    value? (fuel + 1) ('[' :: between) = result := by
  rw [value?, skipBlanks_of_not_blank _ (by decide)]
  split
  case h_2 heq =>
    obtain rfl := (List.cons.inj heq).2
    split
    · next after hclosed => exact hempty after hclosed
    · next hopen => exact hitems hopen
  case h_7 hnone _ _ _ _ => exact (hnone _ rfl).elim
  all_goals next heq => exact absurd (List.cons.inj heq).1 (by decide)

theorem value?_brace
    (hempty : ∀ after, skipBlanks between = '\x7d' :: after → some (.object [], after) = result)
    (hmembers : (∀ after, skipBlanks between ≠ '\x7d' :: after) →
      (members? fuel between).map (fun found => (ofMembers found.1, found.2)) = result) :
    value? (fuel + 1) ('\x7b' :: between) = result := by
  rw [value?, skipBlanks_of_not_blank _ (by decide)]
  split
  case h_3 heq =>
    obtain rfl := (List.cons.inj heq).2
    split
    · next after hclosed => exact hempty after hclosed
    · next hopen => exact hmembers hopen
  case h_7 hnone _ _ _ => exact (hnone _ rfl).elim
  all_goals next heq => exact absurd (List.cons.inj heq).1 (by decide)

end Brackets

theorem value?_emptyArray {between : List Char} (h : IsLayout between) :
    value? (fuel + 1) ('[' :: between ++ [']'] ++ rest) = some (.array [], rest) := by
  have hskip : skipBlanks (between ++ [']'] ++ rest) = ']' :: rest := by
    rw [List.append_assoc, skipBlanks_layout h]
    rfl
  refine value?_bracket (fun after hclosed => ?_) fun hopen => absurd hskip (hopen rest)
  rw [(List.cons.inj (hclosed.symm.trans hskip)).2]

theorem value?_emptyObject {between : List Char} (h : IsLayout between) :
    value? (fuel + 1) ('\x7b' :: between ++ ['\x7d'] ++ rest) = some (.object [], rest) := by
  have hskip : skipBlanks (between ++ ['\x7d'] ++ rest) = '\x7d' :: rest := by
    rw [List.append_assoc, skipBlanks_layout h]
    rfl
  refine value?_brace (fun after hclosed => ?_) fun hopen => absurd hskip (hopen rest)
  rw [(List.cons.inj (hclosed.symm.trans hskip)).2]

theorem value?_array {items : List Json} {between : List Char}
    (hbegin : ∃ c behind, skipBlanks (between ++ ']' :: rest) = c :: behind ∧ c ≠ ']')
    (hitems : items? fuel (between ++ ']' :: rest) = some (items, rest)) :
    value? (fuel + 1) ('[' :: between ++ [']'] ++ rest) = some (.array items, rest) := by
  obtain ⟨c, behind, hskip, hc⟩ := hbegin
  rw [List.append_assoc, List.cons_append, List.singleton_append]
  refine value?_bracket (fun after hclosed => ?_) fun _ => by rw [hitems, Option.map_some]
  exact absurd (List.cons.inj (hskip.symm.trans hclosed)).1 hc

theorem value?_object {members : List (String × Json)} {between : List Char}
    (hbegin : ∃ behind, skipBlanks (between ++ '\x7d' :: rest) = '"' :: behind)
    (hmembers : members? fuel (between ++ '\x7d' :: rest)
      = some (members.map fun member => (some member.1, member.2), rest)) :
    value? (fuel + 1) ('\x7b' :: between ++ ['\x7d'] ++ rest) = some (.object members, rest) := by
  obtain ⟨behind, hskip⟩ := hbegin
  rw [List.append_assoc, List.cons_append, List.singleton_append]
  refine value?_brace (fun after hclosed => ?_)
    fun _ => by rw [hmembers, Option.map_some, ofMembers_map_some]
  exact absurd (List.cons.inj (hskip.symm.trans hclosed)).1 (by decide)

section Items

variable {cs left more after : List Char} {item : Json} {items : List Json}

theorem items?_last (hitem : value? fuel cs = some (item, left))
    (hleft : skipBlanks left = ']' :: after) :
    items? (fuel + 1) cs = some ([item], after) := by
  simp only [items?, hitem, hleft, Option.bind_eq_bind, Option.bind_some]

theorem items?_more (hitem : value? fuel cs = some (item, left))
    (hleft : skipBlanks left = ',' :: more) (hmore : items? fuel more = some (items, after)) :
    items? (fuel + 1) cs = some (item :: items, after) := by
  simp only [items?, hitem, hleft, hmore, Option.bind_eq_bind, Option.bind_some]

end Items

theorem skipBlanks_name {key : String} {name : List Char} (h : Around (Quoted key) name) :
    ∃ behind, ∀ rest, skipBlanks (name ++ rest) = '"' :: (behind ++ rest)
      ∧ ∃ left, textBody? (behind ++ rest) = some (some key, left)
      ∧ skipBlanks left = skipBlanks rest := by
  obtain ⟨before, inner, layout, rfl, hbefore, ⟨body, rfl, hbody⟩, hlayout⟩ := h
  refine ⟨body ++ '"' :: layout,
    fun rest => ⟨?_, layout ++ rest, ?_, skipBlanks_layout hlayout rest⟩⟩
  · rw [List.append_assoc, List.append_assoc, skipBlanks_layout hbefore]
    simp [skipBlanks]
  · rw [List.append_assoc]
    exact textBody?_of_textSpelling hbody (layout ++ rest)

theorem skipBlanks_of_spellsMembers {member : String × Json} {more : List (String × Json)}
    {cs : List Char} (h : SpellsMembers (member :: more) cs) (rest : List Char) :
    ∃ behind, skipBlanks (cs ++ rest) = '"' :: behind := by
  cases more with
  | nil =>
    obtain ⟨name, word, rfl, hname, -⟩ := h
    obtain ⟨behind, hskip⟩ := skipBlanks_name hname
    rw [List.append_assoc]
    exact ⟨_, (hskip _).1⟩
  | cons next more =>
    obtain ⟨name, word, behind, rfl, hname, -, -⟩ := h
    obtain ⟨behind, hskip⟩ := skipBlanks_name hname
    rw [List.append_assoc, List.append_assoc]
    exact ⟨_, (hskip _).1⟩

section Members

variable {key : String} {name word tail left more after : List Char} {value : Json}
  {members : List (Option String × Json)}

theorem members?_last (hname : Around (Quoted key) name)
    (hvalue : value? fuel (word ++ tail) = some (value, left))
    (hleft : skipBlanks left = '\x7d' :: after) :
    members? (fuel + 1) (name ++ ':' :: (word ++ tail)) = some ([(some key, value)], after) := by
  obtain ⟨behind, hskip⟩ := skipBlanks_name hname
  obtain ⟨hbegin, colon, hbody, hcolon⟩ := hskip (':' :: (word ++ tail))
  rw [skipBlanks_of_not_blank _ (by decide)] at hcolon
  simp only [members?, hbegin, hbody, hcolon, hvalue, hleft, Option.bind_eq_bind, Option.bind_some]

theorem members?_more (hname : Around (Quoted key) name)
    (hvalue : value? fuel (word ++ tail) = some (value, left))
    (hleft : skipBlanks left = ',' :: more) (hmore : members? fuel more = some (members, after)) :
    members? (fuel + 1) (name ++ ':' :: (word ++ tail))
      = some ((some key, value) :: members, after) := by
  obtain ⟨behind, hskip⟩ := skipBlanks_name hname
  obtain ⟨hbegin, colon, hbody, hcolon⟩ := hskip (':' :: (word ++ tail))
  rw [skipBlanks_of_not_blank _ (by decide)] at hcolon
  simp only [members?, hbegin, hbody, hcolon, hvalue, hleft, hmore, Option.bind_eq_bind,
    Option.bind_some]

end Members

mutual

theorem value?_of_spells :
    (j : Json) → {cs : List Char} → {fuel : Nat} → {rest : List Char} → Spells j cs →
    cs.length ≤ fuel → Ends rest →
      ∃ left, value? (fuel + 1) (cs ++ rest) = some (j, left) ∧ skipBlanks left = skipBlanks rest
  | .null, _, _, _, h, hfuel, hrest =>
    value?_of_around h hfuel hrest fun _ hinner _ _ _ => hinner ▸ rfl
  | .bool true, _, _, _, h, hfuel, hrest =>
    value?_of_around h hfuel hrest fun _ hinner _ _ _ => hinner ▸ rfl
  | .bool false, _, _, _, h, hfuel, hrest =>
    value?_of_around h hfuel hrest fun _ hinner _ _ _ => hinner ▸ rfl
  | .integer n, _, _, _, h, hfuel, hrest =>
    value?_of_around h hfuel hrest fun _ hinner _ _ hends => hinner ▸ value?_signedDecimal n hends
  | .text s, _, _, _, h, hfuel, hrest =>
    value?_of_around h hfuel hrest fun _ hinner _ _ _ => value?_quoted hinner
  | .array [], _, _, _, h, hfuel, hrest =>
    value?_of_around h hfuel hrest fun _ ⟨_, hinner, hbetween⟩ _ _ _ =>
      hinner ▸ value?_emptyArray hbetween
  | .object [], _, _, _, h, hfuel, hrest =>
    value?_of_around h hfuel hrest fun _ ⟨_, hinner, hbetween⟩ _ _ _ =>
      hinner ▸ value?_emptyObject hbetween
  | .array (item :: more), _, _, _, h, hfuel, hrest => by
    refine value?_of_around h hfuel hrest ?_
    rintro inner ⟨between, rfl, hbetween⟩ hlength rest -
    simp only [List.length_append, List.length_cons, List.length_nil] at hlength
    exact value?_array (skipBlanks_of_spellsItems hbetween _)
      (items?_of_spells (item :: more) (by simp) hbetween (by omega))
  | .object (member :: more), _, _, _, h, hfuel, hrest => by
    refine value?_of_around h hfuel hrest ?_
    rintro inner ⟨between, rfl, hbetween⟩ hlength rest -
    simp only [List.length_append, List.length_cons, List.length_nil] at hlength
    exact value?_object (skipBlanks_of_spellsMembers hbetween _)
      (members?_of_spells (member :: more) (by simp) hbetween (by omega))

theorem items?_of_spells :
    (items : List Json) → items ≠ [] → {cs : List Char} → {fuel : Nat} → {rest : List Char} →
    SpellsItems items cs → cs.length + 2 ≤ fuel →
      items? fuel (cs ++ ']' :: rest) = some (items, rest)
  | [item], _, cs, fuel + 2, rest, h, hfuel => by
    obtain ⟨left, hread, hleft⟩ : ∃ left, value? (fuel + 1) (cs ++ ']' :: rest) = some (item, left)
        ∧ skipBlanks left = ']' :: rest :=
      value?_of_spells item h (by omega) (ends_cons (by decide))
    exact items?_last hread hleft
  | item :: next :: more, _, cs, fuel + 2, rest, ⟨first, behind, hcs, hfirst, hbehind⟩, hfuel => by
    subst hcs
    simp only [List.length_append, List.length_cons] at hfuel
    have hmore : items? (fuel + 1) (behind ++ ']' :: rest) = some (next :: more, rest) :=
      items?_of_spells (next :: more) (by simp) hbehind (by omega)
    obtain ⟨left, hread, hleft⟩ : ∃ left,
        value? (fuel + 1) (first ++ ',' :: (behind ++ ']' :: rest))
        = some (item, left) ∧ skipBlanks left = ',' :: (behind ++ ']' :: rest) :=
      value?_of_spells item hfirst (by omega) (ends_cons (by decide))
    rw [List.append_assoc, List.cons_append]
    exact items?_more hread hleft hmore

theorem members?_of_spells :
    (members : List (String × Json)) → members ≠ [] → {cs : List Char} → {fuel : Nat} →
    {rest : List Char} → SpellsMembers members cs → cs.length + 2 ≤ fuel →
      members? fuel (cs ++ '\x7d' :: rest)
        = some (members.map fun member => (some member.1, member.2), rest)
  | [(key, value)], _, cs, fuel + 2, rest, ⟨name, word, hcs, hname, hword⟩, hfuel => by
    subst hcs
    simp only [List.length_append, List.length_cons] at hfuel
    obtain ⟨left, hread, hleft⟩ : ∃ left,
        value? (fuel + 1) (word ++ '\x7d' :: rest) = some (value, left)
        ∧ skipBlanks left = '\x7d' :: rest :=
      value?_of_spells value hword (by omega) (ends_cons (by decide))
    rw [List.append_assoc, List.cons_append]
    exact members?_last hname hread hleft
  | (key, value) :: next :: more, _, cs, fuel + 2, rest,
  ⟨name, word, behind, hcs, hname, hword, hbehind⟩, hfuel => by
    subst hcs
    simp only [List.length_append, List.length_cons] at hfuel
    have hmore : members? (fuel + 1) (behind ++ '\x7d' :: rest)
        = some ((next :: more).map fun member => (some member.1, member.2), rest) :=
      members?_of_spells (next :: more) (by simp) hbehind (by omega)
    obtain ⟨left, hread, hleft⟩ : ∃ left,
        value? (fuel + 1) (word ++ ',' :: (behind ++ '\x7d' :: rest))
        = some (value, left) ∧ skipBlanks left = ',' :: (behind ++ '\x7d' :: rest) :=
      value?_of_spells value hword (by omega) (ends_cons (by decide))
    rw [List.append_assoc, List.append_assoc, List.cons_append, List.cons_append]
    exact members?_more hname hread hleft hmore

end

end Values

end Pinning.Json.Reader

namespace Pinning.Json

theorem parse?_of_spells {j : Json} {text : String} (h : Spells j text.toList) :
    parse? text = some j := by
  obtain ⟨left, hread, hleft⟩ := Reader.value?_of_spells j h (Nat.le_refl _) Reader.ends_nil
  rw [List.append_nil] at hread
  rw [parse?, ofChars?, hread]
  show (if (Reader.skipBlanks left).isEmpty then some j else none) = some j
  rw [hleft]
  rfl

end Pinning.Json
