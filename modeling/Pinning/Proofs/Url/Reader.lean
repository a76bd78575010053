import Pinning.Proofs.Url.Path
/-!
What reading a URL keeps. Each cut leaves characters out of the text, so a component is never longer
than the text, and the scheme that is read is the scheme of the result.
-/

set_option autoImplicit false
set_option relaxedAutoImplicit false

namespace Pinning.Url
open Reader

section Shortening

theorem dropWhile_isEdge_eq_iff {cs : List Char} :
    cs.dropWhile isEdge = cs ↔ ∀ c ∈ cs.head?, isEdge c = false := by
  cases cs with
  | nil => simp
  | cons c rest =>
    rw [List.dropWhile_cons]
    split
    · next hc =>
      have hne : rest.dropWhile isEdge ≠ c :: rest := by
        intro heq
        have hle := (List.dropWhile_sublist (l := rest) isEdge).length_le
        rw [heq, List.length_cons] at hle
        omega
      simp [hne, hc]
    · next hc => simpa using hc

theorem clean_sublist (cs : List Char) : (clean cs).Sublist cs := by
  have hfront := List.dropWhile_sublist (l := cs) isEdge
  have hback := (List.dropWhile_sublist (l := (cs.dropWhile isEdge).reverse) isEdge).reverse
  rw [List.reverse_reverse] at hback
  exact List.filter_sublist.trans (hback.trans hfront)

theorem cut_eq {cs : List Char} (hfragment : '#' ∉ cs) (hquery : '?' ∉ cs) :
    cut cs = { main := cs, query := none, fragment := none } := by
  rw [cut, Text.cutFirst?_eq_none_iff.2 hfragment]
  simp only [Text.cutFirst?_eq_none_iff.2 hquery]

theorem prefix_of_cutFirst? {sep : Char} {cs before behind : List Char}
    (h : Text.cutFirst? sep cs = some (before, behind)) :
    before.Sublist cs ∧ before.length < cs.length ∧ behind.Sublist cs
      ∧ behind.length < cs.length := by
  obtain ⟨rfl, -⟩ := Text.eq_of_cutFirst? h
  refine ⟨List.sublist_append_left _ _, by simp, ?_, by simp; omega⟩
  exact (List.sublist_cons_self sep behind).trans (List.sublist_append_right before _)

theorem cut_main (cs : List Char) :
    (cut cs).main.Sublist cs ∧ ((cut cs).main = cs → '#' ∉ cs ∧ '?' ∉ cs) := by
  rw [cut]
  split
  next rest fragment hrest =>
  have hsub : rest.Sublist cs ∧ (rest = cs → '#' ∉ cs) := by
    split at hrest
    · next before behind hcut =>
      obtain ⟨hsub, hlt, -⟩ := prefix_of_cutFirst? hcut
      obtain ⟨rfl, -⟩ := Prod.mk.inj hrest
      exact ⟨hsub, fun heq => absurd (congrArg List.length heq) (by omega)⟩
    · next hcut =>
      obtain ⟨rfl, -⟩ := Prod.mk.inj hrest
      exact ⟨List.Sublist.refl _, fun _ => Text.cutFirst?_eq_none_iff.1 hcut⟩
  split
  · next main query hcut =>
    obtain ⟨hmain, hlt, -⟩ := prefix_of_cutFirst? hcut
    refine ⟨hmain.trans hsub.1, fun heq => ?_⟩
    change main = cs at heq
    have hle := hsub.1.length_le
    rw [← heq] at hle
    omega
  · next hcut =>
    refine ⟨hsub.1, fun heq => ?_⟩
    change rest = cs at heq
    subst heq
    exact ⟨hsub.2 rfl, Text.cutFirst?_eq_none_iff.1 hcut⟩

theorem scheme?_sublist {cs behind : List Char} {scheme : String}
    (h : scheme? cs = some (scheme, behind)) : behind.Sublist cs ∧ behind.length < cs.length := by
  simp only [scheme?, Option.bind_eq_bind, Option.bind_eq_some_iff] at h
  obtain ⟨⟨before, rest⟩, hcut, h⟩ := h
  obtain ⟨-, -, hsub, hlt⟩ := prefix_of_cutFirst? hcut
  split at h
  · split at h
    · obtain ⟨-, rfl⟩ : _ ∧ rest = behind := by simpa using h
      exact ⟨hsub, hlt⟩
    · cases h
  · cases h

theorem cutPort_sublist (inBrackets : Bool) (cs : List Char) :
    ((cutPort inBrackets cs).2.getD []).Sublist cs := by
  induction cs generalizing inBrackets with
  | nil => exact List.Sublist.refl _
  | cons c rest ih =>
    rw [cutPort]
    split
    · exact List.sublist_cons_self c rest
    · exact (ih _).cons c

theorem cutUser_sublist (cs : List Char) : (cutUser cs).2.Sublist cs := by
  rw [cutUser]
  split
  · next user behind hcut =>
    obtain ⟨rfl, -⟩ := Text.eq_of_cutLast? hcut
    exact (List.sublist_cons_self '@' behind).trans (List.sublist_append_right user _)
  · exact List.Sublist.refl _

end Shortening

section Beginning

variable {front cs : List Char}

theorem scheme?_eq_none (h : ':' ∉ cs) : scheme? cs = none := by
  rw [scheme?, Text.cutFirst?_eq_none_iff.2 h]
  rfl

theorem scheme?_eq_none_of_slash (h : ':' ∉ front) (hslash : front ++ ['/'] <+: cs) :
    scheme? cs = none := by
  refine Option.eq_none_iff_forall_ne_some.2 fun ⟨scheme, rest⟩ hfound => ?_
  simp only [scheme?, Option.bind_eq_bind, Option.bind_eq_some_iff] at hfound
  obtain ⟨⟨before, tail⟩, hcut, hfound⟩ := hfound
  obtain ⟨rfl, -⟩ := Text.eq_of_cutFirst? hcut
  have hcolon : before ++ [':'] <+: before ++ ':' :: tail := ⟨tail, by simp⟩
  have hmem : '/' ∈ before := by
    -- One of the two stops is reached first; the colon cannot be, for it is not in front of the
    -- slash.
    rcases List.prefix_or_prefix_of_prefix hslash hcolon with hprefix | hprefix
    · have hmem : '/' ∈ before ++ [':'] := hprefix.subset (by simp)
      simpa using hmem
    · have hmem : ':' ∈ front ++ ['/'] := hprefix.subset (by simp)
      exact absurd (by simpa using hmem) h
  split at hfound
  · split at hfound
    · next hscheme =>
      simp only [Bool.and_eq_true, List.all_eq_true] at hscheme
      exact absurd (hscheme.2 '/' hmem) (by decide)
    · cases hfound
  · cases hfound

theorem prefix_clean (h : front <+: cs) (hfront : ∀ c ∈ front, isEdge c = false) :
    front <+: clean cs := by
  obtain ⟨behind, rfl⟩ := h
  have hinside : (front.filter fun c => c != '\t' && c != '\n' && c != '\r') = front := by
    refine List.filter_eq_self.2 fun c hc => ?_
    have hedge := hfront c hc
    simp only [Bool.and_eq_true, bne_iff_ne]
    refine ⟨⟨?_, ?_⟩, ?_⟩ <;> rintro rfl <;> exact absurd hedge (by decide)
  have hreverse : front.reverse.dropWhile isEdge = front.reverse :=
    dropWhile_isEdge_eq_iff.2 fun c hc => hfront c (List.mem_reverse.1 (List.mem_of_mem_head? hc))
  cases front with
  | nil => exact List.nil_prefix
  | cons first rest =>
    have hbegins : (first :: rest ++ behind).dropWhile isEdge = first :: rest ++ behind := by
      refine dropWhile_isEdge_eq_iff.2 fun c hc => ?_
      obtain rfl : first = c := by simpa using hc
      exact hfront first List.mem_cons_self
    rw [clean, hbegins, List.reverse_append, List.dropWhile_append, hreverse]
    -- All that stands behind the beginning may be dropped, or only its end.
    split
    · simp [hinside]
    · rw [List.reverse_append, List.reverse_reverse, List.filter_append, hinside]
      exact List.prefix_append _ _

theorem prefix_cut (h : front <+: cs) (hfront : '#' ∉ front ∧ '?' ∉ front) :
    front <+: (cut cs).main := by
  have hbefore : ∀ {sep : Char} {text before behind : List Char}, front <+: text → sep ∉ front →
      Text.cutFirst? sep text = some (before, behind) → front <+: before := by
    intro sep text before behind hprefix hsep hcut
    obtain ⟨rfl, -⟩ := Text.eq_of_cutFirst? hcut
    have hcut : before ++ [sep] <+: before ++ sep :: behind := ⟨behind, by simp⟩
    rcases List.prefix_or_prefix_of_prefix hprefix hcut with hfound | hfound
    · rcases List.prefix_concat_iff.1 hfound with rfl | hfound
      · simp at hsep
      · exact hfound
    · exact absurd (hfound.subset (by simp)) hsep
  rw [cut]
  split
  next rest fragment hrest =>
  have hrest : front <+: rest := by
    split at hrest
    · next hcut =>
      obtain ⟨rfl, -⟩ := Prod.mk.inj hrest
      exact hbefore h hfront.1 hcut
    · obtain ⟨rfl, -⟩ := Prod.mk.inj hrest
      exact h
  split
  · next hcut => exact hbefore hrest hfront.2 hcut
  · exact hrest

end Beginning

def Ensures {α : Type} (P : α → Prop) (x : Except Error α) : Prop :=
  ∀ value, x = .ok value → P value

namespace Ensures

variable {α β : Type} {P : α → Prop} {Q : β → Prop}

theorem pure {value : α} (h : P value) : Ensures P (Pure.pure value) := by
  intro other hother
  obtain rfl := Except.ok.inj hother
  exact h

theorem bind {x : Except Error α} {f : α → Except Error β} (hx : Ensures P x)
    (hf : ∀ value, P value → Ensures Q (f value)) : Ensures Q (x >>= f) := by
  cases x with
  | error cause => intro value h; cases h
  | ok value => exact hf value (hx value rfl)

theorem bind_of_forall {x : Except Error α} {f : α → Except Error β}
    (hf : ∀ value, Ensures Q (f value)) : Ensures Q (x >>= f) :=
  bind (P := fun _ => True) (fun _ _ => trivial) fun value _ => hf value

theorem throw_bind {cause : Error} {f : α → Except Error β} : Ensures Q (throw cause >>= f) := by
  intro value h
  cases h

theorem map {x : Except Error α} {f : α → β} (hx : Ensures P x)
    (hf : ∀ value, P value → Q (f value)) :
    Ensures Q (x.map f) := by
  cases x with
  | error cause => intro value h; cases h
  | ok value => exact .pure (hf value (hx value rfl))

theorem ite {c : Prop} [Decidable c] {x y : Except Error α} (hx : c → Ensures P x)
    (hy : ¬c → Ensures P y) : Ensures P (if c then x else y) := by
  split
  · next h => exact hx h
  · next h => exact hy h

end Ensures

theorem path_of_withAuthority (scheme : String) (parts : Parts) :
    Ensures (fun u => u.scheme = scheme ∧ ∃ cs, cs.Sublist parts.main
      ∧ u.path = .segments (rootSegments scheme cs)) (withAuthority scheme parts) := by
  let text := parts.main.takeWhile fun c => !isSlash (isSpecialScheme scheme) c
  let rest := parts.main.dropWhile fun c => !isSlash (isSpecialScheme scheme) c
  let behindPort := ((cutPort false (cutUser text).2).2.getD []).dropWhile Text.isDigit
  have hbehind : behindPort.Sublist text :=
    (List.dropWhile_sublist _).trans ((cutPort_sublist _ _).trans (cutUser_sublist text))
  have hrest : (behindPort ++ rest).Sublist parts.main := by
    have happend := hbehind.append (List.Sublist.refl rest)
    rwa [List.takeWhile_append_dropWhile] at happend
  rw [withAuthority]
  refine .ite (fun _ => .throw_bind) fun _ => ?_
  refine .ite (fun _ => .throw_bind) fun _ => ?_
  refine .ite (fun _ => .bind_of_forall fun host => ?_) fun _ => .bind_of_forall fun host => ?_
  all_goals
    refine .ite (fun _ => .throw_bind) fun _ => .bind_of_forall fun portNumber => ?_
    exact .ite (fun _ => .throw_bind) fun _ => .pure ⟨rfl, _, hrest, rfl⟩

@[simp] theorem scheme_withTail (parts : Parts) (u : Url) : (withTail parts u).scheme = u.scheme :=
  rfl
@[simp] theorem path_withTail (parts : Parts) (u : Url) : (withTail parts u).path = u.path := rfl

theorem scheme_of_fileWithHost (main : List Char) :
    Ensures (fun u => u.scheme = "file") (fileWithHost main) := by
  rw [fileWithHost]
  refine .ite (fun _ => .pure rfl) fun _ => ?_
  refine .ite (fun _ => .pure rfl) fun _ => ?_
  exact .bind_of_forall fun host => .pure rfl

theorem scheme_of_file {base : Option Url} (hbase : ∀ u ∈ base, u.scheme = "file") (parts : Parts) :
    Ensures (fun u => u.scheme = "file") (file base parts) := by
  unfold file
  rcases hmain : parts.main with _ | ⟨first, _ | ⟨second, rest⟩⟩
  · cases base with
    | none => exact .pure rfl
    | some base => exact .pure (hbase base rfl)
  · cases base <;> exact .ite (fun _ => .ite (fun _ => .pure rfl) fun _ => .pure rfl) fun _ =>
      .ite (fun _ => .pure rfl) fun _ => .pure rfl
  · refine .ite (fun _ => .bind (scheme_of_fileWithHost rest) fun u hu => .pure hu) fun _ => ?_
    cases base <;> exact .ite (fun _ => .ite (fun _ => .pure rfl) fun _ => .pure rfl) fun _ =>
      .ite (fun _ => .pure rfl) fun _ => .pure rfl

theorem scheme_of_relative (base : Url) (parts : Parts) :
    Ensures (fun u => u.scheme = base.scheme) (relative base parts) := by
  have hauthority : ∀ main, Ensures (fun u => u.scheme = base.scheme)
      (withAuthority base.scheme { parts with main }) :=
    fun main u hu => (path_of_withAuthority base.scheme _ u hu).1
  unfold relative
  dsimp only
  split
  · exact .pure rfl
  · exact .bind (hauthority _) fun u hu => .pure hu
  · refine .ite (fun _ => .ite (fun _ => ?_) fun _ => .pure rfl) fun _ => .pure rfl
    exact .bind (hauthority _) fun u hu => .pure hu

theorem scheme_of_other (scheme : String) (parts : Parts) :
    Ensures (fun u => u.scheme = scheme) (other scheme parts) := by
  unfold other
  dsimp only
  split
  · exact .map (path_of_withAuthority scheme _) fun u hu => hu.1
  · exact .pure rfl
  · exact .pure rfl

theorem scheme_of_join {base : Url} {text : String}
    (h : scheme? (cut (clean text.toList)).main = none) :
    Ensures (fun u => u.scheme = base.scheme) (join base text) := by
  rw [join, ofChars]
  simp only [h]
  split
  · refine .ite (fun _ => .pure rfl) fun _ u hu => ?_
    cases hu
  · refine .ite (fun hfile u hu => ?_) fun _ => scheme_of_relative base _
    have hbase : ∀ u ∈ some base, u.scheme = "file" := by simpa using hfile
    rw [hfile]
    exact scheme_of_file hbase _ u hu

section Network

variable {base : Url} {done : List String} {scheme : String}

theorem ne_file_of_isNetworkScheme (h : isNetworkScheme scheme = true) : scheme ≠ "file" := by
  rintro rfl
  revert h
  decide

theorem segmentsFrom_eq (h : isNetworkScheme scheme = true) (done : List String) (cs : List Char) :
    segmentsFrom scheme done cs = walk false done (pieces true cs) := by
  have hspecial : isSpecialScheme scheme = true := by simp [isSpecialScheme, h]
  have hfile : (scheme == "file") = false := by simpa using ne_file_of_isNetworkScheme h
  simp [segmentsFrom, hspecial, hfile]

private theorem length_utf8Bytes_map (cs : List Char) :
    (Text.utf8Bytes (cs.map fun c => if isSlash true c then '/' else c)).length
      = (Text.utf8Bytes cs).length := by
  induction cs with
  | nil => rfl
  | cons c rest ih =>
    rw [List.map_cons, Text.utf8Bytes_cons, Text.utf8Bytes_cons, List.length_append,
      List.length_append, ih]
    split
    · next hslash =>
      rcases (by simpa [isSlash] using hslash : c = '/' ∨ c = '\\') with rfl | rfl <;> rfl
    · rfl

theorem length_pathBytes_segmentsFrom (h : isNetworkScheme scheme = true) (done : List String)
    (cs : List Char) :
    (pathBytes (segmentsFrom scheme done cs)).length + (pieces true cs).countP isAltered
      ≤ (pathBytes done).length + 1 + (Text.utf8Bytes cs).length := by
  have hslash : (String.utf8EncodeChar '/').length = 1 := by decide
  have hwalk := length_pathBytes_walk done (pieces true cs)
  rw [pieceBytes_pieces, List.length_append, hslash, length_utf8Bytes_map] at hwalk
  rw [segmentsFrom_eq h]
  omega

theorem length_pathBytes_rootSegments (h : isNetworkScheme scheme = true) (cs : List Char) :
    (pathBytes (rootSegments scheme cs)).length ≤ 1 + (Text.utf8Bytes cs).length := by
  have hspecial : isSpecialScheme scheme = true := by simp [isSpecialScheme, h]
  have hbehind : (behindSlash true cs).Sublist cs := by
    cases cs with
    | nil => exact List.Sublist.refl _
    | cons c rest =>
      rw [behindSlash]
      split
      · exact List.sublist_cons_self c rest
      · exact List.Sublist.refl _
  have hsegments := length_pathBytes_segmentsFrom h [] (behindSlash true cs)
  have hle := Text.length_utf8Bytes_le_of_sublist hbehind
  simp only [rootSegments, hspecial, Bool.not_true, Bool.and_false, Bool.false_eq_true, if_false]
  simp only [pathBytes, List.flatMap_nil, List.length_nil] at hsegments ⊢
  omega

end Network

end Pinning.Url
