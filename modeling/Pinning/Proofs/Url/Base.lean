import Pinning.Proofs.Url.Below
/-!
What a base URL is like, and what can be joined to it. A text is read as a URL with segments unless
it names a scheme without rules of its own and no slash follows; only to a URL with segments can the
path of a service be joined, and then it stands behind the path of the base.
-/

set_option autoImplicit false
set_option relaxedAutoImplicit false

namespace Pinning.Url

open Reader

/-- The text names a scheme without rules of its own, and what follows does not begin with a slash.
-/
def isOpaque (written : List Char) : Bool :=
  match scheme? (cut (clean written)).main with
  | some (scheme, rest) => !isSpecialScheme scheme && rest.head? != some '/'
  | none => false

section Segments

variable {scheme : String} {done names : List String}

private theorem notMem_of_mem_pieces {special : Bool} {cs piece : List Char}
    (h : piece ∈ pieces special cs) :
    '/' ∉ piece := by
  induction cs generalizing piece with
  | nil =>
    obtain rfl := List.mem_singleton.1 h
    simp
  | cons c rest ih =>
    rw [pieces] at h
    split at h
    · rcases List.mem_cons.1 h with rfl | h
      · simp
      · exact ih h
    · next hc =>
      have hslash : '/' ≠ c := by
        rintro rfl
        simp [isSlash] at hc
      cases hpieces : pieces special rest with
      | nil => exact absurd hpieces (pieces_ne_nil special rest)
      | cons first more =>
        rw [hpieces] at h ih
        rcases List.mem_cons.1 h with rfl | h
        · simpa [hslash] using ih List.mem_cons_self
        · exact ih (List.mem_cons_of_mem first h)

private theorem notMem_stored {isFile : Bool} {piece : List Char} (h : '/' ∉ piece) :
    '/' ∉ (stored isFile done piece).toList := by
  have hencoded : '/' ∉ encode pathSet piece := notMem_encode (by decide) (by decide) h
  unfold stored
  split
  · next letter mark =>
    split
    · simp only [List.mem_cons, List.not_mem_nil, or_false, not_or] at h
      simp [h.1]
    · simpa using hencoded
  · simpa using hencoded

private theorem notMem_of_mem_walk {isFile : Bool} {ps : List (List Char)}
    (hdone : ∀ name ∈ done, '/' ∉ name.toList) (hps : ∀ piece ∈ ps, '/' ∉ piece) :
    ∀ name ∈ walk isFile done ps, '/' ∉ name.toList := by
  have hleave : ∀ names : List String, (∀ name ∈ names, '/' ∉ name.toList) →
      ∀ name ∈ leave isFile names, '/' ∉ name.toList := by
    intro names hnames name hname
    rw [leave] at hname
    split at hname
    · split at hname
      · exact hnames name hname
      · exact hnames name (List.dropLast_subset _ hname)
    · cases hname
  have happend : ∀ (names : List String) (last : String), (∀ name ∈ names, '/' ∉ name.toList) →
      '/' ∉ last.toList →
      ∀ name ∈ names ++ [last], '/' ∉ name.toList := by
    intro names last hnames hlast name hname
    rcases List.mem_append.1 hname with hname | hname
    · exact hnames name hname
    · rwa [List.mem_singleton.1 hname]
  have hempty : '/' ∉ "".toList := by decide
  fun_induction walk isFile done ps with
  | case1 done => exact hdone
  | case2 done last _ => exact happend _ _ (hleave _ hdone) hempty
  | case3 done last _ _ => exact happend _ _ hdone hempty
  | case4 done last _ _ => exact happend _ _ hdone (notMem_stored (hps last List.mem_cons_self))
  | case5 done piece rest _ _ ih =>
    exact ih (hleave _ hdone) fun other hother => hps other (List.mem_cons_of_mem piece hother)
  | case6 done piece rest _ _ _ ih =>
    exact ih hdone fun other hother => hps other (List.mem_cons_of_mem piece hother)
  | case7 done piece rest _ _ _ ih =>
    exact ih (happend _ _ hdone (notMem_stored (hps piece List.mem_cons_self)))
      fun other hother => hps other (List.mem_cons_of_mem piece hother)

private theorem withoutLeadingEmpty_suffix (names : List String) :
    withoutLeadingEmpty names <:+ names := by
  fun_induction withoutLeadingEmpty names with
  | case1 next rest ih => exact ih.trans (List.suffix_cons _ _)
  | case2 names _ => exact List.suffix_refl names

private theorem eq_of_head?_withoutLeadingEmpty (h : (withoutLeadingEmpty names).head? = some "") :
    withoutLeadingEmpty names = [""] := by
  fun_induction withoutLeadingEmpty names with
  | case1 next rest ih => exact ih h
  | case2 names hshort =>
    obtain ⟨rest, rfl⟩ := List.head?_eq_some_iff.1 h
    cases rest with
    | nil => rfl
    | cons next rest => exact absurd rfl (hshort next rest)

/-- The segments that a text is read as: none of them holds a slash, and those of a file begin with
an empty one only if there is no other. -/
structure IsPathOf (scheme : String) (names : List String) : Prop where
  whole : ∀ name ∈ names, '/' ∉ name.toList
  begins : scheme = "file" → names.head? = some "" → names = [""]

theorem isPathOf_rootSegments (scheme : String) (cs : List Char) :
    IsPathOf scheme (rootSegments scheme cs) := by
  have hempty : IsPathOf scheme [] := ⟨by simp, by simp⟩
  have hwalk : ∀ cs, ∀ name ∈ walk (scheme == "file") [] (pieces (isSpecialScheme scheme) cs),
      '/' ∉ name.toList :=
    fun cs => notMem_of_mem_walk (by simp) fun piece hpiece => notMem_of_mem_pieces hpiece
  rw [rootSegments]
  split
  · exact hempty
  · rw [segmentsFrom]
    split
    · exact ⟨fun name hname => hwalk _ name ((withoutLeadingEmpty_suffix _).subset hname),
        fun _ hbegins => eq_of_head?_withoutLeadingEmpty hbegins⟩
    · next hother => exact ⟨hwalk _, fun hfile => absurd (beq_iff_eq.2 hfile) hother⟩

end Segments

section Reading

variable {written : List Char}

/-- What reading gives without a base: plain text, or the segments behind a root. A file has an
authority, if only that of this machine. -/
structure IsReadFrom (cs : List Char) (u : Url) : Prop where
  plain : isOpaque cs = true → ∃ text, u.path = .plain text
  segments : isOpaque cs = false → ∃ rest, u.path = .segments (rootSegments u.scheme rest)
  authority : u.scheme = "file" → u.authority.isSome = true

private structure IsFile (u : Url) : Prop where
  scheme : u.scheme = "file"
  authority : u.authority.isSome = true
  path : ∃ rest, u.path = .segments (rootSegments "file" rest)

private theorem isFile_of_fileWithHost (main : List Char) : Ensures IsFile (fileWithHost main) := by
  rw [fileWithHost]
  refine .ite (fun _ => .pure ⟨rfl, rfl, _, rfl⟩) fun _ => ?_
  refine .ite (fun _ => .pure ⟨rfl, rfl, _, rfl⟩) fun _ => ?_
  exact .bind_of_forall fun host => .pure ⟨rfl, rfl, _, rfl⟩

private theorem isFile_of_file (parts : Parts) : Ensures IsFile (file none parts) := by
  have hroot : ∀ cs, segmentsFrom "file" [] cs = rootSegments "file" ('/' :: cs) := fun cs => rfl
  have hrooted : ∀ authority cs, Ensures IsFile
      (Pure.pure (withTail parts
        ⟨"file", some authority, .segments (segmentsFrom "file" [] cs), none, none⟩)) :=
    fun authority cs => .pure ⟨rfl, rfl, '/' :: cs, congrArg Path.segments (hroot cs)⟩
  unfold file
  rcases hmain : parts.main with _ | ⟨first, _ | ⟨second, rest⟩⟩
  · exact hrooted _ _
  · exact .ite (fun _ => .ite (fun _ => hrooted _ _) fun _ => hrooted _ _) fun _ =>
      .ite (fun _ => hrooted _ _) fun _ => hrooted _ _
  · refine .ite (fun _ => .bind (isFile_of_fileWithHost rest) fun u hu => ?_) fun _ => ?_
    · exact .pure ⟨hu.scheme, hu.authority, hu.path⟩
    · exact .ite (fun _ => .ite (fun _ => hrooted _ _) fun _ => hrooted _ _) fun _ =>
        .ite (fun _ => hrooted _ _) fun _ => hrooted _ _

private theorem path_of_other (scheme : String) (parts : Parts) :
    Ensures (fun u => u.scheme = scheme
      ∧ (parts.main.head? = some '/' → ∃ rest, u.path = .segments (rootSegments scheme rest))
      ∧ (parts.main.head? ≠ some '/' → ∃ text, u.path = .plain text)) (other scheme parts) := by
  unfold other
  dsimp only
  split
  · next rest hmain =>
    refine .map (path_of_withAuthority scheme _) fun u hu => ?_
    obtain ⟨hscheme, cs, -, hpath⟩ := hu
    exact ⟨hscheme, fun _ => ⟨cs, hpath⟩, fun hnot => absurd (by rw [hmain]; rfl) hnot⟩
  · next rest _ hmain =>
    have hroot : segmentsFrom scheme [] rest = rootSegments scheme ('/' :: rest) := by
      simp [rootSegments, behindSlash, isSlash]
    exact .pure ⟨rfl, fun _ => ⟨'/' :: rest, congrArg Path.segments hroot⟩,
      fun hnot => absurd (by rw [hmain]; rfl) hnot⟩
  · next _ hroot =>
    refine .pure ⟨rfl, fun hslash => ?_, fun _ => ⟨_, rfl⟩⟩
    obtain ⟨rest, hrest⟩ := List.head?_eq_some_iff.1 hslash
    exact absurd hrest (hroot rest)

theorem IsReadFrom.isPathOf {cs : List Char} {u : Url} {names : List String} (h : IsReadFrom cs u)
    (hpath : u.path = .segments names) : IsPathOf u.scheme names := by
  cases hform : isOpaque cs with
  | true =>
    obtain ⟨text, htext⟩ := h.plain hform
    rw [hpath] at htext
    cases htext
  | false =>
    obtain ⟨rest, hrest⟩ := h.segments hform
    rw [hpath] at hrest
    rw [Path.segments.inj hrest]
    exact isPathOf_rootSegments u.scheme rest

theorem isReadFrom_of_ofChars (cs : List Char) : Ensures (IsReadFrom cs) (ofChars none cs) := by
  rw [ofChars]
  dsimp only
  split
  · next scheme rest hscheme =>
    have hform : isOpaque cs = (!isSpecialScheme scheme && rest.head? != some '/') := by
      rw [isOpaque, hscheme]
    refine .ite (fun hfile => ?_) fun hfile => .ite (fun hnetwork => ?_) fun hother => ?_
    · have hnot : isOpaque cs = false := by simp [hform, isSpecialScheme, hfile]
      intro u hu
      obtain ⟨hscheme, hauthority, hpath⟩ := isFile_of_file _ u hu
      exact ⟨by simp [hnot], fun _ => by rwa [hscheme], fun _ => hauthority⟩
    · have hnot : isOpaque cs = false := by simp [hform, isSpecialScheme, hnetwork]
      refine .map (path_of_withAuthority scheme _) fun u hu => ?_
      obtain ⟨hscheme, rest, -, hpath⟩ := hu
      refine ⟨by simp [hnot],
        fun _ => ⟨rest, ?_⟩, fun hsame => absurd (hscheme.symm.trans hsame) hfile⟩
      rw [scheme_withTail, hscheme]
      exact hpath
    · have hplain : isOpaque cs = (rest.head? != some '/') := by
        simp [hform, isSpecialScheme, hother, hfile]
      intro u hu
      obtain ⟨hscheme, hsegments, htext⟩ := path_of_other scheme _ u hu
      refine ⟨fun hform => htext (by simpa [hplain] using hform), fun hform => ?_,
        fun hsame => absurd (hscheme.symm.trans hsame) hfile⟩
      rw [hscheme]
      exact hsegments (by simpa [hplain] using hform)
  · intro u hu
    cases hu

end Reading

section Slash

variable {u : Url} {names : List String}

theorem render_append (front back : List String) :
    (Path.segments (front ++ back)).render
      = (Path.segments front).render ++ (Path.segments back).render := by
  rw [← String.toList_inj]
  simp [Path.render, String.toList_join]

private theorem getLast?_render_append (done : List String) (last : String) :
    (Path.segments (done ++ [last])).render.toList.getLast?
      = some (last.toList.getLast?.getD '/') := by
  rw [render_append]
  simp [Path.render, List.getLast?_append, List.getLast?_cons]

/-- A path of segments without slashes ends in a slash, as it is written, exactly if its last
segment is empty. -/
theorem getLast?_render_iff (h : ∀ name ∈ names, '/' ∉ name.toList) :
    (Path.segments names).render.toList.getLast? = some '/'
      ↔ (Path.segments names).endsWithSlash = true := by
  rcases List.eq_nil_or_concat names with rfl | ⟨done, last, rfl⟩
  · simp [Path.render, Path.endsWithSlash]
  · have hlast := h last (by simp)
    rw [List.concat_eq_append, getLast?_render_append, Path.endsWithSlash]
    simp only [List.getLast?_append, List.getLast?_singleton, Option.some_or, Option.some.injEq,
      beq_iff_eq]
    constructor
    · intro hslash
      cases hend : last.toList.getLast? with
      | none => simpa using hend
      | some c =>
        obtain rfl : c = '/' := by simpa [hend] using hslash
        exact absurd (List.mem_of_mem_getLast? hend) hlast
    · rintro rfl
      rfl

theorem render_withFinalSlash (h : ∀ name ∈ names, '/' ∉ name.toList)
    (hpath : u.path = .segments names) :
    u.withFinalSlash.path.render
      = u.path.render ++ if u.path.render.toList.getLast? = some '/' then "" else "/" := by
  rw [withFinalSlash, hpath]
  split
  · next hends => rw [if_pos ((getLast?_render_iff h).2 hends), String.append_empty, hpath]
  · next hends =>
    rw [if_neg fun hslash => hends ((getLast?_render_iff h).1 hslash)]
    exact render_append names [""]

theorem authority_withFinalSlash (u : Url) : u.withFinalSlash.authority = u.authority := by
  rw [withFinalSlash]
  split
  · rfl
  · split <;> rfl

/-- Paths can be joined to the URL, behind these segments. -/
structure IsBase (base : Url) (done : List String) : Prop where
  path : base.path = .segments (done ++ [""])
  authority : base.scheme = "file" → base.authority.isSome = true
  begins : base.scheme = "file" → done.head? ≠ some ""

theorem exists_isBase {cs : List Char} (h : IsReadFrom cs u) (hpath : u.path = .segments names) :
    ∃ done, u.withFinalSlash.IsBase done := by
  obtain ⟨done, hdone⟩ := path_withFinalSlash hpath
  refine ⟨done, hdone, ?_, ?_⟩
  · rw [scheme_withFinalSlash, authority_withFinalSlash]
    exact h.authority
  · rw [scheme_withFinalSlash]
    intro hfile hbegins
    have halone := (h.isPathOf hpath).begins hfile
    rw [withFinalSlash, hpath] at hdone
    split at hdone
    · rw [hpath] at hdone
      obtain rfl := Path.segments.inj hdone
      have hempty := halone (by rw [List.head?_append, hbegins]; rfl)
      cases done with
      | nil => cases hbegins
      | cons name more => simp at hempty
    · next hends =>
      obtain rfl : names = done := List.append_cancel_right (Path.segments.inj hdone)
      rw [halone hbegins] at hends
      exact hends rfl

theorem IsBase.join {base : Url} {done : List String} (h : base.IsBase done) {text : String}
    (hne : text ≠ "") (htext : IsPath text.toList)
    (hdrives : ∀ piece ∈ Text.fields '/' text.toList, isDrive piece = false) :
    Url.join base text = .ok { base with
      path := .segments (done
          ++ (Text.fields '/' text.toList).map fun piece => String.ofList (encode pathSet piece))
      query := none
      fragment := none } :=
  join_of_isPath h.path hne htext fun hscheme => ⟨h.authority hscheme, h.begins hscheme, hdrives⟩

end Slash

end Pinning.Url
