import Pinning.Proofs.Url.Reader
/-!
Where a relative reference leads. A text that is a path leads to something below the base, and only
such a text does: a scheme, an authority, a slash in front, a query, a fragment, a dot segment, an
escape or a character that is left out makes the path of the result shorter than base and text
together.
-/

set_option autoImplicit false
set_option relaxedAutoImplicit false

namespace Pinning.Url

open Reader

def decodedPath (u : Url) : List UInt8 := decodedBytes u.path.render.toList

theorem decodedPath_of_segments {u : Url} {names : List String} (h : u.path = .segments names) :
    u.decodedPath = pathBytes names := by
  rw [decodedPath, h, decodedBytes_render]

def startsWithSlash (cs : List Char) : Bool := cs.head?.any (isSlash true)

section Sizes

variable {base : Url} {done : List String} {parts : Parts}

private theorem length_decodedPath_base (hbase : base.path = .segments (done ++ [""])) :
    base.decodedPath.length = (pathBytes done).length + 1 := by
  have hempty : (pathBytes [""]).length = 1 := by decide
  rw [decodedPath_of_segments hbase, pathBytes_append, List.length_append, hempty]

private theorem length_decodedPath_withAuthority {scheme : String}
    (h : isNetworkScheme scheme = true) (parts : Parts) :
    Ensures (fun u => u.decodedPath.length ≤ 1 + (Text.utf8Bytes parts.main).length)
      (withAuthority scheme parts) := by
  intro u hu
  obtain ⟨-, cs, hcs, hpath⟩ := path_of_withAuthority scheme parts u hu
  have hle := Text.length_utf8Bytes_le_of_sublist hcs
  have hroot := length_pathBytes_rootSegments h cs
  rw [decodedPath_of_segments hpath]
  omega

/-- The path of a URL is no longer than that of the base and the text together, and shorter if the
text begins with a slash. -/
def StaysWithin (base : Url) (main : List Char) (u : Url) : Prop :=
  u.decodedPath.length + (if startsWithSlash main then 1 else 0)
    ≤ base.decodedPath.length + (Text.utf8Bytes main).length

private theorem staysWithin_of_length {main : List Char} {u : Url}
    (h : u.decodedPath.length + 1 ≤ base.decodedPath.length + (Text.utf8Bytes main).length) :
    StaysWithin base main u := by
  unfold StaysWithin
  split <;> omega

theorem staysWithin_of_relative (h : isNetworkScheme base.scheme = true)
    (hbase : base.path = .segments (done ++ [""])) (parts : Parts) :
    Ensures (StaysWithin base parts.main) (relative base parts) := by
  have hslashes : ∀ c rest, isSlash true c = true →
      (Text.utf8Bytes (c :: rest)).length = 1 + (Text.utf8Bytes rest).length := by
    intro c rest hc
    rcases (by simpa [isSlash] using hc : c = '/' ∨ c = '\\') with rfl | rfl <;>
      simp [String.utf8EncodeChar, Nat.add_comm]
  have hone := length_decodedPath_base hbase
  have hrooted : ∀ names cs,
      (withTail parts
          { base with path := .segments (segmentsFrom base.scheme names cs) }).decodedPath.length
        ≤ (pathBytes names).length + 1 + (Text.utf8Bytes cs).length := by
    intro names cs
    have hle := length_pathBytes_segmentsFrom h names cs
    rw [decodedPath_of_segments (path_withTail _ _)]
    omega
  unfold relative
  dsimp only
  split
  · next hmain =>
    exact .pure (by simp [StaysWithin, decodedPath, startsWithSlash, hmain])
  · next rest hmain =>
    refine .bind (length_decodedPath_withAuthority h _) fun u hu => .pure (staysWithin_of_length ?_)
    have hu : (withTail parts u).decodedPath.length ≤ 1 + (Text.utf8Bytes rest).length := hu
    rw [hmain, hslashes _ _ rfl, hslashes _ _ rfl]
    omega
  · next first rest hnot hmain =>
    refine .ite (fun hslash => ?_) fun hslash => ?_
    · refine .ite (fun hsecond => ?_) fun hsecond => ?_
      · have hle := Text.length_utf8Bytes_le_of_sublist
          (List.dropWhile_sublist (l := rest) (isSlash true))
        refine .bind (length_decodedPath_withAuthority h _) fun u hu =>
          .pure (staysWithin_of_length ?_)
        have hu : (withTail parts u).decodedPath.length
          ≤ 1 + (Text.utf8Bytes (rest.dropWhile (isSlash true))).length := hu
        rw [hmain, hslashes _ _ hslash]
        omega
      · have hle := hrooted [] rest
        have hnil : (pathBytes []).length = 0 := rfl
        refine .pure (staysWithin_of_length ?_)
        rw [hmain, hslashes _ _ hslash]
        omega
    · have hnames : (segmentsOf base).dropLast = done := by
        simp [segmentsOf, hbase]
      have hle := hrooted done (first :: rest)
      have hflag : startsWithSlash (first :: rest) = false := by
        simpa [startsWithSlash] using hslash
      refine .pure ?_
      rw [StaysWithin, hnames, hmain, hflag]
      simp only [Bool.false_eq_true, if_false]
      omega

end Sizes

/-- Every character of the text stands for itself in a path, and no segment is a dot segment or
holds an escape. -/
structure IsPlain (cs : List Char) : Prop where
  characters : ∀ c ∈ cs, c ∉ ['\t', '\n', '\r', '?', '#', '\\']
  segments : ∀ piece ∈ Text.fields '/' cs, isAltered piece = false

/-- Whether a text is plain can be tested character by character and segment by segment. -/
instance (cs : List Char) : Decidable (IsPlain cs) :=
  decidable_of_iff
    ((cs.all fun c => c ∉ ['\t', '\n', '\r', '?', '#', '\\'])
      ∧ (Text.fields '/' cs).all fun piece => isAltered piece = false) <| by
    rw [List.all_iff_forall_prop, List.all_iff_forall_prop]
    exact ⟨fun ⟨hcharacters, hsegments⟩ => ⟨hcharacters, hsegments⟩,
      fun ⟨hcharacters, hsegments⟩ => ⟨hcharacters, hsegments⟩⟩

/-- The text, read as a reference, is the path to something below the base and nothing else. -/
structure IsPath (cs : List Char) : Prop extends IsPlain cs where
  begins : ∀ c ∈ cs.head?, c ≠ '/' ∧ isEdge c = false
  ends : ∀ c ∈ cs.getLast?, isEdge c = false
  schemeless : scheme? cs = none

theorem isPlain_append_iff (before behind : List Char) :
    IsPlain (before ++ '/' :: behind) ↔ IsPlain before ∧ IsPlain behind := by
  constructor
  · rintro ⟨hcharacters, hsegments⟩
    rw [Text.fields_append] at hsegments
    constructor
    · exact ⟨fun c hc => hcharacters c (by simp [hc]),
        fun piece hpiece => hsegments piece (by simp [hpiece])⟩
    · exact ⟨fun c hc => hcharacters c (by simp [hc]),
        fun piece hpiece => hsegments piece (by simp [hpiece])⟩
  · rintro ⟨hbefore, hbehind⟩
    constructor
    · intro c hc
      rcases List.mem_append.1 hc with hc | hc
      · exact hbefore.characters c hc
      · rcases List.mem_cons.1 hc with rfl | hc
        · decide
        · exact hbehind.characters c hc
    · rw [Text.fields_append]
      intro piece hpiece
      rcases List.mem_append.1 hpiece with hpiece | hpiece
      · exact hbefore.segments piece hpiece
      · exact hbehind.segments piece hpiece

section Cleaning

theorem clean_eq_iff {cs : List Char} :
    clean cs = cs ↔ (∀ c ∈ cs, c ∉ ['\t', '\n', '\r']) ∧ (∀ c ∈ cs.head?, isEdge c = false)
      ∧ ∀ c ∈ cs.getLast?, isEdge c = false := by
  have hfilter : ∀ cs : List Char, (cs.filter fun c => c != '\t' && c != '\n' && c != '\r') = cs
      ↔ ∀ c ∈ cs, c ∉ ['\t', '\n', '\r'] := by
    intro cs
    simp [List.filter_eq_self, and_assoc]
  constructor
  · intro h
    -- Each of the three steps leaves characters out, so each of them leaves the text as it is.
    have hfront := List.dropWhile_sublist (l := cs) isEdge
    have hback := (List.dropWhile_sublist (l := (cs.dropWhile isEdge).reverse) isEdge).reverse
    rw [List.reverse_reverse] at hback
    have hinside : cs.Sublist ((cs.dropWhile isEdge).reverse.dropWhile isEdge).reverse := by
      have hsub : (clean cs).Sublist _ := List.filter_sublist
      rwa [h] at hsub
    have hbegins : cs.dropWhile isEdge = cs :=
      hfront.eq_of_length_le (hinside.trans hback).length_le
    rw [hbegins] at hinside hback
    have hends : (cs.reverse.dropWhile isEdge).reverse = cs :=
      hback.eq_of_length_le hinside.length_le
    rw [clean, hbegins, hends] at h
    refine ⟨(hfilter cs).1 h, dropWhile_isEdge_eq_iff.1 hbegins, ?_⟩
    simpa using dropWhile_isEdge_eq_iff.1 (List.reverse_eq_iff.1 hends)
  · rintro ⟨hinside, hbegins, hends⟩
    have hreverse : cs.reverse.dropWhile isEdge = cs.reverse :=
      dropWhile_isEdge_eq_iff.2 (by simpa using hends)
    rw [clean, dropWhile_isEdge_eq_iff.2 hbegins, hreverse, List.reverse_reverse,
      (hfilter cs).2 hinside]

end Cleaning

section Below

variable {base u : Url} {done : List String} {cs : List Char}

theorem IsPlain.pieces_eq (h : IsPlain cs) (special : Bool) :
    pieces special cs = Text.fields '/' cs := by
  refine pieces_eq_fields fun c hc hslash => ?_
  rcases (by simpa [isSlash] using hslash : c = '/' ∨ special = true ∧ c = '\\') with rfl | ⟨-, rfl⟩
  · rfl
  · exact absurd (by simp) (h.characters _ hc)

theorem IsPath.cut_clean (h : IsPath cs) :
    cut (clean cs) = { main := cs, query := none, fragment := none } := by
  have hclean : clean cs = cs := by
    refine clean_eq_iff.2 ⟨fun c hc => ?_, fun c hc => (h.begins c hc).2, h.ends⟩
    have hplain := h.characters c hc
    simp only [List.mem_cons, not_or] at hplain ⊢
    exact ⟨hplain.1, hplain.2.1, hplain.2.2.1, hplain.2.2.2.2.2.2⟩
  rw [hclean]
  exact cut_eq (fun hmem => by simpa using h.characters _ hmem)
    fun hmem => by simpa using h.characters _ hmem

theorem IsPath.startsWithSlash_eq_false (h : IsPath cs) : startsWithSlash cs = false := by
  cases cs with
  | nil => rfl
  | cons first rest =>
    have hfirst := (h.begins first rfl).1
    have hback : first ≠ '\\' := by
      rintro rfl
      exact h.characters _ List.mem_cons_self (by simp)
    simp [startsWithSlash, isSlash, hfirst, hback]

/-- What keeps the rules for files out of joining a text to the segments of a base: the base has an
authority, it does not begin with an empty segment, and no segment of the text is a drive. -/
structure JoinsAsFile (base : Url) (done : List String) (cs : List Char) : Prop where
  authority : base.authority.isSome = true
  begins : done.head? ≠ some ""
  drives : ∀ piece ∈ Text.fields '/' cs, isDrive piece = false

private theorem withoutLeadingEmpty_eq {names : List String} (h : names.head? ≠ some "") :
    withoutLeadingEmpty names = names := by
  unfold withoutLeadingEmpty
  split
  · simp at h
  · rfl

private theorem head?_append_encode (hne : cs ≠ []) (hslash : startsWithSlash cs = false)
    (hdone : done.head? ≠ some "") :
    (done ++ (Text.fields '/' cs).map fun piece => String.ofList (encode pathSet piece)).head?
      ≠ some "" := by
  obtain ⟨c, rest, rfl⟩ := List.exists_cons_of_ne_nil hne
  have hc : c ≠ '/' := by
    rintro rfl
    simp [startsWithSlash, isSlash] at hslash
  cases done with
  | cons name more => simpa using hdone
  | nil =>
    rw [Text.fields, if_neg hc]
    cases Text.fields '/' rest with
    | nil => simpa using encode_ne_nil (List.cons_ne_nil c [])
    | cons first more => simpa using encode_ne_nil (List.cons_ne_nil c first)

theorem segmentsFrom_of_isPath (h : IsPath cs) (hne : cs ≠ [])
    (hfile : base.scheme = "file" → JoinsAsFile base done cs) :
    segmentsFrom base.scheme done cs
      = done ++ (Text.fields '/' cs).map fun piece => String.ofList (encode pathSet piece) := by
  rw [segmentsFrom, h.pieces_eq, walk_eq_append]
  · split
    · next hscheme =>
      have hbegins := (hfile (by simpa using hscheme)).begins
      exact withoutLeadingEmpty_eq (head?_append_encode hne h.startsWithSlash_eq_false hbegins)
    · rfl
  · intro piece hpiece
    have hkept := h.segments piece hpiece
    simp only [isAltered, Bool.or_eq_false_iff] at hkept
    exact hkept.1
  · intro hscheme
    exact (hfile (by simpa using hscheme)).drives

theorem relative_eq (hbase : base.path = .segments (done ++ [""])) {parts : Parts}
    (hparts : parts.main ≠ []) (hslash : startsWithSlash parts.main = false) :
    relative base parts
      = .ok (withTail parts
        { base with path := .segments (segmentsFrom base.scheme done parts.main) }) := by
  have hnames : (segmentsOf base).dropLast = done := by simp [segmentsOf, hbase]
  unfold relative
  dsimp only
  split
  · next hmain => exact absurd hmain hparts
  · next rest hmain => simp [hmain, startsWithSlash, isSlash] at hslash
  · next first rest hnot hmain =>
    have hfirst : isSlash true first = false := by simpa [hmain, startsWithSlash] using hslash
    rw [if_neg (by simp [hfirst]), hnames, hmain]
    rfl

theorem file_eq (hbase : base.path = .segments (done ++ [""])) (hscheme : base.scheme = "file")
    (h : IsPath cs) (hne : cs ≠ []) (hfile : JoinsAsFile base done cs) :
    file (some base) { main := cs, query := none, fragment := none }
      = .ok
        { base with
          path := .segments (segmentsFrom base.scheme done cs), query := none,
          fragment := none } := by
  obtain ⟨authority, hauthority⟩ := Option.isSome_iff_exists.1 hfile.authority
  obtain ⟨first, rest, rfl⟩ := List.exists_cons_of_ne_nil hne
  have hfirst : isSlash true first = false := by
    simpa [startsWithSlash] using h.startsWithSlash_eq_false
  have hdrive : startsWithDrive (first :: rest) = false := by
    refine hfile.drives _ ?_
    rw [← h.pieces_eq true]
    exact List.mem_of_mem_head? (head?_pieces true _)
  have hleave : leave true (segmentsOf base) = done := by
    simp [segmentsOf, hbase, leave, isNormalDrive]
  -- Whether a second character follows or not, it is the first one that rules out an authority.
  unfold file
  rcases rest with _ | ⟨second, more⟩
  all_goals
    simp only [hfirst, hdrive, Bool.false_eq_true, false_and, if_false, Option.bind_some,
      Option.map_some, Option.getD_some, hauthority, hscheme, hleave]
    rfl

theorem join_of_isPath (hbase : base.path = .segments (done ++ [""])) {text : String}
    (hne : text ≠ "") (htext : IsPath text.toList)
    (hfile : base.scheme = "file" → JoinsAsFile base done text.toList) :
    join base text = .ok { base with
      path := .segments (done ++ (Text.fields '/' text.toList).map fun piece =>
        String.ofList (encode pathSet piece))
      query := none
      fragment := none } := by
  have hlist : text.toList ≠ [] := by simpa using hne
  have hsegments := segmentsFrom_of_isPath htext hlist hfile
  rw [join, ofChars, htext.cut_clean]
  simp only [htext.schemeless, hbase]
  split
  · next hscheme => rw [file_eq hbase hscheme htext hlist (hfile hscheme), hsegments]
  · rw [relative_eq hbase hlist htext.startsWithSlash_eq_false, hsegments]
    rfl

private theorem length_of_scheme? (h : isNetworkScheme base.scheme = true)
    (hbase : base.path = .segments (done ++ [""])) {scheme : String} {behind : List Char}
    (hfound : scheme? (cut (clean cs)).main = some (scheme, behind)) :
    Ensures (fun u => u.scheme = base.scheme →
        u.decodedPath.length ≤ base.decodedPath.length + (Text.utf8Bytes behind).length)
      (ofChars (some base) cs) := by
  have hone := length_decodedPath_base hbase
  have hdrop : (Text.utf8Bytes (behind.drop (behind.takeWhile (isSlash true)).length)).length
      ≤ (Text.utf8Bytes behind).length :=
    Text.length_utf8Bytes_le_of_sublist (List.drop_sublist _ _)
  rw [ofChars]
  simp only [hfound]
  refine .ite (fun hfile => ?_) fun _ => .ite (fun hnetwork => ?_) fun hother => ?_
  -- The result keeps the scheme that was read, so only the scheme of the base itself is of
  -- interest.
  · have hnone : (some base).filter (fun b => b.scheme == "file") = none := by
      simp [ne_file_of_isNetworkScheme h]
    rw [hnone]
    intro u hu hscheme
    have hbase : ∀ u ∈ (none : Option Url), u.scheme = "file" := by simp
    exact absurd (hscheme.symm.trans (scheme_of_file hbase _ u hu)) (ne_file_of_isNetworkScheme h)
  · by_cases hsame : base.scheme = scheme
    · have hsome : (some base).filter (fun b => b.scheme == scheme) = some base := by simp [hsame]
      simp only [hsome]
      refine .ite (fun _ u hu _ => ?_) fun _ => .map (length_decodedPath_withAuthority hnetwork _)
        fun u hu _ => ?_
      · have hwithin := staysWithin_of_relative h hbase _ u hu
        unfold StaysWithin at hwithin
        dsimp only at hwithin
        omega
      · change u.decodedPath.length ≤ _
        dsimp only at hu
        omega
    · have hnone : (some base).filter (fun b => b.scheme == scheme) = none := by simp [hsame]
      simp only [hnone]
      exact .map (path_of_withAuthority scheme _) fun u hu hscheme =>
        absurd (hscheme.symm.trans hu.1) hsame
  · intro u hu hscheme
    have hsame := hscheme.symm.trans (scheme_of_other scheme _ u hu)
    rw [hsame] at h
    exact absurd h hother

/-- What has the scheme of the base and is as long as the base and the text together was read from
the text as it stands, behind the segments of the base. -/
private theorem path_of_join (h : isNetworkScheme base.scheme = true)
    (hbase : base.path = .segments (done ++ [""])) {text : String} (hne : text ≠ "")
    (hjoin : join base text = .ok u) (hscheme : u.scheme = base.scheme)
    (hlength : base.decodedPath.length + (Text.utf8Bytes text.toList).length
      ≤ u.decodedPath.length) :
    (clean text.toList = text.toList ∧ '#' ∉ text.toList ∧ '?' ∉ text.toList)
      ∧ scheme? text.toList = none ∧ startsWithSlash text.toList = false
      ∧ u.path = .segments (segmentsFrom base.scheme done text.toList) := by
  obtain ⟨hmain, hcut⟩ := cut_main (clean text.toList)
  have hclean := clean_sublist text.toList
  have hle := Text.length_utf8Bytes_le_of_sublist (hmain.trans hclean)
  cases hfound : scheme? (cut (clean text.toList)).main with
  | some found =>
    obtain ⟨scheme, behind⟩ := found
    obtain ⟨hsub, hlt⟩ := scheme?_sublist hfound
    have hbehind := length_of_scheme? h hbase hfound u hjoin hscheme
    -- The scheme and its colon are gone, and nothing else is long enough to make up for them.
    have heq := Text.eq_of_sublist_of_length_le hsub (by omega)
    rw [heq] at hlt
    omega
  | none =>
    rw [join, ofChars] at hjoin
    simp only [hfound, hbase, ne_file_of_isNetworkScheme h, if_false] at hjoin
    have hwithin := staysWithin_of_relative h hbase _ u hjoin
    unfold StaysWithin at hwithin
    have hslash : startsWithSlash (cut (clean text.toList)).main = false := by
      refine Bool.eq_false_iff.2 fun htrue => ?_
      rw [if_pos htrue] at hwithin
      omega
    have hwhole : (cut (clean text.toList)).main = text.toList :=
      Text.eq_of_sublist_of_length_le (hmain.trans hclean) (by omega)
    have hkept : clean text.toList = text.toList := by
      refine hclean.eq_of_length_le ?_
      have hlength := hmain.length_le
      rwa [hwhole] at hlength
    have hmarks := hcut (hwhole.trans hkept.symm)
    rw [hkept] at hmarks
    rw [hwhole] at hfound hslash
    refine ⟨⟨hkept, hmarks⟩, hfound, hslash, ?_⟩
    rw [relative_eq hbase (by simpa [hwhole] using hne) (by rwa [hwhole]), hwhole] at hjoin
    rw [← Except.ok.inj hjoin]
    rfl

theorem isPath_of_join (h : isNetworkScheme base.scheme = true)
    (hbase : base.path = .segments (done ++ [""])) {text : String} (hne : text ≠ "")
    (hjoin : join base text = .ok u) (hscheme : u.scheme = base.scheme)
    (hpath : u.decodedPath = base.decodedPath ++ Text.utf8Bytes text.toList) :
    IsPath text.toList := by
  have hlength := congrArg List.length hpath
  rw [List.length_append] at hlength
  obtain ⟨⟨hclean, hfragment, hquery⟩, hscheme?, hslash, hsegments⟩ :=
    path_of_join h hbase hne hjoin hscheme (by omega)
  have hsize := length_pathBytes_segmentsFrom h done text.toList
  have hone := length_decodedPath_base hbase
  rw [decodedPath_of_segments hsegments] at hlength hpath
  have haltered : ∀ piece ∈ pieces true text.toList, isAltered piece = false := by
    have hzero : (pieces true text.toList).countP isAltered = 0 := by omega
    simpa using List.countP_eq_zero.1 hzero
  -- Nothing was altered on the way, so a backslash that was read as a slash would show in the path.
  have hback : '\\' ∉ text.toList := by
    have hbytes : Text.utf8Bytes (text.toList.map fun c => if isSlash true c then '/' else c)
        = Text.utf8Bytes text.toList := by
      have hkept : ∀ piece ∈ pieces true text.toList,
          isSingleDot piece = false ∧ isDoubleDot piece = false ∧ hasEscape piece = false := by
        intro piece hpiece
        simpa [isAltered, and_assoc] using haltered piece hpiece
      have hempty : pathBytes [""] = String.utf8EncodeChar '/' := by decide
      rw [segmentsFrom_eq h,
        walk_eq_append (fun piece hpiece => ⟨(hkept piece hpiece).1, (hkept piece hpiece).2.1⟩)
          (by simp),
        pathBytes_append, pathBytes_map_encode fun piece hpiece => (hkept piece hpiece).2.2,
        pieceBytes_pieces, decodedPath_of_segments hbase, pathBytes_append, hempty] at hpath
      simpa using hpath
    have hmap := Text.utf8Bytes_inj.1 hbytes
    intro hmem
    have hsame := List.map_inj_left.1 (hmap.trans (List.map_id _).symm) _ hmem
    simp [isSlash] at hsame
  have hpieces : pieces true text.toList = Text.fields '/' text.toList := by
    refine pieces_eq_fields fun c hc hslash => ?_
    rcases (by simpa [isSlash] using hslash : c = '/' ∨ c = '\\') with rfl | rfl
    · rfl
    · exact absurd hc hback
  obtain ⟨hinside, hbegins, hends⟩ := clean_eq_iff.1 hclean
  rw [hpieces] at haltered
  refine
    { characters := ?_, segments := haltered, begins := ?_, ends := hends, schemeless := hscheme? }
  · intro c hc hmem
    have hnot := hinside c hc
    simp only [List.mem_cons, List.not_mem_nil, or_false, not_or] at hmem hnot
    obtain rfl | rfl | rfl | rfl | rfl | rfl := hmem
    all_goals simp_all
  · intro c hc
    refine ⟨?_, hbegins c hc⟩
    rintro rfl
    simp [startsWithSlash, Option.mem_def.1 hc, isSlash] at hslash

end Below

section Success

theorem exists_relative_eq_ok (base : Url) {parts : Parts}
    (h : startsWithSlash parts.main = false) :
    ∃ url, relative base parts = .ok url := by
  unfold relative
  dsimp only
  split
  · exact ⟨_, rfl⟩
  · next rest hmain => simp [hmain, startsWithSlash, isSlash] at h
  · next first rest hnot hmain =>
    have hfirst : isSlash true first = false := by simpa [hmain, startsWithSlash] using h
    rw [if_neg (by simp [hfirst])]
    exact ⟨_, rfl⟩

theorem exists_file_eq_ok (base : Url) {parts : Parts} (h : startsWithSlash parts.main = false) :
    ∃ url, file (some base) parts = .ok url := by
  unfold file
  rcases hmain : parts.main with _ | ⟨first, _ | ⟨second, rest⟩⟩
  · exact ⟨_, rfl⟩
  · have hfirst : isSlash true first = false := by simpa [hmain, startsWithSlash] using h
    simp only [hfirst, Bool.false_eq_true, if_false]
    split <;> exact ⟨_, rfl⟩
  · have hfirst : isSlash true first = false := by simpa [hmain, startsWithSlash] using h
    simp only [hfirst, Bool.false_eq_true, if_false, false_and]
    split <;> exact ⟨_, rfl⟩

theorem exists_join_eq_ok {base : Url} {names : List String} (hbase : base.path = .segments names)
    {text : String} (hscheme : scheme? (cut (clean text.toList)).main = none)
    (hslash : startsWithSlash (cut (clean text.toList)).main = false) :
    ∃ url, join base text = .ok url := by
  rw [join, ofChars]
  simp only [hscheme, hbase]
  split
  · exact exists_file_eq_ok base hslash
  · exact exists_relative_eq_ok base hslash

end Success

end Pinning.Url
