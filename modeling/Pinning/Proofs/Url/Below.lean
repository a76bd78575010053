import Pinning.Proofs.Url.Relative
import Pinning.Http.Base
/-!
What stands below a URL. A service is asked for documents below its base URL, whose path ends in a
slash; where the request goes is read off the result of joining.
-/

set_option autoImplicit false
set_option relaxedAutoImplicit false

namespace Pinning.Url

open Reader

/-- Whom a URL asks, and how: the scheme, and the host and the port if there is an authority. -/
def site (u : Url) : String × Option (Host × Option Nat) :=
  (u.scheme, u.authority.map fun a => (a.host, a.port))

/-- The URL asks the site of the base for what the path stands for below it, and for nothing else.
-/
structure StandsBelow (u base : Url) (path : String) : Prop where
  site : u.site = base.site
  path : u.decodedPath = base.decodedPath ++ Text.utf8Bytes path.toList
  query : u.query = none
  fragment : u.fragment = none

/-- The URL asks the site of the base for the entry of this name: the path is that of the base and
one segment more, which stands for the name, and there is no query. -/
structure StandsIn (u base : Url) (name : String) : Prop where
  site : u.site = base.site
  path : ∃ done segment, base.path = .segments (done ++ [""])
    ∧ u.path = .segments (done ++ [segment])
    ∧ decodedBytes segment.toList = Text.utf8Bytes name.toList
  query : u.query = none

def atHost (host : String) (names : List String) : Url where
  scheme := "http"
  authority := some { credentials := {}, host := .domain host, port := none }
  path := .segments names
  query := none
  fragment := none

section Joining

variable {base u : Url} {done : List String} {text : String}

theorem standsBelow_iff_of_join (h : isNetworkScheme base.scheme = true)
    (hbase : base.path = .segments (done ++ [""])) (hne : text ≠ "")
    (hjoin : join base text = .ok u) :
    u.StandsBelow base text ↔ IsPath text.toList := by
  constructor
  · intro hbelow
    exact isPath_of_join h hbase hne hjoin (congrArg Prod.fst hbelow.site) hbelow.path
  · intro htext
    rw [join_of_isPath hbase hne htext fun hfile =>
      absurd hfile (ne_file_of_isNetworkScheme h)] at hjoin
    obtain rfl := Except.ok.inj hjoin
    refine { site := rfl, path := ?_, query := rfl, fragment := rfl }
    have hescape : ∀ piece ∈ Text.fields '/' text.toList, hasEscape piece = false := by
      intro piece hpiece
      have hkept := htext.segments piece hpiece
      simp only [isAltered, Bool.or_eq_false_iff] at hkept
      exact hkept.2
    have hempty : pathBytes [""] = String.utf8EncodeChar '/' := by decide
    rw [decodedPath_of_segments rfl, decodedPath_of_segments hbase, pathBytes_append,
      pathBytes_map_encode hescape, pieceBytes_fields, pathBytes_append, hempty, List.append_assoc]

theorem standsIn_iff_of_join (h : isNetworkScheme base.scheme = true)
    (hbase : base.path = .segments (done ++ [""])) (hne : text ≠ "")
    (hjoin : join base text = .ok u) :
    u.StandsIn base text ↔ IsPath text.toList ∧ '/' ∉ text.toList := by
  constructor
  · rintro ⟨hsite, ⟨done', segment, hbase', hpath, hsegment⟩, hquery⟩
    obtain rfl : done = done' := by simpa [hbase] using hbase'
    have htext : IsPath text.toList := by
      refine isPath_of_join h hbase hne hjoin (congrArg Prod.fst hsite) ?_
      rw [decodedPath_of_segments hpath, decodedPath_of_segments hbase, pathBytes_append,
        pathBytes_append, List.append_assoc]
      simp [pathBytes, hsegment, decodedBytes]
    refine ⟨htext, ?_⟩
    rw [join_of_isPath hbase hne htext fun hfile =>
      absurd hfile (ne_file_of_isNetworkScheme h)] at hjoin
    obtain rfl := Except.ok.inj hjoin
    have hlength := congrArg List.length (List.append_cancel_left (Path.segments.inj hpath))
    rw [List.length_map, Text.length_fields] at hlength
    simpa [List.count_eq_zero] using hlength
  · rintro ⟨htext, hslash⟩
    have hkept := htext.segments text.toList (by simp [Text.fields_eq_singleton hslash])
    simp only [isAltered, Bool.or_eq_false_iff] at hkept
    rw [join_of_isPath hbase hne htext fun hfile => absurd hfile (ne_file_of_isNetworkScheme h),
      Text.fields_eq_singleton hslash] at hjoin
    obtain rfl := Except.ok.inj hjoin
    refine { site := rfl, path := ⟨done, _, hbase, rfl, ?_⟩, query := rfl }
    rw [String.toList_ofList, decodedBytes_encode keepsEscapes_pathSet,
      decodedBytes_eq_utf8Bytes_iff.2 hkept.2]

end Joining

section Base

theorem path_of_ofChars (cs : List Char) :
    Ensures (fun u => isNetworkScheme u.scheme = true →
        ∃ names, u.path = .segments names) (ofChars none cs) := by
  rw [ofChars]
  dsimp only
  split
  · next scheme behind hscheme =>
    refine .ite (fun _ u hu hnetwork => ?_) fun _ =>
      .ite (fun hnetwork => ?_) fun hother u hu hnetwork => ?_
    · have hbase : ∀ u ∈ (none : Option Url), u.scheme = "file" := by simp
      exact absurd (scheme_of_file hbase _ u hu) (ne_file_of_isNetworkScheme hnetwork)
    · exact .map (path_of_withAuthority scheme _) fun u hu _ => ⟨_, hu.2.choose_spec.2⟩
    · rw [scheme_of_other scheme _ u hu] at hnetwork
      exact absurd hnetwork hother
  · intro u hu
    cases hu

theorem path_withFinalSlash {u : Url} {names : List String} (h : u.path = .segments names) :
    ∃ done, u.withFinalSlash.path = .segments (done ++ [""]) := by
  rw [withFinalSlash, h]
  split
  · next hends =>
    obtain ⟨done, rfl⟩ := List.getLast?_eq_some_iff.1 (by simpa [Path.endsWithSlash] using hends)
    exact ⟨done, h⟩
  · exact ⟨names, rfl⟩

theorem scheme_withFinalSlash (u : Url) : u.withFinalSlash.scheme = u.scheme := by
  rw [withFinalSlash]
  split
  · rfl
  · split <;> rfl

theorem parse_of_toOption {written : String} {u : Url} (h : (parse written).toOption = some u) :
    parse written = .ok u := by
  cases hparse : parse written with
  | error cause => simp [hparse, Except.toOption] at h
  | ok found =>
    obtain rfl : found = u := by simpa [hparse, Except.toOption] using h
    rfl

theorem baseUrl_of_parse {written : String} {u : Url} (h : (parse written).toOption = some u) :
    Http.baseUrl written = .ok u.withFinalSlash := by
  rw [Http.baseUrl, parse_of_toOption h]

theorem path_of_baseUrl {written : String} {base : Url} (hbase : Http.baseUrl written = .ok base)
    (h : isNetworkScheme base.scheme = true) : ∃ done, base.path = .segments (done ++ [""]) := by
  rw [Http.baseUrl] at hbase
  split at hbase
  · next u hu =>
    obtain rfl := Except.ok.inj hbase
    rw [scheme_withFinalSlash] at h
    obtain ⟨names, hnames⟩ := path_of_ofChars _ u hu h
    exact path_withFinalSlash hnames
  · cases hbase

end Base

end Pinning.Url
