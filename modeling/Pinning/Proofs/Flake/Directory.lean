import Pinning.Proofs.Flake
import Pinning.Proofs.Text
/-!
Whether the directory can be read from the written form of a reference. It is written as a query of
its own behind the URL; a URL that has a query already ends up with two, the second of which is part
of the last parameter of the first.
-/

set_option autoImplicit false
set_option relaxedAutoImplicit false

namespace Pinning.Flake

def query (written : List Char) : List Char := ((Text.cutFirst? '?' written).map Prod.snd).getD []

/-- The parameters among the parts of a query: those with a name and a value. -/
def parametersAmong (parts : List (List Char)) : List (List Char × List Char) :=
  parts.filterMap (Text.cutFirst? '=')

def parameters (written : String) : List (List Char × List Char) :=
  parametersAmong (Text.fields '&' (query written.toList))

section Query

theorem query_of_notMem {cs : List Char} (h : '?' ∉ cs) : query cs = [] := by
  rw [query, Text.cutFirst?_eq_none_iff.2 h]
  rfl

theorem query_append {front : List Char} (h : '?' ∉ front) (behind : List Char) :
    query (front ++ '?' :: behind) = behind := by
  have hcut : Text.cutFirst? '?' (front ++ '?' :: behind) = some (front, behind) :=
    Text.cutFirst?_eq_some_iff.2 ⟨rfl, h⟩
  rw [query, hcut]
  rfl

/-- A second query makes another parameter of the text that it stands behind: it is neither the one
that the text had, nor the one that the second query was to be. -/
theorem exists_parameter_of_behind (text dir : List Char) :
    ∃ parameter, Text.cutFirst? '=' (text ++ '?' :: ("dir=".toList ++ dir)) = some parameter
      ∧ parameter ≠ ("dir".toList, dir) ∧ Text.cutFirst? '=' text ≠ some parameter := by
  cases hcut : Text.cutFirst? '=' text with
  | none =>
    -- The text had no value: it becomes part of the name.
    have hname : '=' ∉ text ++ "?dir".toList := by simpa using Text.cutFirst?_eq_none_iff.1 hcut
    refine ⟨(text ++ "?dir".toList, dir), Text.cutFirst?_eq_some_iff.2 ⟨by simp, hname⟩,
      ?_, by simp⟩
    intro heq
    have hlength := congrArg List.length (Prod.mk.inj heq).1
    simp at hlength
  | some parameter =>
    -- The text had a value: the second query becomes part of it.
    obtain ⟨name, value⟩ := parameter
    obtain ⟨rfl, hname⟩ := Text.cutFirst?_eq_some_iff.1 hcut
    refine ⟨(name, value ++ '?' :: ("dir=".toList ++ dir)),
      Text.cutFirst?_eq_some_iff.2 ⟨by simp, hname⟩, ?_, ?_⟩
    · intro heq
      have hlength := congrArg List.length (Prod.mk.inj heq).2
      simp at hlength
      omega
    · intro heq
      simp at heq

private theorem subset_concat_iff {α : Type} {required kept : List α} {last : α}
    (h : last ∈ required → last ∈ kept) : required ⊆ kept ++ [last] ↔ required ⊆ kept := by
  constructor
  · intro hsubset item hitem
    rcases List.mem_append.1 (hsubset hitem) with hkept | hlast
    · exact hkept
    · obtain rfl := List.mem_singleton.1 hlast
      exact h hitem
  · exact fun hsubset => List.Subset.trans hsubset (List.subset_append_left _ _)

end Query

namespace Ref

variable {r : Ref}

def kindsWithForm : List String := ["github", "gitlab", "sourcehut", "indirect", "path"]

/-- What is to be read from the written form of a reference: its directory, and the parameters of
its URL. -/
def parametersToTell (r : Ref) : List (List Char × List Char) :=
  ("dir".toList, r.dir.toList) :: parameters r.url

section Written

variable (hkind : r.kind ∉ kindsWithForm) (hmark : '?' ∉ r.kind.toList) (hdir : r.dir ≠ "")
include hkind hmark hdir

theorem exists_render_eq :
    ∃ front, '?' ∉ front ∧ r.render.toList
      = front ++ r.url.toList ++ '?' :: ("dir=".toList ++ r.dir.toList) := by
  obtain ⟨hshows, hpath⟩ : showsRev r.kind = false ∧ r.kind ≠ "path" := by
    simpa [kindsWithForm, showsRev, isForge, and_assoc] using hkind
  have hquery : "?dir=".toList = '?' :: "dir=".toList := by decide
  rw [render, if_neg hdir, source_of_other hshows, if_neg hpath]
  split
  · exact ⟨[], by simp, by simp [hquery]⟩
  · exact ⟨(r.kind ++ "+").toList, by simpa using hmark, by simp [hquery]⟩

theorem parameters_render_of_notMem (hampersand : '&' ∉ r.dir.toList) (hurl : '?' ∉ r.url.toList) :
    parameters r.render = [("dir".toList, r.dir.toList)] := by
  obtain ⟨front, hfront, hrender⟩ := exists_render_eq hkind hmark hdir
  have hpart : '&' ∉ "dir=".toList ++ r.dir.toList := by simpa using hampersand
  have hcut : Text.cutFirst? '=' ("dir=".toList ++ r.dir.toList)
      = some ("dir".toList, r.dir.toList) :=
    Text.cutFirst?_eq_some_iff.2 ⟨by simp, by decide⟩
  rw [parameters, hrender, query_append (by simp [hfront, hurl]), Text.fields_eq_singleton hpart,
    parametersAmong, List.filterMap_cons_some hcut, List.filterMap_nil]

theorem exists_parameters_render_of_mem (hampersand : '&' ∉ r.dir.toList)
    (hurl : '?' ∈ r.url.toList) :
    ∃ altered, altered ≠ ("dir".toList, r.dir.toList)
      ∧ parameters r.render = parametersAmong (Text.fields '&' (query r.url.toList)).dropLast
        ++ [altered]
      ∧ (altered ∈ parameters r.url →
        altered ∈ parametersAmong (Text.fields '&' (query r.url.toList)).dropLast) := by
  obtain ⟨front, hfront, hrender⟩ := exists_render_eq hkind hmark hdir
  obtain ⟨before, own, hown, hbefore⟩ := List.eq_append_cons_of_mem hurl
  have hquery : query r.render.toList = own ++ '?' :: ("dir=".toList ++ r.dir.toList) := by
    have hfirst : r.render.toList
        = (front ++ before) ++ '?' :: (own ++ '?' :: ("dir=".toList ++ r.dir.toList)) := by
      rw [hrender, hown]
      simp
    rw [hfirst, query_append (by simp [hfront, hbefore])]
  have hadded : '&' ∉ '?' :: ("dir=".toList ++ r.dir.toList) := by simpa using hampersand
  obtain ⟨parts, last, hparts, hboth⟩ := Text.fields_append_of_notMem hadded own
  obtain ⟨altered, haltered, hdirectory, hlast⟩ := exists_parameter_of_behind last r.dir.toList
  have hurlQuery : query r.url.toList = own := by rw [hown, query_append hbefore]
  refine ⟨altered, hdirectory, ?_, ?_⟩
  · rw [parameters, hquery, hboth, hurlQuery, hparts, List.dropLast_concat, parametersAmong,
      List.filterMap_append, List.filterMap_cons_some haltered, List.filterMap_nil, parametersAmong]
  · rw [parameters, hurlQuery, hparts, List.dropLast_concat, parametersAmong, List.filterMap_append]
    intro hmem
    rcases List.mem_append.1 hmem with hmem | hmem
    · exact hmem
    · obtain ⟨part, hpart, hsome⟩ := List.mem_filterMap.1 hmem
      rw [List.mem_singleton.1 hpart] at hsome
      exact absurd hsome hlast

end Written

/-- The directory and the parameters of the URL can be read from the written form of a reference if
the URL has no query. If it has one, they can be read only if the parts of this query other than the
last one tell all of them already. The parameters are those of the URL and the directory behind them
exactly if the URL has no query. -/
theorem tells_directory_iff (hkind : r.kind ∉ kindsWithForm) (hmark : '?' ∉ r.kind.toList)
    (hdir : r.dir ≠ "") (hampersand : '&' ∉ r.dir.toList) :
    (r.parametersToTell ⊆ parameters r.render
        ↔ '?' ∉ r.url.toList
          ∨ r.parametersToTell ⊆ parametersAmong (Text.fields '&' (query r.url.toList)).dropLast)
      ∧ (parameters r.render = parameters r.url ++ [("dir".toList, r.dir.toList)]
          ↔ '?' ∉ r.url.toList) := by
  by_cases hurl : '?' ∈ r.url.toList
  · obtain ⟨altered, hdirectory, hrender, hown⟩ :=
      exists_parameters_render_of_mem hkind hmark hdir hampersand hurl
    have htold : altered ∈ r.parametersToTell →
        altered ∈ parametersAmong (Text.fields '&' (query r.url.toList)).dropLast := by
      intro hmem
      rcases List.mem_cons.1 hmem with heq | hmem
      · exact absurd heq hdirectory
      · exact hown hmem
    rw [hrender, subset_concat_iff htold]
    refine ⟨by simp [hurl], ?_⟩
    constructor
    · intro heq
      have hlast := (List.append_inj' heq rfl).2
      exact absurd (List.singleton_inj.1 hlast) hdirectory
    · exact fun hnone => absurd hurl hnone
  · have hrender := parameters_render_of_notMem hkind hmark hdir hampersand hurl
    have hnone : parameters r.url = [] := by
      rw [parameters, query_of_notMem hurl]
      rfl
    rw [hrender, parametersToTell, hnone]
    simp [hurl]

theorem tells_directory_iff_archive :
    parameters
      (render { kind := "tarball", url := "https://example.com/src.tar.gz", dir := "a=b/c" })
      = [("dir".toList, "a=b/c".toList)] := by
  have hnone : '?' ∉ "https://example.com/src.tar.gz".toList := by decide
  exact (tells_directory_iff
    (r := { kind := "tarball", url := "https://example.com/src.tar.gz", dir := "a=b/c" })
    (by decide) (by decide) (by decide) (by decide)).2.2 hnone

/-- A repository whose URL names a branch in its query is written without a directory, and with
another branch. -/
theorem parameters_of_branchUrl :
    ∃ r : Ref, r.kind = "git" ∧ r.url = "https://example.com/r?ref=main" ∧ r.dir = "sub"
      ∧ parameters r.url = [("ref".toList, "main".toList)]
      ∧ parameters r.render = [("ref".toList, "main?dir=sub".toList)]
      ∧ ¬ r.parametersToTell ⊆ parameters r.render :=
  ⟨{ kind := "git", url := "https://example.com/r?ref=main", dir := "sub" }, rfl, rfl,
    rfl, by decide +kernel, by decide +kernel, by decide +kernel⟩

end Ref

end Pinning.Flake
