import Pinning.Proofs.Spec
import Pinning.RunX.Reference
/-!
Which references their written form says all about. Reading takes owner, repository and version out
of the only place where each of them can stand, so a text is read as a reference exactly if it is
the written form of one that is readable, and no other reference is written so. Every other text is
reported as it is.
-/

set_option autoImplicit false
set_option relaxedAutoImplicit false

namespace Pinning.RunX.Reference

/-- Each part can be told from the written form: owner and repository hold no `/`, the version holds
no `@`, and none is empty. -/
structure IsReadable (r : Reference) : Prop where
  owner : r.owner ≠ "" ∧ '/' ∉ r.owner.toList
  repo : r.repo ≠ "" ∧ '/' ∉ r.repo.toList
  version : r.version ≠ "" ∧ '@' ∉ r.version.toList

theorem divide?_eq_some_iff {cs owner repo version : List Char} :
    divide? cs = some (owner, repo, version)
      ↔ cs = owner ++ '/' :: repo ++ '@' :: version ∧ (owner ≠ [] ∧ '/' ∉ owner)
        ∧ (repo ≠ [] ∧ '/' ∉ repo) ∧ version ≠ [] ∧ '@' ∉ version := by
  simp only [divide?, Option.bind_eq_bind, Option.bind_eq_some_iff, Prod.exists]
  constructor
  · rintro ⟨path, v, hlast, o, r, hfirst, hparts⟩
    obtain ⟨rfl, hversion⟩ := Text.cutLast?_eq_some_iff.1 hlast
    obtain ⟨rfl, howner⟩ := Text.cutFirst?_eq_some_iff.1 hfirst
    split at hparts
    · cases hparts
    · next hfilled =>
      obtain ⟨rfl, rfl, rfl⟩ : o = owner ∧ r = repo ∧ v = version := by simpa using hparts
      simp only [Bool.or_eq_true, List.isEmpty_iff, List.contains_iff_mem, not_or] at hfilled
      obtain ⟨⟨⟨hownerFilled, hrepoFilled⟩, hrepo⟩, hversionFilled⟩ := hfilled
      exact ⟨rfl, ⟨hownerFilled, howner⟩, ⟨hrepoFilled, hrepo⟩, hversionFilled, hversion⟩
  · rintro ⟨rfl, howner, hrepo, hversion⟩
    refine ⟨owner ++ '/' :: repo, version, Text.cutLast?_eq_some_iff.2 ⟨rfl, hversion.2⟩, owner,
      repo, Text.cutFirst?_eq_some_iff.2 ⟨rfl, howner.2⟩, ?_⟩
    simp [howner.1, hrepo.1, hrepo.2, hversion.1]

theorem toList_render (r : Reference) :
    r.render.toList
      = Spec.releaseScheme.toList
        ++ (r.owner.toList ++ '/' :: r.repo.toList ++ '@' :: r.version.toList) := by
  simp [render]

theorem parse?_eq_some_iff {written : String} {r : Reference} :
    parse? written = some r ↔ written = r.render ∧ r.IsReadable := by
  simp only [parse?, Option.bind_eq_bind, Option.bind_eq_some_iff, Text.after?_eq_some_iff,
    Prod.exists, divide?_eq_some_iff]
  constructor
  · rintro ⟨cs, hwritten, owner, repo, version, ⟨rfl, howner, hrepo, hversion⟩, hr⟩
    obtain rfl := Option.some.inj hr
    refine ⟨String.toList_inj.1 ?_, ?_⟩
    · rw [hwritten, toList_render]
      simp
    · constructor
      · simpa using howner
      · simpa using hrepo
      · simpa using hversion
  · rintro ⟨rfl, hr⟩
    refine ⟨_, toList_render r, _, _, _, ⟨rfl, ?_, ?_, ?_⟩, by simp⟩
    · simpa using hr.owner
    · simpa using hr.repo
    · simpa using hr.version

theorem parse_eq_ok_iff {written : String} {r : Reference} :
    parse written = .ok r ↔ parse? written = some r := by
  rw [parse]
  cases parse? written <;> simp

theorem parse_eq_error_iff {written : String} {cause : Error} :
    parse written = .error cause ↔ parse? written = none ∧ cause = .invalidReference written := by
  rw [parse]
  cases parse? written <;> simp [eq_comm]

/-- The text consists of owner, repository and version, and each can be told from it. -/
structure IsWritten (r : Reference) (written : String) : Prop extends r.IsReadable where
  text : written = "runx:" ++ r.owner ++ "/" ++ r.repo ++ "@" ++ r.version

theorem isWritten_iff {r : Reference} {written : String} :
    r.IsWritten written ↔ written = r.render ∧ r.IsReadable := by
  constructor
  · intro h
    exact ⟨h.text, h.toIsReadable⟩
  · rintro ⟨hwritten, hreadable⟩
    exact ⟨hreadable, hwritten⟩

/-- Reading and writing references is exact. A text is read if it consists of an owner and a
repository without `/` and a version without `@`, none of them empty. It is read as these parts, it
is their written form, and it consists of no others. Every failure reports the text as it is. -/
theorem parse_exactly_written (written : String) :
    ((∃ r, parse written = .ok r) ↔ ∃ r : Reference, r.IsWritten written)
      ∧ (∀ r : Reference, r.IsWritten written →
        parse written = .ok r ∧ r.render = written
          ∧ ∀ other : Reference, other.IsWritten written → other = r)
      ∧ ∀ cause, parse written = .error cause → cause = .invalidReference written := by
  have hparse : ∀ r : Reference, parse written = .ok r ↔ r.IsWritten written := by
    intro r
    rw [parse_eq_ok_iff, parse?_eq_some_iff, isWritten_iff]
  refine ⟨exists_congr hparse, ?_, ?_⟩
  · intro r hr
    refine ⟨(hparse r).2 hr, hr.text.symm, ?_⟩
    intro other hother
    have hsame := ((hparse other).2 hother).symm.trans ((hparse r).2 hr)
    exact Except.ok.inj hsame
  · intro cause hcause
    exact (parse_eq_error_iff.1 hcause).2

/-- An `@` may stand in owner and repository and a `/` in the version; with a second `/` in front of
the version there is no way to divide the text. -/
theorem parse_exactly_written_slashes :
    parse "runx:a@x/b@c/d" = .ok ⟨"a@x", "b", "c/d"⟩
      ∧ (⟨"a@x", "b", "c/d"⟩ : Reference).render = "runx:a@x/b@c/d"
      ∧ (∀ r : Reference, r.IsWritten "runx:a@x/b@c/d" → r.owner = "a@x")
      ∧ ¬ ∃ r : Reference, r.IsWritten "runx:a/b/c@1" := by
  have hwritten : (⟨"a@x", "b", "c/d"⟩ : Reference).IsWritten "runx:a@x/b@c/d" :=
    ⟨⟨by decide, by decide, by decide⟩, by decide⟩
  obtain ⟨hread, hrender, honly⟩ := (parse_exactly_written "runx:a@x/b@c/d").2.1 _ hwritten
  refine ⟨hread, hrender, ?_, ?_⟩
  · intro r hr
    rw [honly r hr]
  · intro hdivided
    obtain ⟨r, hread⟩ := (parse_exactly_written "runx:a/b/c@1").1.2 hdivided
    have hnone : parse? "runx:a/b/c@1" = none := by decide
    cases (parse_of_none hnone).symm.trans hread

/-- Another version of a reference that was read can be read back exactly if it is not empty and
holds no `@`. -/
theorem parse?_render_withVersion {written : String} {r : Reference} (h : parse? written = some r)
    (version : String) :
    parse? (r.withVersion version).render = some (r.withVersion version)
      ↔ version ≠ "" ∧ '@' ∉ version.toList := by
  obtain ⟨-, hr⟩ := parse?_eq_some_iff.1 h
  rw [parse?_eq_some_iff]
  constructor
  · rintro ⟨-, hreadable⟩
    exact hreadable.version
  · intro hversion
    exact ⟨rfl, hr.owner, hr.repo, hversion⟩

theorem spec_of_parse? {written : String} {r : Reference}
    (h : parse? (Spec.parse written).raw = some r) :
    (Spec.parse written).version = some r.version
      ∧ (Spec.parse written).name = "runx:" ++ r.owner ++ "/" ++ r.repo := by
  obtain ⟨hraw, hr⟩ := parse?_eq_some_iff.1 h
  have hdivide : Spec.divide (Spec.parse written).raw.toList
      = (("runx:" ++ r.owner ++ "/" ++ r.repo).toList, some r.version.toList) := by
    refine Spec.divide_eq_some_iff.2 ⟨?_, by simp, by simpa using hr.version.1, hr.version.2⟩
    rw [hraw, toList_render]
    simp [Spec.releaseScheme]
  constructor
  · rw [Spec.version_eq, hdivide, Option.map_some, String.ofList_toList]
  · rw [Spec.name_eq, hdivide, String.ofList_toList]

end Pinning.RunX.Reference
