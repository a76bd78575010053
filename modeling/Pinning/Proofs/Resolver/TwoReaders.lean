import Pinning.Proofs.Resolver.Failures
import Pinning.Proofs.RunX.Reference
import Pinning.Proofs.RunX.Requests
/-!
A spec that names a released binary is read twice, once as a spec and once as a reference. The two
readers agree on every text: what is readable as a reference is a spec with the same version, and
what is not is refused before anybody is asked.
-/

set_option autoImplicit false
set_option relaxedAutoImplicit false

namespace Pinning.Resolver

open RunX (Reference)

variable {r : Resolver} {strategy : Strategy} {written text version : String}
  {releases : RunX.Client} {network : Http.Network}

theorem FailsWith.version_eq_none {name : String} {token : Bool}
    (h : r.FailsWith strategy written (.missingVersion name) token) :
    (Spec.parse written).version = none := by
  cases h.refusal with
  | bare hversion => exact hversion
  | legacy _ _ _ _ hdraft =>
    have hcause := Draft.ofLegacy_eq_error hdraft
    simp at hcause
  | enriched _ _ _ _ _ hdraft =>
    have hcause := Draft.ofEnriched_eq_error hdraft
    simp at hcause
  | @release _ _ answered _ _ _ _ _ hdraft =>
    rcases answered with cause | pinned
    · cases cause <;> cases hdraft
    · cases hdraft

section Unreadable

variable (hpin : r.services.pin = releases.pin network)
  (hrelease : (Spec.parse written).isRelease = true)
    (hversion : (Spec.parse written).version = some version)
  (hparse : Reference.parse? (Spec.parse written).raw = none)
include hpin hrelease hversion hparse

theorem draft_of_unreadable :
    r.draft strategy written = Activity.note (.pin (Spec.parse written).raw) >>= fun _ =>
      pure (.error (.invalidSpec (Spec.parse written).raw)) := by
  rw [draft, Inquiry.ofSpec_of_release hversion hrelease]
  exact ask_release_of_none hpin hparse

theorem course_resolve_of_unreadable (cancelled : Bool) :
    (r.resolve strategy written).course cancelled = {
      events := [.pin (Spec.parse written).raw]
      cancelled
      outcome := .returned (.error (.invalidSpec (Spec.parse written).raw)) } := by
  rw [resolve, draft_of_unreadable hpin hrelease hversion hparse]
  rfl

theorem eq_of_drafts_unreadable {before : Bool} {drafted : Except Error Draft}
    (h : r.Drafts strategy written before drafted) :
    drafted = .error (.invalidSpec (Spec.parse written).raw) := by
  rw [Drafts, draft_of_unreadable hpin hrelease hversion hparse] at h
  exact (Outcome.returned.inj h).symm

theorem ComesTo.eq_of_unreadable {result : Except Error Package}
    (h : r.ComesTo strategy written result) :
    result = .error (.invalidSpec (Spec.parse written).raw) := by
  cases h with
  | alone hresolve =>
    rw [course_resolve_of_unreadable hpin hrelease hversion hparse] at hresolve
    exact (Outcome.returned.inj hresolve).symm
  | beside hrun hspec =>
    cases settles_of_reaches hrun hspec with
    | refused _ hdraft =>
      have hdrafted := eq_of_drafts_unreadable hpin hrelease hversion hparse hdraft
      exact congrArg Except.error (Except.error.inj hdrafted)
    | drafted _ hdraft _ => cases eq_of_drafts_unreadable hpin hrelease hversion hparse hdraft
    | fetched _ hdraft _ _ _ _ => cases eq_of_drafts_unreadable hpin hrelease hversion hparse hdraft

end Unreadable

/-- The two readers of a spec that names a released binary agree. Without a version its text is no
reference, so nothing that could be read as one is refused for want of a version; and a text that is
a reference is a spec with the same version, whose name is the text in front of it. Hence, if the
release service is asked through a client, a spec that has a version and is no reference comes to
one result in every run, alone and beside others: its text is reported as malformed. This takes no
request and does not depend on the token. -/
theorem parsers_agree (htext : Text.IsTrimOf text.toList written.toList)
    (hrelease : (Spec.parse written).isRelease = true) :
    ((Spec.parse written).version = none → Reference.parse text = .error (.invalidReference text))
      ∧ (∀ reference, Reference.parse text = .ok reference →
        (Spec.parse written).version = some reference.version
          ∧ (Spec.parse written).name = "runx:" ++ reference.owner ++ "/" ++ reference.repo)
      ∧ (∀ (r : Resolver) strategy name token,
          r.FailsWith strategy written (.missingVersion name) token →
        ∀ reference, Reference.parse text ≠ .ok reference)
      ∧ ∀ (r : Resolver) (releases : RunX.Client) (network : Http.Network) (strategy : Strategy),
        r.services.pin = releases.pin network → (Spec.parse written).version ≠ none →
        (∀ reference, Reference.parse text ≠ .ok reference) →
        (∀ cancelled, (r.resolve strategy written).course cancelled = {
          events := [.pin text]
          cancelled
          outcome := .returned (.error (.invalidSpec text)) })
        ∧ ∀ result, r.ComesTo strategy written result → result = .error (.invalidSpec text) := by
  obtain rfl := Spec.raw_eq_of_isTrimOf htext
  have hagree : ∀ reference, Reference.parse (Spec.parse written).raw = .ok reference →
      (Spec.parse written).version = some reference.version
        ∧ (Spec.parse written).name = "runx:" ++ reference.owner ++ "/" ++ reference.repo := by
    intro reference hread
    exact Reference.spec_of_parse? (Reference.parse_eq_ok_iff.1 hread)
  have hnone : (∀ reference, Reference.parse (Spec.parse written).raw ≠ .ok reference) →
      Reference.parse? (Spec.parse written).raw = none := by
    intro hunread
    apply Option.eq_none_iff_forall_ne_some.2
    intro reference hread
    exact hunread reference (Reference.parse_of_some hread)
  have hbare : (Spec.parse written).version = none →
      ∀ reference, Reference.parse (Spec.parse written).raw ≠ .ok reference := by
    intro hversion reference hread
    cases hversion.symm.trans (hagree reference hread).1
  refine ⟨?_, hagree, ?_, ?_⟩
  · intro hversion
    exact Reference.parse_of_none (hnone (hbare hversion))
  · intro r strategy name token hfails
    exact hbare hfails.version_eq_none
  · intro r releases network strategy hpin hversioned hunread
    obtain ⟨version, hversion⟩ := Option.ne_none_iff_exists'.1 hversioned
    have hparse := hnone hunread
    constructor
    · intro cancelled
      exact course_resolve_of_unreadable hpin hrelease hversion hparse cancelled
    · intro result hcomes
      exact hcomes.eq_of_unreadable hpin hrelease hversion hparse

/-- A resolver whose services are asked over a network that breaks down. -/
def cutOff : Resolver where
  services := Services.ofClients {} ⟨{}, .atHost "search.test" [""]⟩ RunX.Client.unreachable
    Http.breaking

/-- A reference with one slash too many is reported, also to a caller who has cancelled; one without
a version is no reference, and one with a version names its repository. -/
theorem parsers_agree_slashes :
    (cutOff.resolve ⟨.legacy, true⟩ "\trunx:a/b/c@1").course true = {
        events := [.pin "runx:a/b/c@1"]
        cancelled := true
        outcome := .returned (.error (.invalidSpec "runx:a/b/c@1")) }
      ∧ Reference.parse "runx:acme/tool" = .error (.invalidReference "runx:acme/tool")
      ∧ (Spec.parse "\trunx:acme/tool@v1").name = "runx:acme/tool" := by
  have hmalformed : Text.IsTrimOf "runx:a/b/c@1".toList "\trunx:a/b/c@1".toList :=
    Text.trim_eq_iff.1 (by decide)
  have hbare : Text.IsTrimOf "runx:acme/tool".toList "runx:acme/tool".toList :=
    Text.trim_eq_iff.1 (by decide)
  have htagged : Text.IsTrimOf "runx:acme/tool@v1".toList "\trunx:acme/tool@v1".toList :=
    Text.trim_eq_iff.1 (by decide)
  have hunread : ∀ reference, Reference.parse "runx:a/b/c@1" ≠ .ok reference := by
    have hnone : Reference.parse? "runx:a/b/c@1" = none := by decide
    intro reference hread
    cases (Reference.parse_of_none hnone).symm.trans hread
  have hread : Reference.parse "runx:acme/tool@v1" = .ok ⟨"acme", "tool", "v1"⟩ :=
    Reference.parse_of_some (by decide)
  refine ⟨?_, (parsers_agree hbare (by decide)).1 (by decide), ?_⟩
  · exact ((parsers_agree hmalformed (by decide)).2.2.2 cutOff _ _ _ rfl (by decide) hunread).1 true
  · exact ((parsers_agree htagged (by decide)).2.1 _ hread).2

end Pinning.Resolver
