import Pinning.Proofs.Flake
import Pinning.Proofs.RunX.Reference
import Pinning.Proofs.RunX.Release
import Pinning.Proofs.Resolver.Results
import Pinning.Proofs.Spec
/-!
Version and locator of a package. A version that the search service leaves empty is filled in from
the spec, an empty commit or attribute path is left out of the locator, and the tag of a release is
taken as it is. So a version is missing, or a locator cannot be read back or pins nothing, exactly
where an answer has an empty text or a separator in the place that matters.
-/

set_option autoImplicit false
set_option relaxedAutoImplicit false

namespace Pinning.Resolver

variable {r : Resolver} {strategy : Strategy} {written : String} {package : Package}

section Version

theorem ComesTo.version_ne_empty (h : r.ComesTo strategy written (.ok package))
    (hrelease : (Spec.parse written).isRelease = false) : package.version ≠ "" := by
  cases hprotocol : strategy.protocol with
  | legacy =>
    obtain ⟨version, record, _, entry, _, _, hversion, -, -, -, hpackage, -⟩ :=
      h.of_legacy hrelease hprotocol
    have hfilled : version ≠ "" := Spec.version_ne_empty hversion
    rw [hpackage]
    exact Draft.firstFilled_ne_empty ⟨version, by simp, hfilled⟩
  | enriched =>
    obtain ⟨version, record, _, _, _, hversion, -, -, hpackage⟩ := h.of_enriched hrelease hprotocol
    have hfilled : version ≠ "" := Spec.version_ne_empty hversion
    rw [hpackage]
    exact Draft.firstFilled_ne_empty ⟨version, by simp, hfilled⟩

/-- A released binary has the tag of its release for a version, and the reference with this version
for a locator. -/
theorem ComesTo.release {releases : RunX.Client} {network : Http.Network}
    (h : r.ComesTo strategy written (.ok package)) (hpin : r.services.pin = releases.pin network)
    (hrelease : (Spec.parse written).isRelease = true) :
    ∃ reference, RunX.Reference.parse? (Spec.parse written).raw = some reference
      ∧ releases.FirstTag network reference (RunX.candidates reference) package.version
      ∧ package.resolved = (reference.withVersion package.version).render := by
  obtain ⟨before, pinned, hanswer, hpackage⟩ := h.of_release hrelease
  rw [hpin] at hanswer
  obtain ⟨-, reference, hparse, tag, hfirst, rfl⟩ := RunX.Client.outcome_pin_eq_ok.1 hanswer
  rw [hpackage]
  exact ⟨reference, hparse, hfirst, rfl⟩

/-- The only package without a version is a released binary whose release has an empty tag. -/
theorem version_eq_empty_iff {config : Config} {network : Http.Network}
    (hresolver : ofConfig config network = .ok r)
    (hcomes : r.ComesTo strategy written (.ok package)) :
    package.version = ""
      ↔ (Spec.parse written).isRelease = true
        ∧ ∃ releases, releaseClient config = .ok releases
          ∧ releases.PinsTo network (Spec.parse written).raw "" := by
  obtain ⟨releases, hreleases, hpin⟩ := pin_of_ofConfig hresolver
  constructor
  · intro hempty
    cases hrelease : (Spec.parse written).isRelease with
    | false => exact absurd hempty (hcomes.version_ne_empty hrelease)
    | true =>
      obtain ⟨reference, hparse, hfirst, -⟩ := hcomes.release hpin hrelease
      exact ⟨rfl, releases, hreleases, reference, hparse, hempty ▸ hfirst⟩
  · rintro ⟨hrelease, other, hother, hpins⟩
    -- There is one release client for the configuration, and one tag that it pins the spec to.
    obtain rfl := Except.ok.inj (hreleases.symm.trans hother)
    obtain ⟨reference, hparse, hfirst, -⟩ := hcomes.release hpin hrelease
    exact RunX.Client.PinsTo.unique ⟨reference, hparse, hfirst⟩ hpins

/-- A network on which every release has this tag. -/
def tagged (tag : String) : Http.Network := serving ("\x7b\"tag_name\":\"" ++ tag ++ "\"\x7d")

def taggedTool (tag : String) : Package where
  version := tag
  resolved := "runx:acme/tool@" ++ tag
  lastModified := none
  source := none
  systems := ∅

private theorem outcome_tagged :
    ∀ tag ∈ ["", "v1", "@acme/tool@1.2.0"],
      outcomeOf {} (tagged tag) ⟨.legacy, true⟩ "runx:acme/tool@latest"
        = .ok (.returned (.ok (taggedTool tag))) := by decide +kernel

private theorem parse_latest :
    (Spec.parse "runx:acme/tool@latest").isRelease = true
      ∧ (Spec.parse "runx:acme/tool@latest").raw = "runx:acme/tool@latest" := by
  constructor
  · decide
  · rfl

theorem version_eq_empty_iff_plainTag :
    ∃ r releases, ofConfig {} (tagged "v1") = .ok r ∧ releaseClient {} = .ok releases
      ∧ r.ComesTo ⟨.legacy, true⟩ "runx:acme/tool@latest" (.ok (taggedTool "v1"))
      ∧ ¬ releases.PinsTo (tagged "v1") "runx:acme/tool@latest" "" := by
  obtain ⟨r, hresolver, hresolve⟩ := exists_of_outcomeOf (outcome_tagged "v1" (by simp))
  obtain ⟨releases, hreleases, -⟩ := pin_of_ofConfig hresolver
  refine ⟨r, releases, hresolver, hreleases, .alone hresolve, ?_⟩
  intro hpins
  rw [← parse_latest.2] at hpins
  have hempty := (version_eq_empty_iff hresolver (.alone hresolve)).2
    ⟨parse_latest.1, releases, hreleases, hpins⟩
  exact absurd hempty (by decide)

/-- A release with an empty tag leads to a package without a version. -/
theorem version_empty_of_emptyTag :
    ∃ r package, ofConfig {} (tagged "") = .ok r
      ∧ ((r.resolve ⟨.legacy, true⟩ "runx:acme/tool@latest").course false).outcome
        = .returned (.ok package)
      ∧ package.version = "" := by
  obtain ⟨r, hresolver, hresolve⟩ := exists_of_outcomeOf (outcome_tagged "" (by simp))
  exact ⟨r, taggedTool "", hresolver, hresolve, rfl⟩

end Version

section Locator

/-- The locator of a released binary is the reference at the tag of the release. It is read back as
this reference exactly if the tag is not empty and holds no `@`. -/
theorem parse?_resolved_iff {releases : RunX.Client} {network : Http.Network}
    (hpin : r.services.pin = releases.pin network)
    (hrelease : (Spec.parse written).isRelease = true)
    (hcomes : r.ComesTo strategy written (.ok package)) :
    ∃ reference, RunX.Reference.parse? (Spec.parse written).raw = some reference
      ∧ releases.FirstTag network reference (RunX.candidates reference) package.version
      ∧ package.resolved = (reference.withVersion package.version).render
      ∧ (RunX.Reference.parse? package.resolved = some (reference.withVersion package.version)
        ↔ package.version ≠ "" ∧ '@' ∉ package.version.toList) := by
  obtain ⟨reference, hparse, hfirst, hresolved⟩ := hcomes.release hpin hrelease
  have hback := RunX.Reference.parse?_render_withVersion hparse package.version
  rw [← hresolved] at hback
  exact ⟨reference, hparse, hfirst, hresolved, hback⟩

theorem parse?_resolved_iff_plainTag :
    ∃ r reference, ofConfig {} (tagged "v1") = .ok r
      ∧ r.ComesTo ⟨.legacy, true⟩ "runx:acme/tool@latest" (.ok (taggedTool "v1"))
      ∧ RunX.Reference.parse? "runx:acme/tool@latest" = some reference
      ∧ RunX.Reference.parse? "runx:acme/tool@v1" = some (reference.withVersion "v1") := by
  obtain ⟨r, hresolver, hresolve⟩ := exists_of_outcomeOf (outcome_tagged "v1" (by simp))
  obtain ⟨releases, -, hpin⟩ := pin_of_ofConfig hresolver
  obtain ⟨reference, hparse, -, -, hback⟩ :=
    parse?_resolved_iff hpin parse_latest.1 (.alone hresolve)
  rw [parse_latest.2] at hparse
  exact ⟨r, reference, hresolver, .alone hresolve, hparse, hback.2 (by decide)⟩

/-- A tag that names a package of its own leads to a locator that cannot be read back. -/
theorem parse?_resolved_scopedTag :
    ∃ r package, ofConfig {} (tagged "@acme/tool@1.2.0") = .ok r
      ∧ ((r.resolve ⟨.legacy, true⟩ "runx:acme/tool@latest").course false).outcome
        = .returned (.ok package)
      ∧ RunX.Reference.parse? package.resolved = none := by
  obtain ⟨r, hresolver, hresolve⟩ :=
    exists_of_outcomeOf (outcome_tagged "@acme/tool@1.2.0" (by simp))
  exact ⟨r, taggedTool "@acme/tool@1.2.0", hresolver, hresolve, by decide⟩

/-- The locator of a legacy package is made of the commit and the first attribute path of the
representative entry. It names both exactly if the service left neither empty. -/
theorem resolved_eq_pinned_iff (hcomes : r.ComesTo strategy written (.ok package))
    (hrelease : (Spec.parse written).isRelease = false) (hprotocol : strategy.protocol = .legacy) :
    ∃ version record platform entry attrPath rest, (Spec.parse written).version = some version
      ∧ ((r.services.single (Spec.parse written).name version).course false).outcome
        = .returned (.ok record)
      ∧ Platform.select r.host record.systems = .ok (platform, entry)
      ∧ entry.attrPaths = attrPath :: rest
      ∧ package.resolved = "github:NixOS/nixpkgs" ++ Flake.Ref.segment entry.commitHash
        ++ (if attrPath = "" then "" else "#" ++ attrPath)
      ∧ (package.resolved = "github:NixOS/nixpkgs/" ++ entry.commitHash ++ "#" ++ attrPath
        ↔ entry.commitHash ≠ "" ∧ attrPath ≠ "") := by
  obtain ⟨version, record, platform, entry, attrPath, rest, hversion, hanswer, hselect, hattrPaths,
    hpackage, -⟩ := hcomes.of_legacy hrelease hprotocol
  have hresolved : package.resolved
      = Flake.Installable.render ⟨.nixpkgs entry.commitHash, attrPath⟩ :=
    congrArg Package.resolved hpackage
  rw [hresolved]
  exact ⟨version, record, platform, entry, attrPath, rest, hversion, hanswer, hselect, hattrPaths,
    Flake.Installable.render_nixpkgs _ _, Flake.Installable.render_nixpkgs_eq_iff _ _⟩

/-- A network that answers with a record of one platform. -/
def committed (commit attrPath : String) : Http.Network :=
  serving ("\x7b\"version\":\"1\",\"systems\":\x7b\"x86_64-linux\":\x7b\"attr_paths\":[\""
    ++ attrPath
    ++ "\"],\"commit_hash\":\"" ++ commit ++ "\"\x7d\x7d\x7d")

def locatedAt (resolved : String) : Package where
  version := "1"
  resolved
  lastModified := none
  source := some .remoteSearch
  systems := ∅

private theorem outcome_committed :
    ∀ run ∈ [("c0ffee", "hello", "github:NixOS/nixpkgs/c0ffee#hello"),
        ("", "hello", "github:NixOS/nixpkgs#hello"), ("c0ffee", "", "github:NixOS/nixpkgs/c0ffee")],
      outcomeOf {} (committed run.1 run.2.1) ⟨.legacy, false⟩ "hello@1"
        = .ok (.returned (.ok (locatedAt run.2.2))) := by decide +kernel

theorem resolved_eq_pinned_iff_bothParts :
    ∃ r commit attrPath, ofConfig {} (committed "c0ffee" "hello") = .ok r
      ∧ r.ComesTo ⟨.legacy, false⟩ "hello@1" (.ok (locatedAt "github:NixOS/nixpkgs/c0ffee#hello"))
      ∧ ("github:NixOS/nixpkgs/c0ffee#hello" = "github:NixOS/nixpkgs/" ++ commit ++ "#" ++ attrPath
        ↔ commit ≠ "" ∧ attrPath ≠ "") := by
  obtain ⟨r, hresolver, hresolve⟩ := exists_of_outcomeOf
    (outcome_committed ("c0ffee", "hello", "github:NixOS/nixpkgs/c0ffee#hello") (by simp))
  have hrelease : (Spec.parse "hello@1").isRelease = false := by decide
  obtain ⟨_, _, _, entry, attrPath, _, -, -, -, -, -, hpinned⟩ :=
    resolved_eq_pinned_iff (.alone hresolve) hrelease rfl
  exact ⟨r, entry.commitHash, attrPath, hresolver, .alone hresolve, hpinned⟩

/-- An empty commit or an empty attribute path is missing in the locator. -/
theorem resolved_unpinned :
    (∃ r package, ofConfig {} (committed "" "hello") = .ok r
      ∧ ((r.resolve ⟨.legacy, false⟩ "hello@1").course false).outcome = .returned (.ok package)
      ∧ ∀ commit attrPath,
        package.resolved ≠ "github:NixOS/nixpkgs/" ++ commit ++ "#" ++ attrPath)
    ∧ ∃ r package, ofConfig {} (committed "c0ffee" "") = .ok r
      ∧ ((r.resolve ⟨.legacy, false⟩ "hello@1").course false).outcome = .returned (.ok package)
      ∧ ∀ commit attrPath,
        package.resolved ≠ "github:NixOS/nixpkgs/" ++ commit ++ "#" ++ attrPath := by
  constructor
  · obtain ⟨r, hresolver, hresolve⟩ := exists_of_outcomeOf
      (outcome_committed ("", "hello", "github:NixOS/nixpkgs#hello") (by simp))
    refine ⟨r, _, hresolver, hresolve, ?_⟩
    intro commit attrPath heq
    change "github:NixOS/nixpkgs#hello" = _ at heq
    -- Behind the repository there is no `/`.
    have hroot : "github:NixOS/nixpkgs/".toList <+: "github:NixOS/nixpkgs#hello".toList := by
      rw [heq]
      simp [List.append_assoc]
    exact absurd hroot (by decide)
  · obtain ⟨r, hresolver, hresolve⟩ := exists_of_outcomeOf
      (outcome_committed ("c0ffee", "", "github:NixOS/nixpkgs/c0ffee") (by simp))
    refine ⟨r, _, hresolver, hresolve, ?_⟩
    intro commit attrPath heq
    change "github:NixOS/nixpkgs/c0ffee" = _ at heq
    -- There is no `#` at all.
    have hhash : '#' ∈ "github:NixOS/nixpkgs/c0ffee".toList := by
      rw [heq]
      simp
    exact absurd hhash (by decide)

end Locator

end Pinning.Resolver
