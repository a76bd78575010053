import Pinning.Proofs.Resolver.CachedPaths
import Pinning.Proofs.Resolver.Results
/-!
Whether the texts that a package gives for its platforms are store paths. What the binary cache says
is only believed if it is one; what the search service sends by the enriched protocol is taken as it
is.
-/

set_option autoImplicit false
set_option relaxedAutoImplicit false

namespace Pinning

open Activity (outcome_unlessCancelled_map)

theorem Search.Client.uncancelled_of_versioned {client : Search.Client} {network : Http.Network}
    {name version : String} {cancelled : Bool} {record : Search.EnrichedRecord}
    (h : ((client.versioned network name version).course cancelled).outcome
      = .returned (.ok record)) : cancelled = false := by
  rw [Search.Client.versioned] at h
  split at h
  · cases Outcome.returned.inj h
  · rcases outcome_unlessCancelled_map h with ⟨answered, hcalm, -⟩ | ⟨hgiven, -⟩
    · exact hcalm
    · cases hgiven

namespace Resolver

variable {r : Resolver} {strategy : Strategy} {written : String} {package : Package}
  {config : Config} {network : Http.Network}

theorem systems_of_enriched (hresolver : ofConfig config network = .ok r)
    (hcomes : r.ComesTo strategy written (.ok package))
    (hrelease : (Spec.parse written).isRelease = false)
    (hprotocol : strategy.protocol = .enriched) :
    ∃ version record, (Spec.parse written).version = some version
      ∧ ((r.services.versioned (Spec.parse written).name version).course false).outcome
        = .returned (.ok record)
      ∧ ∀ platform path, package.systems.get? platform = some path
        ↔ ∃ entry, record.systems.get? platform = some entry
          ∧ entry.outputs.head?.map Search.Output.path = some path := by
  obtain ⟨version, record, before, _, _, hversion, hanswer, -, hpackage⟩ :=
    hcomes.of_enriched hrelease hprotocol
  -- A record is only returned to a caller that has not cancelled, so it does not depend on the
  -- token.
  have hcalm : before = false := by
    obtain ⟨http, search, releases, -, -, -, rfl⟩ := ofConfig_eq_ok hresolver
    exact Search.Client.uncancelled_of_versioned hanswer
  subst hcalm
  refine ⟨version, record, hversion, hanswer, ?_⟩
  intro platform path
  rw [hpackage]
  exact Draft.get?_firstPaths record platform path

theorem isStorePath_of_legacy (hresolver : ofConfig config network = .ok r)
    (hcomes : r.ComesTo strategy written (.ok package))
    (hrelease : (Spec.parse written).isRelease = false) (hprotocol : strategy.protocol = .legacy)
    {platform path : String} (hpath : package.systems.get? platform = some path) :
    Store.IsStorePath path := by
  cases hwanted : strategy.storePaths with
  | true =>
    obtain rfl : strategy = ⟨.legacy, true⟩ := by
      cases strategy
      cases hprotocol
      cases hwanted
      rfl
    have hsettles := hcomes.settles (keepsToken_of_ofConfig hresolver)
    obtain ⟨_, _, entry, _, -, -, -, hlookup⟩ := hsettles.lookup_of_systems hpath
    obtain ⟨http, search, releases, -, -, -, rfl⟩ := ofConfig_eq_ok hresolver
    exact Store.isStorePath_of_verify (Store.verify_of_lookup hlookup).2
  | false =>
    obtain ⟨_, _, _, _, _, _, -, -, -, -, -, hnone⟩ := hcomes.of_legacy hrelease hprotocol
    rw [hnone hwanted] at hpath
    cases hpath

/-- In the enriched record of the spec the first output of every platform is a store path. -/
def SendsStorePaths (r : Resolver) (written : String) : Prop :=
  ∀ version record platform entry output, (Spec.parse written).version = some version →
    ((r.services.versioned (Spec.parse written).name version).course false).outcome
      = .returned (.ok record) →
    record.systems.get? platform = some entry → entry.outputs.head? = some output →
      Store.IsStorePath output.path

/-- The store paths of a package are store paths, except for those that the search service sends by
the enriched protocol: these are store paths exactly if the service sends nothing else. -/
theorem isStorePath_iff_of_comesTo (hresolver : ofConfig config network = .ok r)
    (hcomes : r.ComesTo strategy written (.ok package)) :
    (∀ platform path, package.systems.get? platform = some path → Store.IsStorePath path)
      ↔ ((Spec.parse written).isRelease = false → strategy.protocol = .enriched →
        r.SendsStorePaths written) := by
  constructor
  · intro hpaths hrelease hprotocol version record platform entry output hversion hanswer hentry
      houtput
    obtain ⟨version', record', hversion', hanswer', hsystems⟩ :=
      systems_of_enriched hresolver hcomes hrelease hprotocol
    obtain rfl := Option.some.inj (hversion.symm.trans hversion')
    obtain rfl := Except.ok.inj (Outcome.returned.inj (hanswer.symm.trans hanswer'))
    have hpath : entry.outputs.head?.map Search.Output.path = some output.path := by
      rw [houtput]
      rfl
    exact hpaths platform output.path ((hsystems platform output.path).2 ⟨entry, hentry, hpath⟩)
  · intro hsends platform path hpath
    cases hrelease : (Spec.parse written).isRelease with
    | true =>
      obtain ⟨_, _, -, hpackage⟩ := hcomes.of_release hrelease
      rw [hpackage] at hpath
      cases hpath
    | false =>
      cases hprotocol : strategy.protocol with
      | legacy => exact isStorePath_of_legacy hresolver hcomes hrelease hprotocol hpath
      | enriched =>
        obtain ⟨version, record, hversion, hanswer, hsystems⟩ :=
          systems_of_enriched hresolver hcomes hrelease hprotocol
        obtain ⟨entry, hentry, hhead⟩ := (hsystems platform path).1 hpath
        obtain ⟨output, houtput, rfl⟩ := Option.map_eq_some_iff.1 hhead
        exact hsends hrelease hprotocol version record platform entry output hversion hanswer hentry
          houtput

/-- A network that answers with an enriched record of one platform, whose build is at this path. -/
def builtAt (path : String) : Http.Network :=
  serving
    ("\x7b\"version\":\"1\",\"systems\":\x7b\"x86_64-linux\":\x7b\"flake_installable\":\x7b\"ref\":"
    ++ "\x7b\"type\":\"path\"\x7d\x7d,\"last_updated\":\"2023-06-29T16:20:38Z\",\"outputs\":[\x7b\"path\":\""
    ++ path ++ "\"\x7d]\x7d\x7d\x7d")

def packageAt (path : String) : Package where
  version := "1"
  resolved := "path:"
  lastModified := some "2023-06-29T16:20:38Z"
  source := some .remoteSearch
  systems := SortedMap.ofList [("x86_64-linux", path)]

private theorem outcome_elsewhere :
    outcomeOf {} (builtAt "/etc/passwd") ⟨.enriched, true⟩ "hello@1"
      = .ok (.returned (.ok (packageAt "/etc/passwd"))) := by decide +kernel

private theorem get?_packageAt (path : String) :
    (packageAt path).systems.get? "x86_64-linux" = some path :=
  (SortedMap.get?_ofList (by simp)).2 (by simp)

theorem isStorePath_iff_of_comesTo_elsewhere :
    ∃ r, ofConfig {} (builtAt "/etc/passwd") = .ok r
      ∧ r.ComesTo ⟨.enriched, true⟩ "hello@1" (.ok (packageAt "/etc/passwd"))
      ∧ ¬ r.SendsStorePaths "hello@1" := by
  obtain ⟨r, hresolver, hresolve⟩ := exists_of_outcomeOf outcome_elsewhere
  refine ⟨r, hresolver, .alone hresolve, ?_⟩
  intro hsends
  have hpaths := (isStorePath_iff_of_comesTo hresolver (.alone hresolve)).2 fun _ _ => hsends
  exact absurd (hpaths _ _ (get?_packageAt "/etc/passwd")) (by decide)

/-- The enriched protocol lets a path outside of the store into a package. -/
theorem systems_elsewhere :
    ∃ r package path, ofConfig {} (builtAt "/etc/passwd") = .ok r
      ∧ ((r.resolve ⟨.enriched, true⟩ "hello@1").course false).outcome = .returned (.ok package)
      ∧ package.systems.get? "x86_64-linux" = some path
      ∧ ∀ hash, Store.verify path hash none ≠ .ok () := by
  obtain ⟨r, hresolver, hresolve⟩ := exists_of_outcomeOf outcome_elsewhere
  refine ⟨r, _, "/etc/passwd", hresolver, hresolve, get?_packageAt "/etc/passwd", ?_⟩
  have helsewhere : ¬ Store.IsStorePath "/etc/passwd" := by decide
  intro hash hverify
  exact helsewhere ⟨hash, hverify⟩

end Resolver

end Pinning
