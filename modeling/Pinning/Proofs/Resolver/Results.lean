import Pinning.Proofs.Draft
import Pinning.Proofs.Resolver.Origin
import Pinning.Proofs.Resolver.Settles
import Pinning.Proofs.Store.Lookup
/-!
What a spec comes to, whichever way it is resolved. A package is that of a draft, but for its store
paths, and the draft is made of one answer of a service.
-/

set_option autoImplicit false
set_option relaxedAutoImplicit false

namespace Pinning.Resolver

open Activity (outcome_bind_eq_returned)

variable {r : Resolver} {strategy : Strategy} {written : String}

/-- The spec comes to this result: alone, or beside other specs in some order of steps, and whenever
the caller cancels. -/
inductive ComesTo (r : Resolver) (strategy : Strategy) (written : String)
    (result : Except Error Package) : Prop
  | alone {cancelled : Bool}
      (hresolve : ((r.resolve strategy written).course cancelled).outcome = .returned result) :
      ComesTo r strategy written result
  | beside {specs : List String} {cancelled : Bool} {batch : Batch}
      (hrun : Reaches r strategy (.start specs cancelled) batch)
      (hspec : (written, .settled result) ∈ batch.specs) : ComesTo r strategy written result

theorem ComesTo.settles {result : Except Error Package} (h : r.ComesTo strategy written result)
    (hkeeps : r.fanout.KeepsToken) : r.Settles strategy written true result := by
  cases h with
  | alone hresolve => exact settles_of_resolve hkeeps hresolve
  | beside hrun hspec => exact (settles_of_reaches hrun hspec).of_token fun _ => rfl

private theorem finish_eq_ok {draft : Draft} {paths : Except Error (SortedMap String)}
    {package : Package} (h : finish draft paths = .ok package) :
    package = draft.complete package.systems := by
  cases paths with
  | error cause => cases h
  | ok m =>
    obtain rfl := Except.ok.inj h
    rfl

theorem ComesTo.drafted {package : Package} (h : r.ComesTo strategy written (.ok package)) :
    ∃ before draft, r.Drafts strategy written before (.ok draft)
      ∧ package = draft.complete package.systems
      ∧ (draft.refs = none → package.systems = draft.package.systems) := by
  cases h with
  | alone hresolve =>
    obtain ⟨drafted, hdraft, hrest⟩ := outcome_bind_eq_returned.1 hresolve
    cases drafted with
    | error cause => cases Outcome.returned.inj hrest
    | ok draft =>
      simp only [complete] at hrest
      split at hrest
      · obtain rfl := Except.ok.inj (Outcome.returned.inj hrest)
        exact ⟨_, draft, hdraft, rfl, fun _ => rfl⟩
      · next refs hrefs =>
        obtain ⟨paths, -, hfinish⟩ := outcome_bind_eq_returned.1 hrest
        refine ⟨_, draft, hdraft, finish_eq_ok (Outcome.returned.inj hfinish), ?_⟩
        intro hnone
        cases hnone.symm.trans hrefs
  | beside hrun hspec =>
    have hsettles := settles_of_reaches hrun hspec
    generalize hresult : (Except.ok package : Except Error Package) = result at hsettles
    cases hsettles with
    | refused _ _ => cases hresult
    | drafted _ hdraft _ =>
      obtain rfl := Except.ok.inj hresult
      exact ⟨_, _, hdraft, rfl, fun _ => rfl⟩
    | fetched _ hdraft hrefs _ _ _ =>
      refine ⟨_, _, hdraft, finish_eq_ok hresult.symm, ?_⟩
      intro hnone
      cases hnone.symm.trans hrefs

private theorem ComesTo.origin {package : Package} (h : r.ComesTo strategy written (.ok package)) :
    ∃ version draft, (Spec.parse written).version = some version
      ∧ r.Origin strategy written version draft ∧ package = draft.complete package.systems
      ∧ (draft.refs = none → package.systems = draft.package.systems) := by
  obtain ⟨before, draft, hdraft, hpackage, hsystems⟩ := h.drafted
  obtain ⟨version, hversion, horigin⟩ := origin_of_draft hdraft
  exact ⟨version, draft, hversion, horigin, hpackage, hsystems⟩

section Origins

variable {package : Package}

/-- A package by the legacy protocol is made of the representative entry of a record and the first
attribute path in it. It has no store paths if none are wanted. -/
theorem ComesTo.of_legacy (h : r.ComesTo strategy written (.ok package))
    (hrelease : (Spec.parse written).isRelease = false) (hprotocol : strategy.protocol = .legacy) :
    ∃ version record platform entry attrPath rest, (Spec.parse written).version = some version
      ∧ ((r.services.single (Spec.parse written).name version).course false).outcome
        = .returned (.ok record)
      ∧ Platform.select r.host record.systems = .ok (platform, entry)
      ∧ entry.attrPaths = attrPath :: rest
      ∧ package = {
        version := Draft.firstFilled [entry.version, record.version, version]
        resolved := Flake.Installable.render ⟨.nixpkgs entry.commitHash, attrPath⟩
        lastModified := Timestamp.unixText? entry.lastUpdated.toInt
        source := some .remoteSearch
        systems := package.systems }
      ∧ (strategy.storePaths = false → package.systems = ∅) := by
  obtain ⟨version, draft, hversion, horigin, hpackage, hsystems⟩ := h.origin
  cases horigin with
  | @legacy record _ _ hanswer hlegacy hrefs =>
    obtain ⟨platform, entry, attrPath, rest, hselect, hattrPaths, hdraft⟩ :=
      Draft.packageOfLegacy_eq_ok.1 hlegacy
    refine ⟨version, record, platform, entry, attrPath, rest, hversion, hanswer, hselect,
      hattrPaths, ?_, ?_⟩
    · rw [Draft.complete, hdraft] at hpackage
      exact hpackage
    · intro hunwanted
      rw [hsystems (by simp [hrefs, hunwanted]), hdraft]
  | enriched _ hother _ _ _ => cases hprotocol.symm.trans hother
  | release htrue _ _ => cases hrelease.symm.trans htrue

/-- A package by the enriched protocol is made of the representative entry of a record, and of the
first output of each entry. -/
theorem ComesTo.of_enriched (h : r.ComesTo strategy written (.ok package))
    (hrelease : (Spec.parse written).isRelease = false)
    (hprotocol : strategy.protocol = .enriched) :
    ∃ version record before platform entry, (Spec.parse written).version = some version
      ∧ ((r.services.versioned (Spec.parse written).name version).course before).outcome
        = .returned (.ok record)
      ∧ Platform.select r.host record.systems = .ok (platform, entry)
      ∧ package = {
        version := Draft.firstFilled [record.version, version]
        resolved := entry.installable.render
        lastModified := some entry.lastUpdated.renderSeconds
        source := some .remoteSearch
        systems := SortedMap.ofList (record.systems.entries.filterMap Draft.firstPath?) } := by
  obtain ⟨version, draft, hversion, horigin, hpackage, hsystems⟩ := h.origin
  cases horigin with
  | legacy _ hother _ _ _ => cases hprotocol.symm.trans hother
  | @enriched before record _ _ hanswer henriched hrefs =>
    obtain ⟨platform, entry, hselect, hdraft⟩ := Draft.packageOfEnriched_eq_ok.1 henriched
    refine ⟨version, record, before, platform, entry, hversion, hanswer, hselect, ?_⟩
    rw [Draft.complete, hsystems hrefs, hdraft] at hpackage
    exact hpackage
  | release htrue _ _ => cases hrelease.symm.trans htrue

theorem ComesTo.of_release (h : r.ComesTo strategy written (.ok package))
    (hrelease : (Spec.parse written).isRelease = true) :
    ∃ before reference,
      ((r.services.pin (Spec.parse written).raw).course before).outcome = .returned (.ok reference)
      ∧ package = {
        version := reference.version, resolved := reference.render, lastModified := none,
        source := none, systems := ∅ } := by
  obtain ⟨version, draft, -, horigin, hpackage, hsystems⟩ := h.origin
  cases horigin with
  | legacy hfalse _ _ _ _ => cases hfalse.symm.trans hrelease
  | enriched hfalse _ _ _ _ => cases hfalse.symm.trans hrelease
  | @release before reference _ hanswer hdraft =>
    obtain rfl := Except.ok.inj hdraft
    rw [Draft.complete, hsystems rfl] at hpackage
    exact ⟨before, reference, hanswer, hpackage⟩

end Origins

section Configured

theorem except_bind_eq_ok {α β : Type} {x : Except Error α} {f : α → Except Error β}
    {value : β} : (x >>= f) = .ok value ↔ ∃ a, x = .ok a ∧ f a = .ok value := by
  cases x with
  | error cause => simp [bind, Except.bind]
  | ok a => simp [bind, Except.bind]

variable {config : Config} {network : Http.Network}

theorem ofConfig_eq_ok (h : ofConfig config network = .ok r) :
    ∃ http search releases, Http.Client.withAgent config.http.userAgent = .ok http
      ∧ Search.Client.of http config.search.url = .ok search
      ∧ RunX.Client.of http config.releases.apiUrl = .ok releases
      ∧ r = {
        services := Services.ofClients http search releases network
        cacheUrl := config.cache.url
        host := config.hostPlatform } := by
  obtain ⟨services, hservices, hr⟩ := except_bind_eq_ok.1 h
  obtain ⟨http, hhttp, hrest⟩ := except_bind_eq_ok.1 hservices
  obtain ⟨search, hsearch, hrest⟩ := except_bind_eq_ok.1 hrest
  obtain ⟨releases, hreleases, hrest⟩ := except_bind_eq_ok.1 hrest
  obtain rfl := Except.ok.inj hrest
  exact ⟨http, search, releases, hhttp, hsearch, hreleases, (Except.ok.inj hr).symm⟩

/-- The client of the configured release service. -/
def releaseClient (config : Config) : Except Error RunX.Client := do
  RunX.Client.of (← Http.Client.withAgent config.http.userAgent) config.releases.apiUrl

theorem ask_release_of_none {releases : RunX.Client} {raw : String}
    (hpin : r.services.pin = releases.pin network) (hparse : RunX.Reference.parse? raw = none) :
    r.ask (.release raw) = Activity.note (.pin raw)
      >>= fun _ => pure (.error (.invalidSpec raw)) := by
  rw [ask, hpin, RunX.Client.pin_of_none hparse]
  rfl

theorem pin_of_ofConfig (h : ofConfig config network = .ok r) :
    ∃ releases, releaseClient config = .ok releases ∧ r.services.pin = releases.pin network := by
  obtain ⟨http, search, releases, hhttp, -, hreleases, rfl⟩ := ofConfig_eq_ok h
  exact ⟨releases, except_bind_eq_ok.2 ⟨http, hhttp, hreleases⟩, rfl⟩

theorem keepsToken_of_ofConfig (h : ofConfig config network = .ok r) : r.fanout.KeepsToken := by
  obtain ⟨http, search, releases, -, -, -, rfl⟩ := ofConfig_eq_ok h
  intro ref cacheUrl
  exact Store.keepsToken_lookup http network ref.hash (some ref.name) cacheUrl

def outcomeOf (config : Config) (network : Http.Network) (strategy : Strategy) (written : String) :
    Except Error (Outcome (Except Error Package)) :=
  (ofConfig config network).map fun r => ((r.resolve strategy written).course false).outcome

theorem exists_of_outcomeOf {outcome : Outcome (Except Error Package)}
    (h : outcomeOf config network strategy written = .ok outcome) :
    ∃ r, ofConfig config network = .ok r
      ∧ ((r.resolve strategy written).course false).outcome = outcome := by
  rw [outcomeOf] at h
  cases hr : ofConfig config network with
  | error cause =>
    rw [hr] at h
    cases h
  | ok r =>
    rw [hr] at h
    exact ⟨r, rfl, Except.ok.inj h⟩

def serving (document : String) : Http.Network := fun _ =>
  .replied (.response { status := 200, body := { bytes := Text.utf8Bytes document.toList } })

end Configured

end Pinning.Resolver
