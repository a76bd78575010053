import Pinning.Proofs.Fanout.Cancelled
import Pinning.Proofs.Resolver.Results
import Pinning.Proofs.Served
import Pinning.Proofs.Url.Relative
/-!
Resolving a spec alone gives way to a cancellation. Every service behind a client does, and so does
every stage that asks one.
-/

set_option autoImplicit false
set_option relaxedAutoImplicit false

namespace Pinning

open Activity (givesWay_unlessCancelled heeds_over waits_over)
open Http (Network)

theorem RunX.Client.givesWay_pin (client : RunX.Client) (network : Network) {written : String}
    {reference : RunX.Reference} (h : RunX.Reference.parse? written = some reference) :
    (client.pin network written).GivesWay network (.error .cancelled) := by
  rw [RunX.Client.pin_of_some h]
  exact (givesWay_unlessCancelled (heeds_over network _) (waits_over network _)).map _

namespace Search.Client

variable (client : Search.Client) (network : Network) (name version : String)

theorem exists_endpoint {names : List String} (hbase : client.base.path = .segments names)
    (protocol : Protocol) : ∃ url, client.endpoint protocol name version = .ok url := by
  obtain ⟨url, hurl⟩ : ∃ url, Url.join client.base (endpointPath protocol) = .ok url := by
    cases protocol <;> exact Url.exists_join_eq_ok hbase (by decide) (by decide)
  rw [endpoint, hurl]
  exact ⟨_, rfl⟩

theorem givesWay_versioned {names : List String} (hbase : client.base.path = .segments names) :
    (client.versioned network name version).GivesWay network (.error .cancelled) := by
  obtain ⟨url, hurl⟩ := client.exists_endpoint name version hbase .enriched
  simp only [versioned, hurl]
  exact (givesWay_unlessCancelled (heeds_over network _) (waits_over network _)).map _

theorem waits_single : (client.single network name version).Waits := by
  rw [single]
  split
  · intro h
    cases h
  · exact waits_over network _

end Search.Client

namespace Resolver

variable {config : Config} {network : Network} {r : Resolver} {strategy : Strategy}
  {written : String}

/-- The search service is asked at a URL that others can be joined to. -/
def HasHierarchicalSearch (config : Config) : Prop :=
  ∀ base, Http.baseUrl config.search.url = .ok base → ∃ names, base.path = .segments names

/-- The spec has a version, and if it names a released binary, it is a reference to one. -/
structure IsAnswerable (written : String) : Prop where
  version : (Spec.parse written).version.isSome = true
  reference : (Spec.parse written).isRelease = true →
    (RunX.Reference.parse? (Spec.parse written).raw).isSome = true

theorem givesWay_ask (hconfig : ofConfig config network = .ok r)
    (hsearch : HasHierarchicalSearch config) {inquiry : Inquiry}
    (hreference : ∀ raw, inquiry = .release raw → (RunX.Reference.parse? raw).isSome = true) :
    (r.ask inquiry).GivesWay network (.error .cancelled) := by
  obtain ⟨http, search, releases, -, hclient, -, rfl⟩ := ofConfig_eq_ok hconfig
  cases inquiry with
  | legacy name version storePaths =>
    have hasked : (Activity.note (.search .legacy name version) >>= fun _ =>
        search.single network name version).Served network :=
      .bind (.note (by simp)) fun _ => search.served_single network name version
    have hgiven := givesWay_unlessCancelled hasked.heeds
      ((search.waits_single network name version).note _)
    refine hgiven.bind rfl fun answer => .inl ?_
    cases answer <;> exact ⟨_, rfl⟩
  | enriched name version =>
    obtain ⟨names, hnames⟩ : ∃ names, search.base.path = .segments names := by
      obtain ⟨base, hbase, hof⟩ := except_bind_eq_ok.1 hclient
      obtain rfl := Except.ok.inj hof
      exact hsearch base hbase
    exact ((search.givesWay_versioned network name version hnames).map _).note (by simp)
  | release raw =>
    obtain ⟨reference, hparse⟩ := Option.isSome_iff_exists.1 (hreference raw rfl)
    exact ((releases.givesWay_pin network hparse).map _).note (by simp)

theorem givesWay_ask_or (hconfig : ofConfig config network = .ok r)
    (hsearch : HasHierarchicalSearch config) (inquiry : Inquiry) :
    (r.ask inquiry).GivesWay network (.error .cancelled)
      ∨ ∃ raw, r.ask inquiry
        = Activity.note (.pin raw) >>= fun _ => pure (.error (.invalidSpec raw)) := by
  by_cases hreference : ∀ raw, inquiry = .release raw → (RunX.Reference.parse? raw).isSome = true
  · exact .inl (givesWay_ask hconfig hsearch hreference)
  · simp only [Classical.not_forall] at hreference
    obtain ⟨raw, rfl, hparse⟩ := hreference
    obtain ⟨releases, -, hpin⟩ := pin_of_ofConfig hconfig
    exact .inr ⟨raw, ask_release_of_none hpin (by simpa using hparse)⟩

theorem givesWay_complete (hconfig : ofConfig config network = .ok r) {draft : Draft}
    {refs : Fanout.Refs} (hrefs : draft.refs = some refs) :
    (r.complete draft).GivesWay network (.error .cancelled) := by
  have hkeeps := keepsToken_of_ofConfig hconfig
  obtain ⟨http, search, releases, -, -, -, rfl⟩ := ofConfig_eq_ok hconfig
  rw [complete, hrefs]
  refine (Fanout.givesWay_resolve hkeeps (fun ref cacheUrl => ?_) refs).map _
  exact (Store.served_lookup network http ref.hash (some ref.name) cacheUrl).heeds

theorem IsAnswerable.ofSpec (h : IsAnswerable written) (strategy : Strategy) :
    ∃ inquiry, Inquiry.ofSpec strategy (Spec.parse written) = .ok inquiry
      ∧ ∀ raw, inquiry = .release raw → (RunX.Reference.parse? raw).isSome = true := by
  obtain ⟨version, hversion⟩ := Option.isSome_iff_exists.1 h.version
  rw [Inquiry.ofSpec, hversion]
  refine ⟨_, rfl, fun raw hraw => ?_⟩
  split at hraw
  · next hrelease =>
    obtain rfl := Inquiry.release.inj hraw
    exact h.reference hrelease
  · rw [Inquiry.search] at hraw
    split at hraw <;> cases hraw

theorem givesWay_resolve (hconfig : ofConfig config network = .ok r)
    (hsearch : HasHierarchicalSearch config) (hanswerable : IsAnswerable written)
    (strategy : Strategy) :
    (r.resolve strategy written).GivesWay network (.error .cancelled) := by
  obtain ⟨inquiry, hinquiry, hreference⟩ := hanswerable.ofSpec strategy
  have hdraft : (r.draft strategy written).GivesWay network (.error .cancelled) := by
    rw [draft, hinquiry]
    exact givesWay_ask hconfig hsearch hreference
  refine hdraft.bind rfl fun drafted => ?_
  cases drafted with
  | error cause => exact .inl ⟨_, rfl⟩
  | ok draft =>
    cases hrefs : draft.refs with
    | none => exact .inl ⟨.ok draft.package, by simp only [complete, hrefs]⟩
    | some refs => exact .inr (givesWay_complete hconfig hrefs)

end Resolver

end Pinning
