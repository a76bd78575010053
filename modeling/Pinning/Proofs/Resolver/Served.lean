import Pinning.Proofs.Resolver.Advance
import Pinning.Proofs.Resolver.Results
import Pinning.Proofs.Served
/-!
A configured resolver. Its questions and lookups are exchanges over one network, so the network
decides whether they end.
-/

set_option autoImplicit false
set_option relaxedAutoImplicit false

namespace Pinning

open Http (Network)

namespace Resolver

variable {config : Config} {network : Network} {r : Resolver}

section

variable (hconfig : ofConfig config network = .ok r)
include hconfig

theorem served_lookup (ref : Store.Ref) (cacheUrl : String) :
    (r.fanout.lookup ref cacheUrl).Served network := by
  obtain ⟨http, search, releases, -, -, -, rfl⟩ := ofConfig_eq_ok hconfig
  exact Store.served_lookup network http ref.hash (some ref.name) cacheUrl

theorem served_ask (inquiry : Inquiry) : (r.ask inquiry).Served network := by
  obtain ⟨http, search, releases, -, -, -, rfl⟩ := ofConfig_eq_ok hconfig
  cases inquiry with
  | legacy name version storePaths =>
    have hasked := search.served_single network name version
    refine .bind (.unlessCancelled (.bind (.note (by simp)) fun _ => hasked)) fun answer => ?_
    cases answer <;> exact .pure _
  | enriched name version =>
    exact .bind (.note (by simp)) fun _ =>
      .bind (search.served_versioned network name version) fun _ => .pure _
  | release raw =>
    exact .bind (.note (by simp)) fun _ => .bind (releases.served_pin network raw) fun _ => .pure _

theorem served_draft (strategy : Strategy) (written : String) :
    (r.draft strategy written).Served network := by
  rw [draft]
  split
  · exact .pure _
  · exact served_ask hconfig _

theorem quiet_fanout (hnetwork : network.NeverCancels) : r.fanout.Quiet := fun ref cacheUrl =>
  ((served_lookup hconfig ref cacheUrl).steady hnetwork).quiet

theorem calm_fanout (hnetwork : network.NeverCancels) : r.fanout.Calm := fun ref cacheUrl =>
  ((served_lookup hconfig ref cacheUrl).steady hnetwork).calm

theorem dependable_of_replies (hnetwork : network.Replies) : r.Dependable where
  single name version := by
    obtain ⟨http, search, releases, -, -, -, rfl⟩ := ofConfig_eq_ok hconfig
    exact (search.served_single network name version).exists_returns hnetwork
  versioned name version := by
    obtain ⟨http, search, releases, -, -, -, rfl⟩ := ofConfig_eq_ok hconfig
    exact (search.served_versioned network name version).exists_returns hnetwork
  pin written := by
    obtain ⟨http, search, releases, -, -, -, rfl⟩ := ofConfig_eq_ok hconfig
    exact (releases.served_pin network written).exists_returns hnetwork
  quiet := quiet_fanout hconfig hnetwork.neverCancels
  ends ref cacheUrl hwait := by
    obtain ⟨path, hpath⟩ := (served_lookup hconfig ref cacheUrl).exists_returns hnetwork
    cases hpath.outcome.symm.trans hwait

end

end Resolver

end Pinning
