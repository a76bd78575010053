import Pinning.Proofs.Resolver.Failures
import Pinning.Proofs.RunX.Release
import Pinning.Proofs.Search.Answers
/-!
Whom a failure is put down to. The exit code is 1 for what the user has to mend: a spec without a
version, a malformed reference, a package that the search service does not know. By the legacy
protocol every failure of that service counts as the last. For all that goes wrong on the way, and
for a cancellation, the exit code is 2.
-/

set_option autoImplicit false
set_option relaxedAutoImplicit false

namespace Pinning.Resolver

variable {r : Resolver} {strategy : Strategy} {written : String} {config : Config}
  {network : Http.Network} {token : Bool} {cause : Error}

def searchClient (config : Config) : Except Error Search.Client := do
  Search.Client.of (← Http.Client.withAgent config.http.userAgent) config.search.url

theorem search_of_ofConfig (h : ofConfig config network = .ok r) :
    ∃ search, searchClient config = .ok search ∧ r.services.single = search.single network
      ∧ r.services.versioned = search.versioned network := by
  obtain ⟨http, search, releases, hhttp, hsearch, -, rfl⟩ := ofConfig_eq_ok h
  exact ⟨search, except_bind_eq_ok.2 ⟨http, hhttp, hsearch⟩, rfl, rfl⟩

inductive UsersFault (config : Config) (network : Http.Network) (strategy : Strategy)
    (written : String) : Prop
  | unversioned (hversion : (Spec.parse written).version = none)
  /-- A released binary is named by a malformed reference. -/
  | malformed (hrelease : (Spec.parse written).isRelease = true)
      (hparse : RunX.Reference.parse? (Spec.parse written).raw = none)
  /-- By the enriched protocol, the search service answers that there is no such package. -/
  | missing {search : Search.Client} {version : String}
      (hversion : (Spec.parse written).version = some version)
      (hrelease : (Spec.parse written).isRelease = false)
      (hprotocol : strategy.protocol = .enriched) (hsearch : searchClient config = .ok search)
      (hmisses : search.Misses network .enriched (Spec.parse written).name version)
  /-- By the legacy protocol, the search service gives no record, for whatever reason. -/
  | recordless {search : Search.Client} {version : String}
      (hversion : (Spec.parse written).version = some version)
      (hrelease : (Spec.parse written).isRelease = false) (hprotocol : strategy.protocol = .legacy)
      (hsearch : searchClient config = .ok search)
      (hnone : ∀ record, ¬ search.Gives network (Spec.parse written).name version record)

/-- The release service answers for every tag that is tried that there is no such release. -/
def LacksRelease (config : Config) (network : Http.Network) (written : String) : Prop :=
  (Spec.parse written).isRelease = true
    ∧ ∃ releases, releaseClient config = .ok releases
    ∧ releases.Lacks network (Spec.parse written).raw

/-- The exit code of a failure tells the user's faults from all others. About a release that does
not exist nothing is said. -/
structure TellsApart (config : Config) (network : Http.Network) (strategy : Strategy)
    (written : String) (token : Bool) (cause : Error) : Prop where
  cancelled : cause = .cancelled → token = true ∧ cause.exitCode = 2
  users : cause ≠ .cancelled → UsersFault config network strategy written → cause.exitCode = 1
  ours : cause ≠ .cancelled → ¬ UsersFault config network strategy written →
    ¬ LacksRelease config network written → cause.exitCode = 2

section Faults

variable {version : String} (hversion : (Spec.parse written).version = some version)
include hversion

private theorem usersFault_of_release (hrelease : (Spec.parse written).isRelease = true) :
    UsersFault config network strategy written
      ↔ RunX.Reference.parse? (Spec.parse written).raw = none := by
  constructor
  · intro hfault
    cases hfault with
    | unversioned hnone => cases hnone.symm.trans hversion
    | malformed _ hparse => exact hparse
    | missing _ hfalse _ _ _ => cases hfalse.symm.trans hrelease
    | recordless _ hfalse _ _ _ => cases hfalse.symm.trans hrelease
  · exact .malformed hrelease

variable {search : Search.Client} (hrelease : (Spec.parse written).isRelease = false)
  (hsearch : searchClient config = .ok search)
include hrelease hsearch

private theorem usersFault_of_enriched (hprotocol : strategy.protocol = .enriched) :
    UsersFault config network strategy written
      ↔ search.Misses network .enriched (Spec.parse written).name version := by
  constructor
  · intro hfault
    cases hfault with
    | unversioned hnone => cases hnone.symm.trans hversion
    | malformed htrue _ => cases htrue.symm.trans hrelease
    | missing hother _ _ hclient hmisses =>
      obtain rfl := Option.some.inj (hversion.symm.trans hother)
      obtain rfl := Except.ok.inj (hsearch.symm.trans hclient)
      exact hmisses
    | recordless _ _ hlegacy _ _ => cases hlegacy.symm.trans hprotocol
  · exact .missing hversion hrelease hprotocol hsearch

private theorem usersFault_of_legacy (hprotocol : strategy.protocol = .legacy) :
    UsersFault config network strategy written
      ↔ ∀ record, ¬ search.Gives network (Spec.parse written).name version record := by
  constructor
  · intro hfault
    cases hfault with
    | unversioned hnone => cases hnone.symm.trans hversion
    | malformed htrue _ => cases htrue.symm.trans hrelease
    | missing _ _ henriched _ _ => cases henriched.symm.trans hprotocol
    | recordless hother _ _ hclient hnone =>
      obtain rfl := Option.some.inj (hversion.symm.trans hother)
      obtain rfl := Except.ok.inj (hsearch.symm.trans hclient)
      exact hnone
  · exact .recordless hversion hrelease hprotocol hsearch

end Faults

section Refusals

private theorem tellsApart_of_users (hne : cause ≠ .cancelled)
    (hfault : UsersFault config network strategy written) (hcode : cause.exitCode = 1) :
    TellsApart config network strategy written token cause where
  cancelled hcause := absurd hcause hne
  users _ _ := hcode
  ours _ hnot _ := absurd hfault hnot

private theorem tellsApart_of_ours (hne : cause ≠ .cancelled)
    (hfault : ¬ UsersFault config network strategy written) (hcode : cause.exitCode = 2) :
    TellsApart config network strategy written token cause where
  cancelled hcause := absurd hcause hne
  users _ husers := absurd husers hfault
  ours _ _ _ := hcode

private theorem tellsApart_of_cancelled (htoken : token = true) :
    TellsApart config network strategy written token .cancelled where
  cancelled _ := ⟨htoken, rfl⟩
  users hne := absurd rfl hne
  ours hne := absurd rfl hne

variable {version : String} (hresolver : ofConfig config network = .ok r)
  (hversion : (Spec.parse written).version = some version)
include hresolver hversion

private theorem tellsApart_of_legacy {answered : Except Search.Error Search.LegacyRecord}
    (hrelease : (Spec.parse written).isRelease = false) (hprotocol : strategy.protocol = .legacy)
    (hanswer : ((r.services.single (Spec.parse written).name version).course false).outcome
      = .returned answered)
    (hdraft : Draft.ofLegacy r.host (Spec.parse written).name version strategy.storePaths answered
      = .error cause) : TellsApart config network strategy written token cause := by
  obtain ⟨search, hsearch, hsingle, -⟩ := search_of_ofConfig hresolver
  have hfault : UsersFault config network strategy written ↔ _ :=
    usersFault_of_legacy hversion hrelease hsearch hprotocol
  rw [hsingle] at hanswer
  rcases Draft.ofLegacy_eq_error hdraft with ⟨⟨problem, rfl⟩, rfl⟩ | ⟨⟨record, rfl⟩, hcause⟩
  · refine tellsApart_of_users (by simp) (hfault.2 fun record hgives => ?_) rfl
    cases hanswer.symm.trans (Search.Client.outcome_single_eq_ok.2 hgives)
  · have hgives := Search.Client.outcome_single_eq_ok.1 hanswer
    have hours : ¬ UsersFault config network strategy written :=
      fun husers => hfault.1 husers record hgives
    rcases hcause with rfl | rfl
    · exact tellsApart_of_ours (by simp) hours rfl
    · exact tellsApart_of_ours (by simp) hours rfl

private theorem tellsApart_of_enriched {answered : Except Search.Error Search.EnrichedRecord}
    {before : Bool} (hrelease : (Spec.parse written).isRelease = false)
    (hprotocol : strategy.protocol = .enriched)
    (hanswer : ((r.services.versioned (Spec.parse written).name version).course before).outcome
      = .returned answered)
    (htoken : ((r.services.versioned (Spec.parse written).name version).course before).cancelled
      = true →
      token = true)
    (hdraft : Draft.ofEnriched r.host (Spec.parse written).name version answered = .error cause) :
    TellsApart config network strategy written token cause := by
  obtain ⟨search, hsearch, -, hversioned⟩ := search_of_ofConfig hresolver
  have hfault : UsersFault config network strategy written ↔ _ :=
    usersFault_of_enriched hversion hrelease hsearch hprotocol
  rw [hversioned] at hanswer htoken
  rcases Search.Client.outcome_versioned hanswer with ⟨rfl, hcancelled⟩ | ⟨hnot, hmissed⟩
  · obtain rfl := Except.error.inj hdraft
    exact tellsApart_of_cancelled (htoken hcancelled)
  · rcases Draft.ofEnriched_eq_error hdraft with ⟨rfl, rfl⟩ | ⟨rfl, -⟩ | ⟨hfound, hcause⟩
    · exact tellsApart_of_users (by simp) (hfault.2 (hmissed.1 rfl)) rfl
    · exact absurd rfl hnot
    · have hours : ¬ UsersFault config network strategy written :=
        fun husers => hfound (hmissed.2 (hfault.1 husers))
      rcases hcause with ⟨problem, rfl⟩ | rfl
      · exact tellsApart_of_ours (by simp) hours rfl
      · exact tellsApart_of_ours (by simp) hours rfl

private theorem tellsApart_of_release {answered : Except RunX.Error RunX.Reference} {before : Bool}
    (hrelease : (Spec.parse written).isRelease = true)
    (hanswer : ((r.services.pin (Spec.parse written).raw).course before).outcome
      = .returned answered)
    (htoken : ((r.services.pin (Spec.parse written).raw).course before).cancelled = true →
      token = true)
    (hdraft : Draft.ofRelease answered = .error cause) :
    TellsApart config network strategy written token cause := by
  obtain ⟨releases, hreleases, hpin⟩ := pin_of_ofConfig hresolver
  have hfault : UsersFault config network strategy written ↔ _ :=
    usersFault_of_release hversion hrelease
  rw [hpin] at hanswer htoken
  cases answered with
  | ok reference => cases hdraft
  | error problem =>
    rcases RunX.Client.outcome_pin_eq_error hanswer with ⟨rfl, hcancelled⟩ | ⟨-, hunpinned⟩
    · obtain rfl := Except.error.inj hdraft
      exact tellsApart_of_cancelled (htoken hcancelled)
    · have hours : (RunX.Reference.parse? (Spec.parse written).raw).isSome →
          ¬ UsersFault config network strategy written := by
        intro hsome husers
        rw [hfault.1 husers] at hsome
        cases hsome
      cases hunpinned with
      | malformed hparse =>
        obtain rfl := Except.error.inj hdraft
        exact tellsApart_of_users (by simp) (hfault.2 hparse) rfl
      | status hsome =>
        obtain rfl := Except.error.inj hdraft
        exact tellsApart_of_ours (by simp) (hours hsome) rfl
      | transport hsome =>
        obtain rfl := Except.error.inj hdraft
        exact tellsApart_of_ours (by simp) (hours hsome) rfl
      | @lacking reference hparse hnone =>
        -- Of a release that does not exist the exit code is left open, so it is not looked at here.
        obtain rfl := Except.error.inj hdraft
        exact {
          cancelled := fun hcause => by cases hcause
          users := fun _ husers => absurd husers (hours (by simp [hparse]))
          ours := fun _ _ hlacks =>
            absurd ⟨hrelease, releases, hreleases, reference, hparse, hnone⟩ hlacks }

end Refusals

/-- The exit code tells the user's faults from all others, alone and beside other specs. A
cancellation ends with 2, and only if the caller has cancelled. Every other failure ends with 1 if
the spec has no version or is a malformed reference, if the search service answers by the enriched
protocol that there is no such package, or if it gives no record by the legacy protocol; and with 2
if not. -/
theorem exitCode_tells_apart (hresolver : ofConfig config network = .ok r)
    (hfails : r.FailsWith strategy written cause token) :
    TellsApart config network strategy written token cause := by
  cases hfails.refusal with
  | bare hversion => exact tellsApart_of_users (by simp) (.unversioned hversion) rfl
  | legacy hversion hrelease hprotocol hanswer hdraft =>
    exact tellsApart_of_legacy hresolver hversion hrelease hprotocol hanswer hdraft
  | enriched hversion hrelease hprotocol hanswer htoken hdraft =>
    exact tellsApart_of_enriched hresolver hversion hrelease hprotocol hanswer htoken hdraft
  | release hversion hrelease hanswer htoken hdraft =>
    exact tellsApart_of_release hresolver hversion hrelease hanswer htoken hdraft
  | givenUp htoken => exact tellsApart_of_cancelled htoken
  | @brokenDown version problem record hversion hrelease hprotocol hanswer =>
    obtain ⟨search, hsearch, hsingle, -⟩ := search_of_ofConfig hresolver
    rw [hsingle] at hanswer
    refine tellsApart_of_ours (by simp) (fun husers => ?_) rfl
    exact (usersFault_of_legacy hversion hrelease hsearch hprotocol).1 husers record
      (Search.Client.outcome_single_eq_ok.1 hanswer)

/-- A network that replies to every request with this status and nothing else. -/
def statusOnly (status : Nat) : Http.Network := fun _ => .replied (.response { status })

private theorem outcome_failing :
    outcomeOf {} (statusOnly 404) ⟨.enriched, false⟩ "hello@1"
        = .ok (.returned (.error (.packageNotFound "hello" "1")))
      ∧ (ofConfig {} (statusOnly 404)).map (fun r =>
          ((r.services.versioned "hello" "1").course false).outcome)
        = .ok (.returned (.error .notFound))
      ∧ outcomeOf {} Http.breaking ⟨.enriched, false⟩ "hello@1"
        = .ok (.returned (.error (.search (.transport
          "error sending request for url (https://search.devbox.sh/v2/resolve?name=hello&version=1)"))))
      ∧ outcomeOf {} Http.breaking ⟨.legacy, false⟩ "hello@1"
        = .ok (.returned (.error (.packageNotFound "hello" "1"))) := by decide +kernel

private theorem not_misses_breaking (search : Search.Client) (protocol : Protocol)
    (name version : String) :
    ¬ search.Misses Http.breaking protocol name version := by
  rintro ⟨response, ⟨url, request, -, -, hreply⟩, -⟩
  cases hreply

private theorem parse_hello :
    (Spec.parse "hello@1").name = "hello" ∧ (Spec.parse "hello@1").version = some "1"
      ∧ (Spec.parse "hello@1").isRelease = false := by decide +kernel

/-- A service that does not know the package, and one that cannot be reached. -/
theorem exitCode_tells_apart_enriched :
    (∃ r cause token, ofConfig {} (statusOnly 404) = .ok r
      ∧ r.FailsWith ⟨.enriched, false⟩ "hello@1" cause token
        ∧ UsersFault {} (statusOnly 404) ⟨.enriched, false⟩ "hello@1" ∧ cause.exitCode = 1)
      ∧ ∃ r cause token, ofConfig {} Http.breaking = .ok r
      ∧ r.FailsWith ⟨.enriched, false⟩ "hello@1" cause token
        ∧ ¬ UsersFault {} Http.breaking ⟨.enriched, false⟩ "hello@1" ∧ cause.exitCode = 2 := by
  obtain ⟨hname, hversion, hrelease⟩ := parse_hello
  obtain ⟨hunknown, hnotFound, hbroken, -⟩ := outcome_failing
  constructor
  · obtain ⟨r, hresolver, hresolve⟩ := exists_of_outcomeOf hunknown
    obtain ⟨search, hsearch, -, hversioned⟩ := search_of_ofConfig hresolver
    rw [hresolver] at hnotFound
    have hanswer : ((r.services.versioned "hello" "1").course false).outcome
        = .returned (.error .notFound) :=
      Except.ok.inj hnotFound
    rw [hversioned] at hanswer
    have hfault : UsersFault {} (statusOnly 404) ⟨.enriched, false⟩ "hello@1" := by
      refine .missing hversion hrelease rfl hsearch ?_
      rw [hname]
      rcases Search.Client.outcome_versioned hanswer with ⟨hgiven, -⟩ | ⟨-, hmissed⟩
      · cases hgiven
      · exact hmissed.1 rfl
    exact ⟨r, _, _, hresolver, .alone hresolve, hfault,
      (exitCode_tells_apart hresolver (.alone hresolve)).users (by simp) hfault⟩
  · obtain ⟨r, hresolver, hresolve⟩ := exists_of_outcomeOf hbroken
    obtain ⟨search, hsearch, -, -⟩ := search_of_ofConfig hresolver
    have hfault : ¬ UsersFault {} Http.breaking ⟨.enriched, false⟩ "hello@1" := by
      rw [usersFault_of_enriched hversion hrelease hsearch rfl]
      exact not_misses_breaking search _ _ _
    have hfound : ¬ LacksRelease {} Http.breaking "hello@1" :=
      fun hlacks => by cases hrelease.symm.trans hlacks.1
    exact ⟨r, _, _, hresolver, .alone hresolve, hfault,
      (exitCode_tells_apart hresolver (.alone hresolve)).ours (by simp) hfault hfound⟩

/-- By the legacy protocol a service that cannot be reached is put down to the user, although it has
not answered that there is no such package. -/
theorem exitCode_of_unreachable :
    ∃ r search cause, ofConfig {} Http.breaking = .ok r ∧ searchClient {} = .ok search
      ∧ ((r.resolve ⟨.legacy, false⟩ "hello@1").course false).outcome = .returned (.error cause)
      ∧ (Spec.parse "hello@1").version = some "1" ∧ (Spec.parse "hello@1").isRelease = false
      ∧ ¬ search.Misses Http.breaking .legacy "hello" "1" ∧ cause.exitCode ≠ 2 := by
  obtain ⟨-, hversion, hrelease⟩ := parse_hello
  obtain ⟨-, -, -, hlegacy⟩ := outcome_failing
  obtain ⟨r, hresolver, hresolve⟩ := exists_of_outcomeOf hlegacy
  obtain ⟨search, hsearch, -, -⟩ := search_of_ofConfig hresolver
  exact ⟨r, search, _, hresolver, hsearch, hresolve, hversion, hrelease,
    not_misses_breaking search _ _ _, by decide⟩

end Pinning.Resolver
