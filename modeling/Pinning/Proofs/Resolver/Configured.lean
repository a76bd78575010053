import Pinning.Proofs.Resolver.BaseUrls
import Pinning.Proofs.Resolver.CachedPaths
import Pinning.Proofs.Resolver.Calls
import Pinning.Proofs.Resolver.GivesWay
import Pinning.Proofs.Resolver.TwoStores
/-!
Which of the configured URLs are read while a resolver is built. Those of the search service and of
the release service are. The one of the binary cache is read anew at every lookup, where its problem
counts as one of the connection: the platform is dropped, as for an output that the cache does not
have.
-/

set_option autoImplicit false
set_option relaxedAutoImplicit false

namespace Pinning

/-- The text is a URL that requests to a service can be built on. -/
def Http.IsUrl (written : String) : Prop := ∃ base, baseUrl written = .ok base

theorem Http.isUrl_iff {written : String} : IsUrl written ↔ (baseUrl written).isOk = true := by
  rw [IsUrl]
  cases baseUrl written with
  | error cause => simp [Except.isOk, Except.toBool]
  | ok base => simp [Except.isOk, Except.toBool]

instance (written : String) : Decidable (Http.IsUrl written) :=
  decidable_of_iff _ Http.isUrl_iff.symm

namespace Fanout

variable {f : Fanout}

def Barren (f : Fanout) : Prop := ∀ ref, ∃ cause, (f.lookup ref f.cacheUrl).Returns (.error cause)

theorem Barren.returns_tasks (h : f.Barren) (refs : Refs) :
    ∃ endings, (f.tasks refs).Returns endings
      ∧ ∀ entry ∈ endings, ∃ cause, entry.2 = .returned (.error cause) := by
  induction refs with
  | nil => exact ⟨[], Activity.returns_pure _, by simp⟩
  | cons entry rest ih =>
    obtain ⟨platform, ref⟩ := entry
    obtain ⟨cause, hlookup⟩ := h ref
    obtain ⟨endings, hrest, hendings⟩ := ih
    have htask : (f.task ref).Returns (.returned (.error cause)) := by
      refine (Activity.returns_note _).bind ⟨hlookup.token, ?_⟩
      exact congrArg Outcome.returned hlookup.outcome
    refine ⟨(platform, .returned (.error cause)) :: endings, ?_, ?_⟩
    · exact htask.bind (hrest.bind (Activity.returns_pure _))
    · intro entry hentry
      rcases List.mem_cons.1 hentry with rfl | hmem
      · exact ⟨cause, rfl⟩
      · exact hendings entry hmem

theorem gather_of_errors {endings : Endings}
    (h : ∀ entry ∈ endings, ∃ cause, entry.2 = .returned (.error cause)) :
    gather false endings = .returned (.ok ∅) := by
  have hpanic : endings.any isPanic = false := by
    apply List.any_eq_false.2
    intro entry hentry
    obtain ⟨cause, hcause⟩ := h entry hentry
    simp [isPanic, hcause]
  have hwait : endings.any isWait = false := by
    apply List.any_eq_false.2
    intro entry hentry
    obtain ⟨cause, hcause⟩ := h entry hentry
    simp [isWait, hcause]
  have hfound : endings.filterMap found? = [] := by
    apply List.filterMap_eq_nil_iff.2
    intro entry hentry
    obtain ⟨cause, hcause⟩ := h entry hentry
    simp [found?, hcause]
  simp only [gather, hpanic, hwait, found, hfound, Bool.false_eq_true, if_false]
  rfl

theorem Barren.returns_resolve (h : f.Barren) (refs : Refs) : (f.resolve refs).Returns (.ok ∅) := by
  obtain ⟨endings, htasks, hendings⟩ := h.returns_tasks (wanted refs)
  have hjoin : (join endings).Returns (.ok ∅) := by
    refine Activity.returns_isCancelled.bind ⟨rfl, ?_⟩
    exact gather_of_errors hendings
  exact Activity.returns_isCancelled.bind (htasks.bind hjoin)

end Fanout

namespace Store

open Http (Exchange Network IsUrl)

variable {cacheUrl : String}

theorem lookup_of_not_isUrl (client : Http.Client) (network : Network) (h : ¬ IsUrl cacheUrl) :
    ∃ problem, ∀ hash name,
    (lookup client network hash name cacheUrl).course false
      = ⟨[], false, .returned (.error (.transport (Error.config problem).message))⟩ := by
  cases hbase : Http.baseUrl cacheUrl with
  | ok base => exact absurd ⟨base, hbase⟩ h
  | error cause =>
    obtain ⟨problem, rfl⟩ := Resolver.baseUrl_eq_error hbase
    refine ⟨problem, ?_⟩
    intro hash name
    rw [lookup, fetch, narinfoUrl, hbase]
    rfl

def BlamesUrl (answer : Except Error String) : Prop :=
  ∃ problem, answer = .error (.transport (Pinning.Error.config problem).message)

private theorem head?_toList_append {front : String} (h : front.toList ≠ []) (rest : String) :
    (front ++ rest).toList.head? = front.toList.head? := by
  rw [String.toList_append, List.head?_append_of_ne_nil _ h]

theorem not_blamesUrl_transport {reason : String} (h : reason.toList.head? ≠ some 'C') :
    ¬ BlamesUrl (.error (.transport reason)) := by
  rintro ⟨problem, hanswer⟩
  have hmessage : (Pinning.Error.config problem).message = "Configuration error: " ++ problem := rfl
  simp only [Except.error.injEq, Error.transport.injEq] at hanswer
  apply h
  rw [hanswer, hmessage, head?_toList_append (by decide)]
  decide

theorem not_blamesUrl_pathOfResponse (hash : String) (name : Option String)
    (response : Http.Response) :
    ¬ BlamesUrl (pathOfResponse hash name response) := by
  rw [pathOfResponse]
  split
  · simp [BlamesUrl]
  split
  · simp [BlamesUrl]
  split
  · exact not_blamesUrl_transport (by decide)
  split
  · simp [BlamesUrl]
  split
  · next cause hcause =>
    rw [verify_eq_error hcause]
    simp [BlamesUrl]
  · simp [BlamesUrl]

theorem fetch_not_blamesUrl (client : Http.Client) (hash : String) (name : Option String)
    (h : IsUrl cacheUrl) :
    (fetch client hash name cacheUrl).Yields fun answer => ¬ BlamesUrl answer := by
  obtain ⟨base, hbase⟩ := h
  rw [fetch]
  split
  · next problem hproblem =>
    refine .done (not_blamesUrl_transport ?_)
    simp only [narinfoUrl, hbase] at hproblem
    split at hproblem
    · next cause _ =>
      rw [← Except.error.inj hproblem]
      cases cause <;> decide
    · cases hproblem
  · next url _ =>
    -- Every problem with a request or with the connection is reported in words that begin
    -- otherwise.
    refine Exchange.Yields.bind (P := fun reply => ∀ problem, reply = .error problem →
      problem.toList.head? ≠ some 'C') ?_ ?_
    · rw [Http.Client.get]
      split
      · next problem hproblem =>
        refine .done ?_
        rintro _ ⟨⟩
        obtain ⟨target, rfl⟩ := Http.request_eq_error hproblem
        rw [String.append_assoc, head?_toList_append (by decide)]
        decide
      · refine .send ?_
        intro reply
        cases reply with
        | response response => exact .done (by simp)
        | broken =>
          refine .done ?_
          rintro _ ⟨⟩
          rw [String.append_assoc, head?_toList_append (by decide)]
          decide
    · intro reply hreply
      cases reply with
      | error problem => exact .done (not_blamesUrl_transport (hreply problem rfl))
      | ok response => exact .done (not_blamesUrl_pathOfResponse hash name response)

end Store

namespace Resolver

open Http (IsUrl)

variable {r : Resolver} {written : String} {config : Config} {network : Http.Network}

section Building

theorem exists_withAgent_iff {agent : String} :
    (∃ http, Http.Client.withAgent agent = .ok http) ↔ Http.isHeaderValue agent = true := by
  rw [Http.Client.withAgent]
  cases hvalue : Http.isHeaderValue agent with
  | true => simp
  | false => simp

theorem exists_ofConfig_iff : (∃ r, ofConfig config network = .ok r)
    ↔ Http.isHeaderValue config.http.userAgent = true ∧ IsUrl config.search.url
      ∧ IsUrl config.releases.apiUrl := by
  constructor
  · rintro ⟨r, hr⟩
    obtain ⟨http, search, releases, hhttp, hsearch, hreleases, -⟩ := ofConfig_eq_ok hr
    obtain ⟨base, hbase, -⟩ := except_bind_eq_ok.1 hsearch
    obtain ⟨apiBase, hapiBase, -⟩ := except_bind_eq_ok.1 hreleases
    exact ⟨exists_withAgent_iff.1 ⟨http, hhttp⟩, ⟨base, hbase⟩, ⟨apiBase, hapiBase⟩⟩
  · rintro ⟨hagent, ⟨base, hbase⟩, ⟨apiBase, hapiBase⟩⟩
    obtain ⟨http, hhttp⟩ := exists_withAgent_iff.2 hagent
    have hsearch : Search.Client.of http config.search.url = .ok ⟨http, base⟩ :=
      except_bind_eq_ok.2 ⟨base, hbase, rfl⟩
    have hreleases : RunX.Client.of http config.releases.apiUrl = .ok ⟨http, apiBase⟩ :=
      except_bind_eq_ok.2 ⟨apiBase, hapiBase, rfl⟩
    have hservices : Services.ofConfig config network
        = .ok (Services.ofClients http ⟨http, base⟩ ⟨http, apiBase⟩ network) :=
      except_bind_eq_ok.2 ⟨http, hhttp,
        except_bind_eq_ok.2 ⟨_, hsearch, except_bind_eq_ok.2 ⟨_, hreleases, rfl⟩⟩⟩
    exact ⟨_, except_bind_eq_ok.2 ⟨_, hservices, rfl⟩⟩

theorem exists_ofConfig_eq_config_iff :
    (∃ problem, ofConfig config network = .error (.config problem))
    ↔ Http.isHeaderValue config.http.userAgent = true
      ∧ ¬ (IsUrl config.search.url ∧ IsUrl config.releases.apiUrl) := by
  constructor
  · rintro ⟨problem, hproblem⟩
    have hagent : Http.isHeaderValue config.http.userAgent = true := by
      by_contra hvalue
      have hhttp : Http.Client.withAgent config.http.userAgent
          = .error (.http "builder error") := by
        rw [Http.Client.withAgent, if_neg hvalue]
      rw [ofConfig, Services.ofConfig, hhttp] at hproblem
      cases hproblem
    refine ⟨hagent, ?_⟩
    intro hurls
    obtain ⟨r, hr⟩ := exists_ofConfig_iff.2 ⟨hagent, hurls⟩
    cases hproblem.symm.trans hr
  · rintro ⟨hagent, hurls⟩
    obtain ⟨http, hhttp⟩ := exists_withAgent_iff.2 hagent
    have hrefused : ∀ text, ¬ IsUrl text → IsRefused text := by
      intro text htext
      cases hbase : Http.baseUrl text with
      | ok base => exact absurd ⟨base, hbase⟩ htext
      | error cause => exact isRefused_of_baseUrl hbase
    rcases not_and_or.1 hurls with hsearch | hreleases
    · exact (hrefused _ hsearch).builds config network http hhttp (.inl rfl)
    · exact (hrefused _ hreleases).builds config network http hhttp (.inr rfl)

end Building

section Lookups

/-- The search service can be asked and the store has nothing. -/
structure IsBarren (r : Resolver) : Prop where
  waits : ∀ name version, (r.services.single name version).Waits
  barren : r.fanout.Barren
  late : ∀ ref path, ((r.services.lookup ref r.cacheUrl).course true).outcome ≠ .returned (.ok path)
  keeps : r.fanout.KeepsToken

theorem isBarren_of_ofConfig (hr : ofConfig config network = .ok r) (h : ¬ IsUrl config.cache.url) :
    r.IsBarren := by
  have hkeeps := keepsToken_of_ofConfig hr
  obtain ⟨http, search, releases, -, -, -, rfl⟩ := ofConfig_eq_ok hr
  obtain ⟨problem, hproblem⟩ := Store.lookup_of_not_isUrl http network h
  refine { waits := search.waits_single network, barren := ?_, late := ?_, keeps := hkeeps }
  · intro ref
    have hlookup := hproblem ref.hash (some ref.name)
    exact ⟨_, congrArg Course.cancelled hlookup, congrArg Course.outcome hlookup⟩
  · intro ref path hpath
    cases (Store.verify_of_lookup hpath).1

namespace IsBarren

variable (h : r.IsBarren)
include h

theorem outcome_pursue (name version : String) (cancelled : Bool) :
    ((r.pursue (.legacy name version true)).course cancelled).outcome
      = ((r.pursue (.legacy name version false)).course cancelled).outcome := by
  rw [pursue, pursue, ask_legacy, ask_legacy, Activity.bind_pure_bind, Activity.bind_pure_bind]
  refine Activity.outcome_bind_congr ?_
  intro answer hanswer
  cases answer with
  | none => rfl
  | some answer =>
    obtain ⟨rfl, hasked⟩ := Activity.outcome_unlessCancelled_eq_some.1 hanswer
    have hsingle : (r.services.single name version).Returns answer :=
      (h.waits name version).returns hasked
    rw [((Activity.returns_note _).bind hsingle).unlessCancelled.token]
    cases answer with
    | error cause => rfl
    | ok record =>
      simp only [Option.elim_some, Draft.ofLegacy_ok]
      cases hpackage : Draft.packageOfLegacy r.host name version record with
      | error cause => rfl
      | ok package =>
        obtain ⟨_, _, _, _, -, -, hfields⟩ := Draft.packageOfLegacy_eq_ok.1 hpackage
        have hpaths := h.barren.returns_resolve (Draft.refsOfLegacy record)
        have hwith : (r.complete ⟨package, some (Draft.refsOfLegacy record)⟩).Returns
            (.ok { package with systems := ∅ }) :=
          returns_complete rfl hpaths
        refine hwith.outcome.trans ?_
        rw [hfields]
        rfl

theorem outcome_resolve (written : String) (cancelled : Bool) :
    ((r.resolve ⟨.legacy, true⟩ written).course cancelled).outcome
      = ((r.resolve ⟨.legacy, false⟩ written).course cancelled).outcome := by
  cases hversion : (Spec.parse written).version with
  | none =>
    rw [resolve, resolve, draft, draft, Inquiry.ofSpec, Inquiry.ofSpec, hversion]
  | some version =>
    cases hrelease : (Spec.parse written).isRelease with
    | true =>
      rw [resolve_eq_pursue (Inquiry.ofSpec_of_release hversion hrelease),
        resolve_eq_pursue (Inquiry.ofSpec_of_release hversion hrelease)]
    | false =>
      rw [resolve_eq_pursue (Inquiry.ofSpec_of_legacy hversion hrelease rfl),
        resolve_eq_pursue (Inquiry.ofSpec_of_legacy hversion hrelease rfl)]
      exact h.outcome_pursue (Spec.parse written).name version cancelled

theorem systems_eq_empty {package : Package}
    (hcomes : r.ComesTo ⟨.legacy, true⟩ written (.ok package)) :
    package.systems = ∅ := by
  apply SortedMap.ext_get?
  intro platform
  rw [SortedMap.get?_empty]
  apply Option.eq_none_iff_forall_not_mem.2
  intro path hpath
  obtain ⟨_, _, entry, before, -, -, -, hlookup⟩ := (hcomes.settles h.keeps).lookup_of_systems hpath
  cases before with
  | true => exact h.late _ _ hlookup
  | false =>
    obtain ⟨cause, hcause⟩ := h.barren entry.storeRef
    cases hcause.outcome.symm.trans hlookup

theorem comesTo {package : Package} (hcomes : r.ComesTo ⟨.legacy, true⟩ written (.ok package)) :
    r.ComesTo ⟨.legacy, false⟩ written (.ok package) := by
  have hempty : package.systems = ∅ := h.systems_eq_empty hcomes
  obtain ⟨before, draft, hdraft, hpackage, hsystems⟩ := hcomes.drafted
  obtain ⟨version, hversion, horigin⟩ := origin_of_draft hdraft
  cases horigin with
  | @legacy record hrelease _ hanswer hlegacy _ =>
    have hbare := (resolvesTo_bare hversion hrelease
      ((h.waits _ version).returns hanswer)).alone.outcome
    have hsame : package = draft.package := by
      obtain ⟨_, _, _, _, -, -, hfields⟩ := Draft.packageOfLegacy_eq_ok.1 hlegacy
      rw [hpackage, Draft.complete, hempty, hfields]
    rw [hlegacy, ← hsame] at hbare
    exact .alone hbare
  | enriched _ hprotocol _ _ _ => cases hprotocol
  | release _ _ hreference =>
    -- Nothing is left to look up, so the draft is the package whatever the strategy.
    obtain rfl := Except.ok.inj hreference
    have hsame : package.systems = ∅ := hsystems rfl
    rw [hpackage, hsame]
    have hresolve : ((r.resolve ⟨.legacy, true⟩ written).course before).outcome = _ :=
      Activity.outcome_bind_eq_returned.2 ⟨_, hdraft, rfl⟩
    exact .alone ((h.outcome_resolve written before).symm.trans hresolve)

end IsBarren

/-- The resolver cannot tell where its binary cache is, and says so nowhere but in the answer to a
lookup. A spec comes to what it comes to without store paths, and so does every package beside other
specs. -/
structure LacksCache (r : Resolver) : Prop where
  unread : ∀ ref, ∃ problem, (r.services.lookup ref r.cacheUrl).course false
    = ⟨[], false, .returned (.error (.transport (Error.config problem).message))⟩
  alone : ∀ written cancelled, ((r.resolve ⟨.legacy, true⟩ written).course cancelled).outcome
    = ((r.resolve ⟨.legacy, false⟩ written).course cancelled).outcome
  beside : ∀ written package, r.ComesTo ⟨.legacy, true⟩ written (.ok package) →
    package.systems = ∅ ∧ r.ComesTo ⟨.legacy, false⟩ written (.ok package)

theorem lacksCache_iff (hr : ofConfig config network = .ok r) :
    r.LacksCache ↔ ¬ IsUrl config.cache.url := by
  constructor
  · intro hlacks hurl
    obtain ⟨problem, hunread⟩ := hlacks.unread ⟨"", ""⟩
    obtain ⟨http, search, releases, -, -, -, rfl⟩ := ofConfig_eq_ok hr
    have hanswer : ((Store.lookup http network "" (some "") config.cache.url).course false).outcome
        = .returned (.error (.transport (Error.config problem).message)) :=
          congrArg Course.outcome hunread
    rcases Activity.outcome_unlessCancelled_map hanswer with
      ⟨answer, -, hfetch, hsame⟩ | ⟨hgiven, -⟩
    · have hnot := (Store.fetch_not_blamesUrl http "" (some "") hurl).of_over hfetch
      exact hnot ⟨problem, hsame.symm⟩
    · cases hgiven
  · intro hurl
    have hbarren := isBarren_of_ofConfig hr hurl
    refine { unread := ?_, alone := hbarren.outcome_resolve, beside := ?_ }
    · obtain ⟨http, search, releases, -, -, -, rfl⟩ := ofConfig_eq_ok hr
      obtain ⟨problem, hproblem⟩ := Store.lookup_of_not_isUrl http network hurl
      intro ref
      exact ⟨problem, hproblem ref.hash (some ref.name)⟩
    · intro written package hcomes
      exact ⟨hbarren.systems_eq_empty hcomes, hbarren.comesTo hcomes⟩

end Lookups

/-- Of the three configured URLs only those of the search service and of the release service are
checked when a resolver is built. If the text for the binary cache is no URL, the resolver is built
all the same; it then resolves with store paths wanted as it does without, and leaves every store
path out. -/
theorem ofConfig_checks_two_urls (config : Config) (network : Http.Network) :
    ((∃ r, ofConfig config network = .ok r)
      ↔ Http.isHeaderValue config.http.userAgent = true ∧ IsUrl config.search.url
        ∧ IsUrl config.releases.apiUrl)
    ∧ ((∃ problem, ofConfig config network = .error (.config problem))
      ↔ Http.isHeaderValue config.http.userAgent = true
        ∧ ¬ (IsUrl config.search.url ∧ IsUrl config.releases.apiUrl))
    ∧ ∀ r, ofConfig config network = .ok r → (r.LacksCache ↔ ¬ IsUrl config.cache.url) :=
  ⟨exists_ofConfig_iff, exists_ofConfig_eq_config_iff, fun _ hr => lacksCache_iff hr⟩

def cachedAt (url : String) : Config := { cache := { url } }

/-- A network on which the search service knows a build for one platform, and every cache has its
output. -/
def stocked : Http.Network := fun request =>
  serving (if request.url.query.isSome then
    "\x7b\"version\":\"1\",\"systems\":\x7b\"x86_64-linux\":\x7b\"attr_paths\":[\"n\"],\"commit_hash\":\"c0ffee\","
      ++ "\"store_hash\":\"00000000000000000000000000000000\",\"store_name\":\"n\"\x7d\x7d\x7d"
  else "StorePath: /nix/store/00000000000000000000000000000000-n") request

def stockedPackage : Package where
  version := "1"
  resolved := "github:NixOS/nixpkgs/c0ffee#n"
  lastModified := none
  source := some .remoteSearch
  systems := SortedMap.ofList [("x86_64-linux", "/nix/store/00000000000000000000000000000000-n")]

/-- A resolver is built with a host in place of the URL of the cache. -/
theorem ofConfig_checks_two_urls_relativeCache :
    ∃ r, ofConfig (cachedAt "cache.test") stocked = .ok r ∧ r.LacksCache := by
  obtain ⟨hbuilt, -, hlacks⟩ := ofConfig_checks_two_urls (cachedAt "cache.test") stocked
  obtain ⟨r, hr⟩ := hbuilt.2 ⟨by decide +kernel, by decide +kernel, by decide +kernel⟩
  exact ⟨r, hr, (hlacks r hr).2 (by decide +kernel)⟩

private theorem outcome_stocked :
    outcomeOf (cachedAt "cache.test") stocked ⟨.legacy, true⟩ "n@1"
        = .ok (.returned (.ok { stockedPackage with systems := ∅ }))
      ∧ outcomeOf (cachedAt "http://cache.test") stocked ⟨.legacy, true⟩ "n@1"
        = .ok (.returned (.ok stockedPackage)) := by
  constructor
  · decide +kernel
  · decide +kernel

/-- The host alone is no URL. A resolver that is configured with it leaves out the store path that
it finds with the scheme in front, and the resolution does not fail. -/
theorem storePath_lost_relativeCache :
    Http.baseUrl "cache.test"
      = .error (.config "invalid URL \"cache.test\": relative URL without a base")
      ∧ ∃ r s package path, ofConfig (cachedAt "cache.test") stocked = .ok r
        ∧ ofConfig (cachedAt "http://cache.test") stocked = .ok s
        ∧ ((r.resolve ⟨.legacy, true⟩ "n@1").course false).outcome
          = .returned (.ok { package with systems := ∅ })
        ∧ ((s.resolve ⟨.legacy, true⟩ "n@1").course false).outcome = .returned (.ok package)
        ∧ package.systems.get? "x86_64-linux" = some path := by
  obtain ⟨r, hr, hlost⟩ := exists_of_outcomeOf outcome_stocked.1
  obtain ⟨s, hs, hfound⟩ := exists_of_outcomeOf outcome_stocked.2
  exact ⟨by decide +kernel, r, s, stockedPackage, _, hr, hs, hlost, hfound, rfl⟩

end Resolver

end Pinning
