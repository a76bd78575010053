import Pinning.Proofs.Exchange
import Pinning.Proofs.Http.Request
import Pinning.Proofs.RunX.Reference
import Pinning.Proofs.RunX.Release
import Pinning.RunX.Client
/-!
What is asked of a release service. Owner, repository and tag are written into the path of a release
as they are, so the request is for that release exactly if each of them stands for itself in a path.
-/

set_option autoImplicit false
set_option relaxedAutoImplicit false

namespace Pinning.RunX

open Activity (mem_events_bind mem_events_unlessCancelled)
open Http (Exchange Network Request)
open Url (IsPath IsPlain)

variable {client : Client} {network : Network} {r : Reference} {tag : Option String}

/-- Owner, repository and tag stand for themselves in the path of a release. -/
structure Reference.StandsForItself (r : Reference) (tag : Option String) : Prop where
  owner : IsPlain r.owner.toList
  repo : IsPlain r.repo.toList
  version : ∀ t ∈ tag, IsPlain t.toList
  ends : ∀ t ∈ tag, ∀ c ∈ t.toList.getLast?, Url.Reader.isEdge c = false

section Path

private def releaseName (tag : Option String) : List Char :=
  tag.elim "latest".toList fun t => "tags".toList ++ '/' :: t.toList

private theorem toList_releasePath (r : Reference) (tag : Option String) :
    (releasePath r tag).toList = "repos".toList ++ '/' :: (r.owner.toList ++ '/' :: (r.repo.toList
      ++ '/' :: ("releases".toList ++ '/' :: releaseName tag))) := by
  cases tag <;> simp [releasePath, releaseName]

theorem prefix_releasePath (r : Reference) (tag : Option String) :
    "repos".toList ++ ['/'] <+: (releasePath r tag).toList := by
  rw [toList_releasePath]
  exact ⟨_, (List.append_cons _ _ _).symm⟩

private theorem isPlain_releaseName_iff :
    IsPlain (releaseName tag) ↔ ∀ t ∈ tag, IsPlain t.toList := by
  have hlatest : IsPlain "latest".toList := by decide
  have htags : IsPlain "tags".toList := by decide
  cases tag with
  | none => simpa [releaseName] using hlatest
  | some t =>
    rw [releaseName, Option.elim_some, Url.isPlain_append_iff]
    simp only [htags, true_and, Option.mem_some_iff, forall_eq']

private theorem getLast?_releasePath_iff :
    (∀ c ∈ (releasePath r tag).toList.getLast?, Url.Reader.isEdge c = false)
      ↔ ∀ t ∈ tag, ∀ c ∈ t.toList.getLast?, Url.Reader.isEdge c = false := by
  cases tag with
  | none =>
    have hlast : (releasePath r none).toList.getLast? = some 't' := by
      simp [toList_releasePath, releaseName, List.getLast?_append, List.getLast?_cons]
    rw [hlast]
    simp only [Option.mem_some_iff, forall_eq', Option.not_mem_none, false_implies, implies_true,
      iff_true]
    decide
  | some t =>
    have hlast : (releasePath r (some t)).toList.getLast? = some (t.toList.getLast?.getD '/') := by
      simp [toList_releasePath, releaseName, List.getLast?_append, List.getLast?_cons]
    rw [hlast]
    simp only [Option.mem_some_iff, forall_eq']
    cases t.toList.getLast? with
    | none => simpa using (by decide : Url.Reader.isEdge '/' = false)
    | some c => simp

theorem isPath_releasePath_iff : IsPath (releasePath r tag).toList ↔ r.StandsForItself tag := by
  have hrepos : IsPlain "repos".toList := by decide
  have hreleases : IsPlain "releases".toList := by decide
  have hplain : IsPlain (releasePath r tag).toList
      ↔ IsPlain r.owner.toList ∧ IsPlain r.repo.toList ∧ ∀ t ∈ tag, IsPlain t.toList := by
    simp only [toList_releasePath, Url.isPlain_append_iff, isPlain_releaseName_iff, hrepos,
      hreleases, true_and]
  constructor
  · intro h
    obtain ⟨howner, hrepo, hversion⟩ := hplain.1 h.toIsPlain
    exact ⟨howner, hrepo, hversion, getLast?_releasePath_iff.1 h.ends⟩
  · rintro ⟨howner, hrepo, hversion, hends⟩
    refine { toIsPlain := hplain.2 ⟨howner, hrepo, hversion⟩, begins := ?_,
             ends := getLast?_releasePath_iff.2 hends,
             schemeless := Url.scheme?_eq_none_of_slash (by decide) (prefix_releasePath r tag) }
    intro c hc
    obtain rfl : 'r' = c := by simpa [toList_releasePath] using hc
    decide

private theorem append_slash_inj {before before' behind behind' : List Char} (h : '/' ∉ before)
    (h' : '/' ∉ before') :
    before ++ '/' :: behind = before' ++ '/' :: behind' ↔ before = before' ∧ behind = behind' := by
  constructor
  · intro heq
    have hcut : Text.cutFirst? '/' (before ++ '/' :: behind) = some (before, behind) :=
      Text.cutFirst?_eq_some_iff.2 ⟨rfl, h⟩
    rw [heq, Text.cutFirst?_eq_some_iff.2 ⟨rfl, h'⟩] at hcut
    obtain ⟨hbefore, hbehind⟩ := Prod.mk.inj (Option.some.inj hcut)
    exact ⟨hbefore.symm, hbehind.symm⟩
  · rintro ⟨rfl, rfl⟩
    rfl

theorem releasePath_inj {other : Reference} {otherTag : Option String} (hr : r.IsReadable)
    (hother : other.IsReadable) (h : releasePath r tag = releasePath other otherTag) :
    r.owner = other.owner ∧ r.repo = other.repo ∧ tag = otherTag := by
  have hrepos : '/' ∉ "repos".toList := by decide
  have hreleases : '/' ∉ "releases".toList := by decide
  have hlist := congrArg String.toList h
  rw [toList_releasePath, toList_releasePath, append_slash_inj hrepos hrepos,
    append_slash_inj hr.owner.2 hother.owner.2, append_slash_inj hr.repo.2 hother.repo.2,
    append_slash_inj hreleases hreleases] at hlist
  obtain ⟨-, howner, hrepo, -, hname⟩ := hlist
  refine ⟨String.toList_inj.1 howner, String.toList_inj.1 hrepo, ?_⟩
  cases tag <;> cases otherTag <;> simp [releaseName, String.toList_inj] at hname ⊢
  exact hname

end Path

/-- The request is the one that the client makes for a release. -/
def Client.Asks (client : Client) (r : Reference) (tag : Option String) (request : Request) :
    Prop :=
  ∃ url, client.releaseUrl r tag = .ok url
    ∧ client.http.request "application/vnd.github+json" url = .ok request

namespace Client

theorem join_of_releaseUrl {url : Url} (h : client.releaseUrl r tag = .ok url) :
    Url.join client.base (releasePath r tag) = .ok url := by
  unfold releaseUrl at h
  split at h
  · cases h
  · next found hfound => rw [hfound, Except.ok.inj h]

/-- A request is for the release below the service, and for nothing else, exactly if the parts of
the reference stand for themselves. -/
theorem Asks.standsBelow_iff {api : String} {request : Request}
    (hbase : Http.baseUrl api = .ok client.base) (h : client.Asks r tag request) :
    request.url.StandsBelow client.base (releasePath r tag) ↔ r.StandsForItself tag := by
  obtain ⟨url, hurl, hrequest⟩ := h
  have hjoin := join_of_releaseUrl hurl
  have hedges : ∀ c ∈ "repos".toList ++ ['/'], Url.Reader.isEdge c = false :=
    List.all_iff_forall_prop.1 (by decide)
  have hfront := Url.prefix_cut (Url.prefix_clean (prefix_releasePath r tag) hedges) (by decide)
  have hscheme : url.scheme = client.base.scheme :=
    Url.scheme_of_join (Url.scheme?_eq_none_of_slash (by decide) hfront) url hjoin
  have hnetwork := Http.isNetworkScheme_of_request hrequest
  rw [hscheme] at hnetwork
  obtain ⟨done, hdone⟩ := Url.path_of_baseUrl hbase hnetwork
  have hne : releasePath r tag ≠ "" := by
    rw [ne_eq, ← String.toList_inj, toList_releasePath]
    simp
  rw [Http.standsBelow_of_request hrequest, Url.standsBelow_iff_of_join hnetwork hdone hne hjoin]
  exact isPath_releasePath_iff

theorem sends_pinAmong {P : Request → Prop} {releases : List (Option String)}
    (h : ∀ tag ∈ releases, ∀ request, client.Asks r tag request → P request) :
    (client.pinAmong r releases).Sends P := by
  induction releases with
  | nil => exact .done _
  | cons tag more ih =>
    have hmore := ih fun other hother => h other (List.mem_cons_of_mem tag hother)
    rw [pinAmong_cons]
    cases hurl : client.releaseUrl r tag with
    | error cause => exact .done _
    | ok url =>
      have hfetch : (client.fetch url).Sends P := by
        rw [fetch]
        refine (Exchange.Sends.get fun request hrequest => ?_).bind fun answer => ?_
        · exact h tag List.mem_cons_self request ⟨url, hurl, hrequest⟩
        · cases answer <;> exact .done _
      refine hfetch.bind fun answer => ?_
      rcases answer with cause | _ | found
      · exact .done _
      · exact hmore
      · exact .done _

theorem asks_of_first? {request : Request} {more : List (Option String)}
    (h : (client.pinAmong r (tag :: more)).first? = some request) : client.Asks r tag request := by
  rw [pinAmong_cons] at h
  cases hurl : client.releaseUrl r tag with
  | error cause => simp [hurl, pure, Exchange.first?] at h
  | ok url =>
    simp only [hurl] at h
    refine ⟨url, hurl, ?_⟩
    rw [fetch, Http.Client.get] at h
    split at h
    · cases h
    · next sent hsent =>
      obtain rfl := Option.some.inj h
      exact hsent

theorem asks_of_pin {written : String} (hparse : Reference.parse? written = some r)
    {cancelled : Bool} {request : Request}
    (hsent : .request request ∈ ((client.pin network written).course cancelled).events) :
    ∃ tag ∈ candidates r, client.Asks r tag request := by
  rw [pin_of_some hparse] at hsent
  obtain hsent | ⟨answer, -, hnone⟩ := mem_events_bind hsent
  · obtain ⟨-, hsent⟩ := mem_events_unlessCancelled hsent
    have hsends : (client.pinAmong r (candidates r)).Sends fun request =>
        ∃ tag ∈ candidates r, client.Asks r tag request :=
      sends_pinAmong fun tag htag request hasks => ⟨tag, htag, hasks⟩
    exact hsends.of_over hsent
  · cases hnone

theorem asks_of_pin_head? {written : String} (hparse : Reference.parse? written = some r)
    {request : Request}
    (hfirst : ((client.pin network written).course false).events.head? = some (.request request)) :
    ∃ tag, (candidates r).head? = some tag ∧ client.Asks r tag request := by
  rw [pin_of_some hparse] at hfirst
  rw [Activity.events_bind_pure, Activity.events_unlessCancelled,
    Exchange.head?_events_over] at hfirst
  obtain ⟨sent, hsent, heq⟩ := Option.map_eq_some_iff.1 hfirst
  obtain rfl := Event.request.inj heq
  cases hcandidates : candidates r with
  | nil =>
    have hnil : (client.pinAmong r []).first? = none := rfl
    rw [hcandidates, hnil] at hsent
    cases hsent
  | cons tag more =>
    rw [hcandidates] at hsent
    exact ⟨tag, rfl, asks_of_first? hsent⟩

theorem version_eq_of_head?_candidates {other : Reference}
    (h : (candidates r).head? = (candidates other).head?) : r.version = other.version := by
  have hfirst : ∀ r : Reference, (candidates r).head?
      = some (if r.version = "latest" then none else some r.version) := by
    intro r
    simp only [candidates, Reference.asksForLatest, tagsToTry, beq_iff_eq]
    split
    · rfl
    · split <;> rfl
  rw [hfirst, hfirst] at h
  have h := Option.some.inj h
  split at h
  · next hlatest =>
    split at h
    · next hother => rw [hlatest, hother]
    · cases h
  · split at h
    · cases h
    · exact Option.some.inj h

/-- A reference causes requests for the releases that it may mean, and each of them is for the
release below the service and for nothing else exactly if the parts of the reference stand for
themselves. Two references of which this is true do not cause the same first request. -/
theorem standsBelow_iff_of_pin {api written : String} (hbase : Http.baseUrl api = .ok client.base)
    (hparse : Reference.parse? written = some r) :
    (∀ network cancelled request,
        .request request ∈ ((client.pin network written).course cancelled).events →
        ∃ tag ∈ candidates r, client.Asks r tag request)
      ∧ (∀ tag request, client.Asks r tag request →
        (request.url.StandsBelow client.base (releasePath r tag) ↔ r.StandsForItself tag))
      ∧ ∀ other parsed, Reference.parse? other = some parsed →
        (∀ tag ∈ (candidates r).head?, r.StandsForItself tag) →
        (∀ tag ∈ (candidates parsed).head?, parsed.StandsForItself tag) →
        ∀ network network' request,
          ((client.pin network written).course false).events.head? = some (.request request) →
          ((client.pin network' other).course false).events.head? = some (.request request) →
          written = other := by
  refine ⟨fun network cancelled request => asks_of_pin hparse,
    fun tag request hasks => hasks.standsBelow_iff hbase, ?_⟩
  intro other parsed hother hr hparsed network network' request hfirst hsecond
  obtain ⟨tag, htag, hasks⟩ := asks_of_pin_head? hparse hfirst
  obtain ⟨otherTag, hotherTag, hotherAsks⟩ := asks_of_pin_head? hother hsecond
  have hstands := (hasks.standsBelow_iff hbase).2 (hr tag htag)
  have hotherStands := (hotherAsks.standsBelow_iff hbase).2 (hparsed otherTag hotherTag)
  -- One request stands for one path, and the path names all parts of the reference.
  have hpath : releasePath r tag = releasePath parsed otherTag := by
    have hbytes := List.append_cancel_left (hstands.path.symm.trans hotherStands.path)
    exact String.toList_inj.1 (Text.utf8Bytes_inj.1 hbytes)
  obtain ⟨hwritten, hreadable⟩ := Reference.parse?_eq_some_iff.1 hparse
  obtain ⟨hwritten', hreadable'⟩ := Reference.parse?_eq_some_iff.1 hother
  obtain ⟨howner, hrepo, rfl⟩ := releasePath_inj hreadable hreadable' hpath
  have hversion := version_eq_of_head?_candidates (htag.trans hotherTag.symm)
  have hsame : r = parsed := by
    cases r
    cases parsed
    simp_all
  rw [hwritten, hwritten', hsame]

def unreachable : Client where
  http := {}
  base := .atHost "api.test" [""]

private theorem baseUrl_unreachable : Http.baseUrl "http://api.test" = .ok unreachable.base :=
  Url.baseUrl_of_parse (u := .atHost "api.test" [""]) (by decide +kernel)

def releaseRequest (names : List String) : Request where
  url := .atHost "api.test" ("repos" :: names)
  accept := "application/vnd.github+json"
  userAgent := none
  authorization := none

private theorem first_request :
    ∀ run ∈ [("runx:acme/tool@v1", ["acme", "tool", "releases", "tags", "v1"]),
        ("runx:acme/tool@latest", ["acme", "tool", "releases", "latest"]),
        ("runx:acme/tool@../latest", ["acme", "tool", "releases", "latest"])],
      ((unreachable.pin Http.breaking run.1).course false).events.head?
        = some (.request (releaseRequest run.2)) := by
  decide +kernel

/-- The reference with a plain tag asks for its release, and the one without a tag causes another
request. -/
theorem standsBelow_iff_of_pin_plainTag :
    ∃ r request, Http.baseUrl "http://api.test" = .ok unreachable.base
      ∧ Reference.parse? "runx:acme/tool@v1" = some r
      ∧ ((unreachable.pin Http.breaking "runx:acme/tool@v1").course false).events.head?
        = some (.request request)
      ∧ request.url.StandsBelow unreachable.base "repos/acme/tool/releases/tags/v1"
      ∧ ((unreachable.pin Http.breaking "runx:acme/tool@latest").course false).events.head?
        ≠ some (.request request) := by
  have hparse : Reference.parse? "runx:acme/tool@v1" = some ⟨"acme", "tool", "v1"⟩ := by decide
  have hother : Reference.parse? "runx:acme/tool@latest" = some ⟨"acme", "tool", "latest"⟩ := by
    decide
  have hfirst := first_request ("runx:acme/tool@v1", _) List.mem_cons_self
  obtain ⟨hasks, hstands, hdistinct⟩ := standsBelow_iff_of_pin baseUrl_unreachable hparse
  have htagged : Reference.StandsForItself ⟨"acme", "tool", "v1"⟩ (some "v1") := by
    refine ⟨by decide, by decide, ?_, ?_⟩
    · rintro _ ⟨⟩
      decide
    · rintro _ ⟨⟩ _ ⟨⟩
      decide
  have hlatest : Reference.StandsForItself ⟨"acme", "tool", "latest"⟩ none :=
    ⟨by decide, by decide, by simp, by simp⟩
  refine ⟨_, _, baseUrl_unreachable, hparse, hfirst, ?_, ?_⟩
  · obtain ⟨tag, htag, hasked⟩ := hasks Http.breaking false _ (List.mem_of_mem_head? hfirst)
    obtain rfl : some "v1" = tag := by
      have hcandidates : candidates ⟨"acme", "tool", "v1"⟩ = [some "v1"] := by decide
      simpa [hcandidates, eq_comm] using htag
    exact (hstands _ _ hasked).2 htagged
  · intro hsame
    have heq := hdistinct _ _ hother (by rintro _ ⟨⟩; exact htagged) (by rintro _ ⟨⟩; exact hlatest)
      Http.breaking Http.breaking _ hfirst hsame
    exact absurd heq (by decide)

/-- A tag that leads out of its place asks for another release, as the reference to that release
does. -/
theorem first_request_shared :
    ∃ r request, Http.baseUrl "http://api.test" = .ok unreachable.base
      ∧ Reference.parse? "runx:acme/tool@../latest" = some r
      ∧ ((unreachable.pin Http.breaking "runx:acme/tool@../latest").course false).events.head?
        = some (.request request)
      ∧ ¬ request.url.StandsBelow unreachable.base (releasePath r (some "../latest"))
      ∧ ((unreachable.pin Http.breaking "runx:acme/tool@latest").course false).events.head?
        = some (.request request)
      ∧ (Reference.parse? "runx:acme/tool@latest").isSome := by
  have hparse : Reference.parse? "runx:acme/tool@../latest"
      = some ⟨"acme", "tool", "../latest"⟩ := by decide
  have hfirst := first_request ("runx:acme/tool@../latest", ["acme", "tool", "releases", "latest"])
    (by simp)
  have hsecond := first_request ("runx:acme/tool@latest", ["acme", "tool", "releases", "latest"])
    (by simp)
  refine ⟨_, _, baseUrl_unreachable, hparse, hfirst, ?_, hsecond, by decide⟩
  intro hstands
  exact absurd hstands.path (by decide +kernel)

end Client

end Pinning.RunX
