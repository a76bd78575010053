import Pinning.Proofs.Resolver.Results
import Pinning.Proofs.RunX.Requests
import Pinning.Proofs.Search.Endpoint
/-!
Which configured URLs a service can be asked at. A text that is no URL is refused while a resolver
is built. Every other text is accepted, also one that names a scheme and no slash behind it, such as
a host and a port: nothing can be joined to such a URL, and each question that it is needed for
fails.
-/

set_option autoImplicit false
set_option relaxedAutoImplicit false

namespace Pinning.Resolver

open Url.Reader (clean cut isEdge isSlash scheme?)

section Joining

variable {base : Url} {text : String}

/-- The text begins with a name and a slash: it is a reference without scheme and authority, and not
an empty one. -/
structure BeginsWithName (cs : List Char) : Prop where
  schemeless : scheme? (cut (clean cs)).main = none
  slashless : Url.startsWithSlash (cut (clean cs)).main = false
  begun : (cut (clean cs)).main ≠ []

private theorem beginsWithName_of_prefix (front : List Char) {cs : List Char}
    (h : front ++ ['/'] <+: cs) (hne : front ≠ [])
    (hname : ∀ c ∈ front, c ∉ ['/', '\\', ':', '#', '?'] ∧ isEdge c = false) :
    BeginsWithName cs := by
  have hedges : ∀ c ∈ front ++ ['/'], isEdge c = false := by
    intro c hc
    rcases List.mem_append.1 hc with hc | hc
    · exact (hname c hc).2
    · rw [List.mem_singleton.1 hc]
      decide
  have hmark : ∀ {c}, c ∈ ['/', '\\', ':', '#', '?'] → c ∉ front :=
    fun hc hmem => (hname _ hmem).1 hc
  have hmain := Url.prefix_cut (Url.prefix_clean h hedges) (by simp [hmark])
  refine ⟨Url.scheme?_eq_none_of_slash (hmark (by simp)) hmain, ?_, ?_⟩
  · obtain ⟨first, rest, rfl⟩ := List.exists_cons_of_ne_nil hne
    obtain ⟨behind, hbehind⟩ := hmain
    have hfirst := (hname first List.mem_cons_self).1
    simp only [List.mem_cons, not_or] at hfirst
    rw [← hbehind]
    simp [Url.startsWithSlash, isSlash, hfirst.1, hfirst.2.1]
  · intro hnil
    simp [hnil] at hmain

theorem beginsWithName_endpointPath (protocol : Protocol) :
    BeginsWithName (Search.endpointPath protocol).toList := by
  cases protocol with
  | legacy =>
    exact beginsWithName_of_prefix "v1".toList (by decide) (by decide)
      (List.all_iff_forall_prop.1 (by decide))
  | enriched =>
    exact beginsWithName_of_prefix "v2".toList (by decide) (by decide)
      (List.all_iff_forall_prop.1 (by decide))

theorem beginsWithName_releasePath (r : RunX.Reference) (tag : Option String) :
    BeginsWithName (RunX.releasePath r tag).toList :=
  beginsWithName_of_prefix _ (RunX.prefix_releasePath r tag) (by decide)
    (List.all_iff_forall_prop.1 (by decide))

theorem join_of_plain (h : BeginsWithName text.toList) {path : String}
    (hbase : base.path = .plain path) :
    Url.join base text = .error .relativeToPathOnly := by
  rw [Url.join, Url.Reader.ofChars]
  simp only [h.schemeless, hbase]
  rw [if_neg fun hempty => h.begun (List.isEmpty_iff.1 hempty.1)]

end Joining

section Usable

variable {base : Url} {done : List String} {written : String}

/-- What a URL is configured for: its path ends in a slash, the endpoints of the search service can
be joined to it and stand on the same site, behind its path, and every client of a service at this
URL can ask whatever it is told to. -/
structure IsUsable (base : Url) : Prop where
  ends : base.path.render.toList.getLast? = some '/'
  joins : ∀ protocol, ∃ url, Url.join base (Search.endpointPath protocol) = .ok url
    ∧ url.site = base.site
    ∧ url.path.render = base.path.render ++ Search.endpointPath protocol
  asks : ∀ client : Search.Client, client.base = base → ∀ protocol name version,
    ∃ url, client.endpoint protocol name version = .ok url
  pins : ∀ client : RunX.Client, client.base = base →
    ∀ r tag, ∃ url, client.releaseUrl r tag = .ok url

/-- No service can be asked at the URL, whatever for. -/
structure IsDeadEnd (base : Url) : Prop where
  joins : ∀ protocol, Url.join base (Search.endpointPath protocol) = .error .relativeToPathOnly
  asks : ∀ client : Search.Client, client.base = base → ∀ protocol name version,
    client.endpoint protocol name version = .error (.transport Url.Error.relativeToPathOnly.message)
  pins : ∀ client : RunX.Client, client.base = base → ∀ r tag,
    client.releaseUrl r tag = .error (.transport Url.Error.relativeToPathOnly.message)

theorem isUsable_of_isBase (h : base.IsBase done) : IsUsable base where
  ends := by
    rw [h.path, Url.render_append]
    simp [Url.Path.render]
  joins protocol := by
    refine ⟨_, Search.join_endpointPath h protocol, rfl, ?_⟩
    rw [h.path]
    exact Search.render_endpointSegments done protocol
  asks client hclient protocol name version := by
    subst hclient
    exact ⟨_, Search.Client.endpoint_eq h protocol name version⟩
  pins client hclient r tag := by
    subst hclient
    have hpath := beginsWithName_releasePath r tag
    obtain ⟨url, hurl⟩ := Url.exists_join_eq_ok h.path hpath.schemeless hpath.slashless
    exact ⟨url, by rw [RunX.Client.releaseUrl, hurl]⟩

theorem isDeadEnd_of_plain {path : String} (h : base.path = .plain path) : IsDeadEnd base where
  joins protocol := join_of_plain (beginsWithName_endpointPath protocol) h
  asks client hclient protocol name version := by
    subst hclient
    rw [Search.Client.endpoint, join_of_plain (beginsWithName_endpointPath protocol) h]
  pins client hclient r tag := by
    subst hclient
    rw [RunX.Client.releaseUrl, join_of_plain (beginsWithName_releasePath r tag) h]

theorem IsUsable.not_isDeadEnd (h : IsUsable base) : ¬ IsDeadEnd base := by
  intro hdead
  obtain ⟨url, hurl, -⟩ := h.joins .legacy
  rw [hdead.joins] at hurl
  cases hurl

/-- The text is no URL, and no resolver is configured with it. -/
structure IsRefused (written : String) : Prop where
  refused : ∃ problem, Http.baseUrl written = .error (.config problem)
  builds : ∀ config network http, Http.Client.withAgent config.http.userAgent = .ok http →
    config.search.url = written ∨ config.releases.apiUrl = written →
    ∃ problem, ofConfig config network = .error (.config problem)

theorem baseUrl_eq_error {cause : Error} (h : Http.baseUrl written = .error cause) :
    ∃ problem, cause = .config problem := by
  rw [Http.baseUrl] at h
  split at h
  · cases h
  · exact ⟨_, (Except.error.inj h).symm⟩

theorem isRefused_of_baseUrl {cause : Error} (h : Http.baseUrl written = .error cause) :
    IsRefused written where
  refused := by
    obtain ⟨problem, rfl⟩ := baseUrl_eq_error h
    exact ⟨problem, h⟩
  builds config network http hhttp hurl := by
    -- The search service comes first; if its URL is accepted, it is that of the release service
    -- that is refused.
    cases hsearch : Http.baseUrl config.search.url with
    | error other =>
      obtain ⟨problem, rfl⟩ := baseUrl_eq_error hsearch
      refine ⟨problem, ?_⟩
      simp only [ofConfig, Services.ofConfig, Search.Client.of, hhttp, hsearch, bind, Except.bind]
    | ok base =>
      obtain hurl | hurl := hurl
      · rw [hurl, h] at hsearch
        cases hsearch
      · obtain ⟨problem, rfl⟩ := baseUrl_eq_error h
        refine ⟨problem, ?_⟩
        simp only [ofConfig, Services.ofConfig, Search.Client.of, RunX.Client.of, hhttp, hsearch,
          hurl, h, bind, Except.bind, pure, Except.pure]

/-- A configured text is refused when a resolver is built, or it is accepted. What is accepted is
usable, unless it names a scheme without rules of its own and no slash behind it; no service can be
asked at such a URL. -/
theorem isRefused_or_isUsable_iff (written : String) :
    IsRefused written ∨ ∃ base, Http.baseUrl written = .ok base
      ∧ (IsUsable base ↔ Url.isOpaque written.toList = false)
      ∧ (IsDeadEnd base ↔ Url.isOpaque written.toList = true) := by
  cases hparse : Url.parse written with
  | error cause =>
    have hbase : Http.baseUrl written = .error (.config
        ("invalid URL " ++ Text.quoted written ++ ": " ++ cause.message)) := by
      rw [Http.baseUrl, hparse]
    exact .inl (isRefused_of_baseUrl hbase)
  | ok parsed =>
    have hread := Url.isReadFrom_of_ofChars written.toList parsed hparse
    refine .inr ⟨parsed.withFinalSlash, by rw [Http.baseUrl, hparse], ?_⟩
    cases hform : Url.isOpaque written.toList with
    | false =>
      obtain ⟨rest, hpath⟩ := hread.segments hform
      obtain ⟨done, hdone⟩ := Url.exists_isBase hread hpath
      have husable := isUsable_of_isBase hdone
      simpa [husable] using husable.not_isDeadEnd
    | true =>
      obtain ⟨text, hpath⟩ := hread.plain hform
      obtain ⟨final, hfinal⟩ : ∃ final, parsed.withFinalSlash.path = .plain final := by
        rw [Url.withFinalSlash, hpath]
        split
        · exact ⟨text, hpath⟩
        · exact ⟨_, rfl⟩
      have hdead := isDeadEnd_of_plain hfinal
      simpa [hdead] using fun husable => husable.not_isDeadEnd hdead

/-- A URL without authority whose path is plain text. -/
private def plainUrl (scheme path : String) : Url where
  scheme := scheme
  authority := none
  path := .plain path
  query := none
  fragment := none

/-- A host and a port without a scheme are accepted, and neither endpoint can be joined to them. The
path of a scheme alone does not even end in a slash. -/
theorem baseUrl_of_hostOnly :
    Http.baseUrl "localhost:8080" = .ok (plainUrl "localhost" "8080/")
      ∧ Url.join (plainUrl "localhost" "8080/") "v1/resolve" = .error .relativeToPathOnly
      ∧ Url.join (plainUrl "localhost" "8080/") "v2/resolve" = .error .relativeToPathOnly
      ∧ Http.baseUrl "x:" = .ok (plainUrl "x" "%2F") := by
  refine ⟨Url.baseUrl_of_parse (u := plainUrl "localhost" "8080") (by decide +kernel), ?_, ?_, ?_⟩
  · exact join_of_plain (beginsWithName_endpointPath .legacy) rfl
  · exact join_of_plain (beginsWithName_endpointPath .enriched) rfl
  · exact Url.baseUrl_of_parse (u := plainUrl "x" "") (by decide +kernel)

end Usable

end Pinning.Resolver
