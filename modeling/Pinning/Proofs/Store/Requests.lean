import Pinning.Proofs.Exchange
import Pinning.Proofs.Http.Request
import Pinning.Proofs.Store.Path
import Pinning.Store.Client
/-!
What is asked of a binary cache. The document of a hash is joined to the URL of the cache as it is
written, so the request stays with the cache exactly if the name of the document is a single segment
of a path. The hash of a store path always is; what a search service calls a hash need not be.
-/

set_option autoImplicit false
set_option relaxedAutoImplicit false

namespace Pinning.Store

open Http (Exchange Network Request)
open Url (IsPath isAltered)

variable {client : Http.Client} {network : Network} {hash cacheUrl : String}
  {wanted : Option String}

theorem sends_fetch (client : Http.Client) (hash : String) (wanted : Option String)
    (cacheUrl : String) :
    (fetch client hash wanted cacheUrl).Sends fun request =>
      ∃ url, narinfoUrl cacheUrl hash = .ok url
        ∧ client.request Http.anything url = .ok request := by
  rw [fetch]
  split
  · exact .done _
  · next url hurl =>
    refine (Exchange.Sends.get fun request hrequest => ⟨url, hurl, hrequest⟩).bind fun answer => ?_
    cases answer <;> exact .done _

theorem narinfoUrl_eq_ok {base url : Url} (hbase : Http.baseUrl cacheUrl = .ok base)
    (h : narinfoUrl cacheUrl hash = .ok url) : Url.join base (hash ++ ".narinfo") = .ok url := by
  simp only [narinfoUrl, hbase] at h
  split at h
  · cases h
  · next found hfound =>
    rw [hfound, Except.ok.inj h]

theorem isPath_of_isHash (h : isHash hash.toList = true) :
    IsPath (hash ++ ".narinfo").toList ∧ '/' ∉ hash.toList := by
  obtain ⟨hlength, hdigits⟩ := (isHash_iff hash).1 h
  have hsafe : ∀ c ∈ base32Digits ++ ".narinfo".toList,
      c ∉ ['\t', '\n', '\r', '?', '#', '\\', '/', ':', '%'] ∧ Url.Reader.isEdge c = false :=
    List.all_iff_forall_prop.1 (by decide)
  have hcharacters : ∀ c ∈ (hash ++ ".narinfo").toList,
      c ∉ ['\t', '\n', '\r', '?', '#', '\\', '/', ':', '%'] ∧ Url.Reader.isEdge c = false := by
    intro c hc
    rw [String.toList_append, List.mem_append] at hc
    refine hsafe c (List.mem_append.2 ?_)
    exact hc.imp_left (hdigits c)
  have habsent : ∀ c ∈ ['\t', '\n', '\r', '?', '#', '\\', '/', ':', '%'],
      c ∉ (hash ++ ".narinfo").toList :=
    fun c hmem hc => (hcharacters c hc).1 hmem
  obtain ⟨first, rest, hfirst⟩ : ∃ first rest, hash.toList = first :: rest := by
    refine List.exists_cons_of_length_pos ?_
    rw [String.length_toList, hlength]
    decide
  have hdot : Url.Reader.dot? (hash ++ ".narinfo").toList = none := by
    have hnoDot : ∀ c ∈ base32Digits, c ≠ '.' ∧ c ≠ '%' := List.all_iff_forall_prop.1 (by decide)
    obtain ⟨hdot, hpercent⟩ := hnoDot first (hdigits first (by simp [hfirst]))
    rw [String.toList_append, hfirst, List.cons_append, Url.dot?_cons_eq_none hdot hpercent]
  have hkept : isAltered (hash ++ ".narinfo").toList = false := by
    simp only [isAltered, Url.Reader.isSingleDot, Url.Reader.isDoubleDot, hdot,
      Url.hasEscape_eq_false (habsent '%' (by simp))]
    decide
  constructor
  · refine { characters := ?_, segments := ?_, begins := ?_, ends := ?_, schemeless := ?_ }
    · intro c hc hmem
      refine (hcharacters c hc).1 ?_
      exact List.mem_append_left ['/', ':', '%'] hmem
    · rw [Text.fields_eq_singleton (habsent '/' (by simp))]
      simpa using hkept
    · intro c hc
      have hsafe := hcharacters c (List.mem_of_mem_head? hc)
      refine ⟨?_, hsafe.2⟩
      rintro rfl
      simp at hsafe
    · intro c hc
      exact (hcharacters c (List.mem_of_mem_getLast? hc)).2
    · exact Url.scheme?_eq_none (habsent ':' (by simp))
  · have hslash := habsent '/' (by simp)
    simpa using hslash

/-- A lookup asks the cache for the document of the hash, and nothing else, exactly if the name of
the document is a path of one segment. -/
theorem standsIn_iff_of_lookup {base : Url} {cancelled : Bool} {request : Request}
    (hbase : Http.baseUrl cacheUrl = .ok base)
    (hscheme : base.scheme = "http" ∨ base.scheme = "https")
    (hsent : .request request
      ∈ ((lookup client network hash wanted cacheUrl).course cancelled).events) :
    request.url.StandsIn base (hash ++ ".narinfo")
      ↔ IsPath (hash ++ ".narinfo").toList ∧ '/' ∉ hash.toList := by
  have hnetwork : Url.isNetworkScheme base.scheme = true := by
    obtain heq | heq := hscheme <;> rw [heq] <;> decide
  obtain ⟨done, hdone⟩ := Url.path_of_baseUrl hbase hnetwork
  have hne : hash ++ ".narinfo" ≠ "" := by simp
  have hslash : '/' ∉ (hash ++ ".narinfo").toList ↔ '/' ∉ hash.toList := by simp
  obtain hsent | ⟨answer, -, hnone⟩ := Activity.mem_events_bind hsent
  · obtain ⟨-, hsent⟩ := Activity.mem_events_unlessCancelled hsent
    obtain ⟨url, hurl, hrequest⟩ := (sends_fetch client hash wanted cacheUrl).of_over hsent
    rw [Http.standsIn_of_request hrequest, ← hslash]
    exact Url.standsIn_iff_of_join hnetwork hdone hne (narinfoUrl_eq_ok hbase hurl)
  · cases hnone

def entryRequest (host : String) (names : List String) : Request where
  url := .atHost host names
  accept := Http.anything
  userAgent := none
  authorization := none

private theorem events_lookup :
    ∀ run ∈ [("0123456789abcdfghijklmnpqrsvwxyz", "cache.test",
        ["nix", "0123456789abcdfghijklmnpqrsvwxyz.narinfo"]),
          ("http://elsewhere.test/x", "elsewhere.test", ["x.narinfo"])],
      ((lookup {} Http.breaking run.1 none "http://cache.test/nix").course false).events
        = [.request (entryRequest run.2.1 run.2.2)] := by
  decide +kernel

private theorem baseUrl_cache :
    Http.baseUrl "http://cache.test/nix" = .ok (.atHost "cache.test" ["nix", ""]) :=
  Url.baseUrl_of_parse (u := .atHost "cache.test" ["nix"]) (by decide +kernel)

/-- The document of a hash with every digit is asked of the cache. -/
theorem standsIn_iff_of_lookup_digits :
    ∃ base request, Http.baseUrl "http://cache.test/nix" = .ok base ∧ base.scheme = "http"
      ∧ .request request ∈ ((lookup {} Http.breaking "0123456789abcdfghijklmnpqrsvwxyz" none
          "http://cache.test/nix").course false).events
      ∧ request.url.StandsIn base "0123456789abcdfghijklmnpqrsvwxyz.narinfo" := by
  have hsent : Event.request
      (entryRequest "cache.test" ["nix", "0123456789abcdfghijklmnpqrsvwxyz.narinfo"])
      ∈ ((lookup {} Http.breaking "0123456789abcdfghijklmnpqrsvwxyz" none
          "http://cache.test/nix").course false).events := by
    rw [events_lookup ("0123456789abcdfghijklmnpqrsvwxyz", _) List.mem_cons_self]
    exact List.mem_singleton_self _
  have hhash : isHash "0123456789abcdfghijklmnpqrsvwxyz".toList = true := by decide
  exact ⟨_, _, baseUrl_cache, rfl, hsent,
    (standsIn_iff_of_lookup baseUrl_cache (.inl rfl) hsent).2 (isPath_of_isHash hhash)⟩

/-- What a search service calls a hash can name any host, which is then asked in place of the cache.
-/
theorem lookup_elsewhere :
    ∃ base request, Http.baseUrl "http://cache.test/nix" = .ok base
      ∧ .request request ∈ ((lookup {} Http.breaking "http://elsewhere.test/x" none
          "http://cache.test/nix").course false).events
      ∧ request.url.site = ("http", some (.domain "elsewhere.test", none))
      ∧ ¬ request.url.StandsIn base ("http://elsewhere.test/x" ++ ".narinfo") := by
  refine ⟨_, entryRequest "elsewhere.test" ["x.narinfo"], baseUrl_cache, ?_, rfl, ?_⟩
  · rw [events_lookup ("http://elsewhere.test/x", _) (List.mem_cons_of_mem _ List.mem_cons_self)]
    exact List.mem_singleton_self _
  · intro hstands
    exact absurd hstands.site (by decide)

end Pinning.Store
