import Pinning.Proofs.Url.Below
import Pinning.Http.Request
/-!
What a request keeps of the URL that it is made for. The user is taken out of the URL; whom it asks
and for what stays the same.
-/

set_option autoImplicit false
set_option relaxedAutoImplicit false

namespace Pinning.Http

variable {client : Client} {accept : String} {url base : Url} {request : Request}

theorem site_withoutUser (url : Url) : (withoutUser url).site = url.site := by
  simp only [withoutUser, Url.site, Option.map_map]
  rfl

theorem url_of_request (h : client.request accept url = .ok request) :
    (request.url = url ∨ request.url = withoutUser url) ∧ isSendable request.url = true := by
  rw [Client.request] at h
  cases huser : user? url with
  | none =>
    simp only [huser] at h
    split at h
    · next hsendable =>
      obtain rfl := Except.ok.inj h
      exact ⟨.inl rfl, hsendable⟩
    · cases h
  | some found =>
    simp only [huser] at h
    split at h
    · next hsendable =>
      obtain rfl := Except.ok.inj h
      exact ⟨.inr rfl, hsendable⟩
    · cases h

theorem request_eq_error {problem : String} (h : client.request accept url = .error problem) :
    ∃ target : Url, problem = "builder error for url (" ++ target.render ++ ")" := by
  rw [Client.request] at h
  cases huser : user? url with
  | none =>
    simp only [huser] at h
    split at h
    · cases h
    · exact ⟨_, (Except.error.inj h).symm⟩
  | some found =>
    simp only [huser] at h
    split at h
    · cases h
    · exact ⟨_, (Except.error.inj h).symm⟩

theorem standsBelow_of_request (h : client.request accept url = .ok request) (path : String) :
    request.url.StandsBelow base path ↔ url.StandsBelow base path := by
  obtain heq | heq := (url_of_request h).1
  · rw [heq]
  · rw [heq]
    constructor
    · rintro ⟨hsite, hpath, hquery, hfragment⟩
      exact ⟨(site_withoutUser url).symm.trans hsite, hpath, hquery, hfragment⟩
    · rintro ⟨hsite, hpath, hquery, hfragment⟩
      exact ⟨(site_withoutUser url).trans hsite, hpath, hquery, hfragment⟩

theorem standsIn_of_request (h : client.request accept url = .ok request) (name : String) :
    request.url.StandsIn base name ↔ url.StandsIn base name := by
  obtain heq | heq := (url_of_request h).1
  · rw [heq]
  · rw [heq]
    constructor
    · rintro ⟨hsite, hpath, hquery⟩
      exact ⟨(site_withoutUser url).symm.trans hsite, hpath, hquery⟩
    · rintro ⟨hsite, hpath, hquery⟩
      exact ⟨(site_withoutUser url).trans hsite, hpath, hquery⟩

theorem isNetworkScheme_of_request (h : client.request accept url = .ok request) :
    Url.isNetworkScheme url.scheme = true := by
  obtain ⟨hsame, hsendable⟩ := url_of_request h
  have hscheme : request.url.scheme = url.scheme := by
    obtain heq | heq := hsame <;> rw [heq]
    rfl
  simp only [isSendable, Bool.and_eq_true, Bool.or_eq_true, beq_iff_eq] at hsendable
  rw [← hscheme]
  obtain heq | heq := hsendable.1.1 <;> rw [heq] <;> decide

end Pinning.Http
