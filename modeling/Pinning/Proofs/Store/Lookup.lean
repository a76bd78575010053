import Pinning.Proofs.Exchange
import Pinning.Store.Client
/-!
What a lookup in a binary cache can return. The cache and the network between may answer as they
like: a path is only believed if it is put together from the wanted hash and name.
-/

set_option autoImplicit false
set_option relaxedAutoImplicit false

namespace Pinning.Store

open Http (Exchange Network Response)

variable {hash path : String}

private theorem verify_of_pathOfResponse {wanted : Option String} {r : Response}
    (h : pathOfResponse hash wanted r = .ok path) : verify path hash wanted = .ok () := by
  rw [pathOfResponse] at h
  split at h
  · cases h
  split at h
  · cases h
  split at h
  · cases h
  split at h
  · cases h
  split at h
  · cases h
  · next hverify =>
    obtain rfl := Except.ok.inj h
    exact hverify

theorem fetch_yields (client : Http.Client) (hash : String) (wanted : Option String)
    (cacheUrl : String) :
    (fetch client hash wanted cacheUrl).Yields
      fun answer => ∀ path, answer = .ok path → verify path hash wanted = .ok () := by
  rw [fetch]
  split
  · exact .done fun path hpath => nomatch hpath
  · refine Exchange.Yields.bind (P := fun _ => True) ?_ fun answer _ => ?_
    · rw [Http.Client.get]
      split
      · exact .done trivial
      · refine .send fun reply => ?_
        cases reply with
        | response r => exact .done trivial
        | broken => exact .done trivial
    · cases answer with
      | error problem => exact .done fun path hpath => nomatch hpath
      | ok r => exact .done fun path hpath => verify_of_pathOfResponse hpath

/-- A lookup that returns a path was carried out with a token that was not cancelled, and the path
is accepted. -/
theorem verify_of_lookup {client : Http.Client} {network : Network} {wanted : Option String}
    {cacheUrl : String} {cancelled : Bool}
    (h : ((lookup client network hash wanted cacheUrl).course cancelled).outcome
      = .returned (.ok path)) : cancelled = false ∧ verify path hash wanted = .ok () := by
  rcases Activity.outcome_unlessCancelled_map h with
    ⟨found, hcancelled, hfetch, hpath⟩ | ⟨hgiven, -⟩
  · exact ⟨hcancelled, (fetch_yields client hash wanted cacheUrl).of_over hfetch path hpath.symm⟩
  · cases hgiven

theorem keepsToken_lookup (client : Http.Client) (network : Network) (hash : String)
    (wanted : Option String) (cacheUrl : String) :
    (lookup client network hash wanted cacheUrl).KeepsToken :=
  (Activity.keepsToken_unlessCancelled _).bind fun _ => Activity.keepsToken_pure _

end Pinning.Store
