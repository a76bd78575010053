import Mathlib.Data.List.Basic
import Pinning.Proofs.Store.Lookup
import Pinning.Proofs.Store.Path
/-!
Looking up a hash with a name and without one. Both ask the cache the same; the name is held against
the path that the hash alone would lead to, and there is one name that this path has.
-/

set_option autoImplicit false
set_option relaxedAutoImplicit false

namespace Pinning.Store

open Activity (unlessCancelled_bind_pure bind_pure_bind outcome_bind_pure)
open Http (Exchange Network Response)

variable {client : Http.Client} {network : Network} {hash path : String}

def held (hash : String) (wanted : Option String) : Except Error String → Except Error String
  | .error cause => .error cause
  | .ok path => (verify path hash wanted).map fun _ => path

theorem pathOfResponse_eq_held (hash : String) (wanted : Option String) (r : Response) :
    pathOfResponse hash wanted r = held hash wanted (pathOfResponse hash none r) := by
  rw [pathOfResponse, pathOfResponse]
  split
  · rfl
  split
  · rfl
  cases r.text? with
  | none => rfl
  | some document =>
    simp only
    cases Narinfo.storePath? document with
    | none => rfl
    | some path =>
      simp only
      cases hnone : verify (String.ofList path) hash none with
      | error cause => simp only [held, verify_eq_error_of_none hnone wanted]
      | ok accepted =>
        simp only [held]
        cases verify (String.ofList path) hash wanted <;> rfl

theorem fetch_eq_held (client : Http.Client) (hash : String) (wanted : Option String)
    (cacheUrl : String) :
    fetch client hash wanted cacheUrl
      = fetch client hash none cacheUrl >>= fun answer => pure (held hash wanted answer) := by
  rw [fetch, fetch]
  cases narinfoUrl cacheUrl hash with
  | error problem => rfl
  | ok url =>
    simp only
    rw [Http.Client.get]
    cases client.request Http.anything url with
    | error problem => rfl
    | ok request =>
      show Exchange.send request _ = Exchange.send request _
      congr 1
      funext reply
      cases reply with
      | broken => rfl
      | response r => exact congrArg Exchange.done (pathOfResponse_eq_held hash wanted r)

theorem lookup_eq_held (client : Http.Client) (network : Network) (hash : String)
    (wanted : Option String) (cacheUrl : String) :
    lookup client network hash wanted cacheUrl
      = lookup client network hash none cacheUrl
        >>= fun answer => pure (held hash wanted answer) := by
  rw [lookup, fetch_eq_held, Exchange.over_bind]
  show Activity.unlessCancelled (_ >>= fun answer => pure (held hash wanted answer)) >>= _ = _
  rw [unlessCancelled_bind_pure, bind_pure_bind, lookup, bind_pure_bind]
  congr 1
  funext answer
  cases answer <;> rfl

/-- Looking up a hash with a name refines looking it up without one. Where the hash alone leads to
an error, so does every name, and to the same one; where it leads to a path, exactly one name leads
to this path, and every other name to the complaint that the path is not one of the hash and the
name. -/
theorem lookup_refines (client : Http.Client) (network : Network) (hash cacheUrl : String)
    (cancelled : Bool) :
    (∀ cause, ((lookup client network hash none cacheUrl).course cancelled).outcome
      = .returned (.error cause) →
        ∀ name, ((lookup client network hash (some name) cacheUrl).course cancelled).outcome
          = .returned (.error cause))
      ∧ ∀ path, ((lookup client network hash none cacheUrl).course cancelled).outcome
        = .returned (.ok path) →
        ∃ name, ∀ other,
          ((lookup client network hash (some other) cacheUrl).course cancelled).outcome
          = .returned (if other = name then .ok path else .error (.invalidPath path hash)) := by
  have hheld : ∀ answer,
      ((lookup client network hash none cacheUrl).course cancelled).outcome = .returned answer →
      ∀ name, ((lookup client network hash (some name) cacheUrl).course cancelled).outcome
        = .returned (held hash (some name) answer) := by
    intro answer hanswer name
    rw [lookup_eq_held]
    exact outcome_bind_pure hanswer _
  constructor
  · intro cause hcause name
    exact hheld _ hcause name
  · intro path hpath
    obtain ⟨-, haccepted⟩ := verify_of_lookup hpath
    obtain ⟨name, hname⟩ := exists_verify_some haccepted
    refine ⟨name, ?_⟩
    intro other
    rw [hheld _ hpath other, held, hname other]
    split <;> rfl

def hyphenated : List Char :=
  "StorePath: /nix/store/0c4ivwz36f5ya9k8bvb7m1d2f0pq9pdh-x86_64-hello-2.12".toList

def describing : Network := fun _ =>
  .replied (.response { status := 200, body := { bytes := Text.utf8Bytes hyphenated } })

private theorem outcome_described :
    ((lookup {} describing "0c4ivwz36f5ya9k8bvb7m1d2f0pq9pdh" none
        "http://cache.test").course false).outcome
        = .returned (.ok "/nix/store/0c4ivwz36f5ya9k8bvb7m1d2f0pq9pdh-x86_64-hello-2.12")
      ∧ ((lookup {} describing "0c4ivwz36f5ya9k8bvb7m1d2f0pq9pdh" (some "hello-2.12")
          "http://cache.test").course false).outcome
        = .returned
          (.error (.invalidPath "/nix/store/0c4ivwz36f5ya9k8bvb7m1d2f0pq9pdh-x86_64-hello-2.12"
            "0c4ivwz36f5ya9k8bvb7m1d2f0pq9pdh"))
      ∧ ((lookup {} Http.breaking "x" none "http://cache.test").course false).outcome
        = .returned
          (.error (.transport "error sending request for url (http://cache.test/x.narinfo)")) := by
  decide +kernel

/-- Of a path whose name holds hyphens, what stands behind a later hyphen is not the name. -/
theorem lookup_refines_hyphens :
    (∃ name, name ≠ "hello-2.12"
      ∧ ((lookup {} describing "0c4ivwz36f5ya9k8bvb7m1d2f0pq9pdh" (some name)
          "http://cache.test").course false).outcome
        = .returned (.ok "/nix/store/0c4ivwz36f5ya9k8bvb7m1d2f0pq9pdh-x86_64-hello-2.12"))
      ∧ ((lookup {} Http.breaking "x" (some "hello") "http://cache.test").course false).outcome
        = .returned
          (.error (.transport "error sending request for url (http://cache.test/x.narinfo)")) := by
  obtain ⟨hpath, hother, hbroken⟩ := outcome_described
  obtain ⟨name, hname⟩ :=
    (lookup_refines {} describing "0c4ivwz36f5ya9k8bvb7m1d2f0pq9pdh" "http://cache.test" false).2
      _ hpath
  refine ⟨⟨name, ?_, ?_⟩,
    (lookup_refines {} Http.breaking "x" "http://cache.test" false).1 _ hbroken "hello"⟩
  · rintro rfl
    have hsame := (hname "hello-2.12").symm.trans hother
    simp at hsame
  · rw [hname name, if_pos rfl]

end Pinning.Store
