import Pinning.Proofs.Exchange
import Pinning.RunX.Client
/-!
Which release a reference is pinned to. Of the releases that it may mean the first one counts that
the release service knows; the tag is the one that the service gives, whatever that is.
-/

set_option autoImplicit false
set_option relaxedAutoImplicit false

namespace Pinning.RunX.Client

open Activity (outcome_bind_eq_returned outcome_unlessCancelled_eq_some outcome_unlessCancelled_map)
open Http (Network)

variable {client : Client} {network : Network} {r : Reference}

/-- The network replies to the request for a release with its tag, or with none if there is no such
release. -/
def Finds (client : Client) (network : Network) (r : Reference) (release tag : Option String) :
    Prop :=
  ∃ url request response, client.releaseUrl r release = .ok url
    ∧ client.http.request "application/vnd.github+json" url = .ok request
    ∧ network request = .replied (.response response) ∧ tagOfResponse response = .ok tag

theorem Finds.unique {release first second : Option String}
    (hfirst : client.Finds network r release first)
    (hsecond : client.Finds network r release second) : first = second := by
  obtain ⟨url, request, response, hurl, hrequest, hreply, htag⟩ := hfirst
  obtain ⟨url', request', response', hurl', hrequest', hreply', htag'⟩ := hsecond
  obtain rfl := Except.ok.inj (hurl.symm.trans hurl')
  obtain rfl := Except.ok.inj (hrequest.symm.trans hrequest')
  obtain rfl : response = response' := by simpa [hreply] using hreply'
  exact Except.ok.inj (htag.symm.trans htag')

/-- The first of some releases that there is has this tag. -/
inductive FirstTag (client : Client) (network : Network) (r : Reference) :
    List (Option String) → String → Prop
  | found {release : Option String} {more : List (Option String)} {tag : String}
      (hfound : client.Finds network r release (some tag)) :
      FirstTag client network r (release :: more) tag
  | missing {release : Option String} {more : List (Option String)} {tag : String}
      (hmissing : client.Finds network r release none)
      (hmore : FirstTag client network r more tag) :
      FirstTag client network r (release :: more) tag

theorem FirstTag.unique {releases : List (Option String)} {first second : String}
    (hfirst : client.FirstTag network r releases first)
    (hsecond : client.FirstTag network r releases second) : first = second := by
  induction hfirst with
  | found hfound =>
    cases hsecond with
    | found hother => exact Option.some.inj (hfound.unique hother)
    | missing hmissing _ => cases hfound.unique hmissing
  | missing hmissing _ ih =>
    cases hsecond with
    | found hfound => cases hmissing.unique hfound
    | missing _ hmore => exact ih hmore

private theorem outcome_fetch_eq_ok {release tag : Option String} {url : Url}
    (hurl : client.releaseUrl r release = .ok url) {cancelled : Bool} :
    (((client.fetch url).over network).course cancelled).outcome = .returned (.ok tag)
      ↔ client.Finds network r release tag := by
  rw [fetch, Http.Exchange.over_bind, outcome_bind_eq_returned]
  constructor
  · rintro ⟨answer, hanswer, htag⟩
    cases answer with
    | error problem => cases Outcome.returned.inj htag
    | ok response =>
      obtain ⟨request, hrequest, hreply⟩ := Http.Exchange.outcome_get_eq_ok.1 hanswer
      exact ⟨url, request, response, hurl, hrequest, hreply, Outcome.returned.inj htag⟩
  · rintro ⟨url', request, response, hurl', hrequest, hreply, htag⟩
    obtain rfl := Except.ok.inj (hurl.symm.trans hurl')
    refine ⟨.ok response, Http.Exchange.outcome_get_eq_ok.2 ⟨request, hrequest, hreply⟩, ?_⟩
    exact congrArg Outcome.returned htag

section

-- Unfolding stops at the URL of a release; joining it would be computed step by step.
attribute [local irreducible] releaseUrl fetch

theorem pinAmong_cons (client : Client) (r : Reference) (release : Option String)
    (more : List (Option String)) :
    client.pinAmong r (release :: more) =
      match client.releaseUrl r release with
      | .error cause => pure (.error cause)
      | .ok url => client.fetch url >>= fun
        | .error cause => pure (.error cause)
        | .ok (some found) => pure (.ok (r.withVersion found))
        | .ok none => client.pinAmong r more := rfl

end

theorem outcome_pinAmong_eq_ok {releases : List (Option String)} {cancelled : Bool}
    {pinned : Reference} :
    (((client.pinAmong r releases).over network).course cancelled).outcome = .returned (.ok pinned)
      ↔ ∃ tag, client.FirstTag network r releases tag ∧ pinned = r.withVersion tag := by
  -- Each release takes one step of `FirstTag`; the token may have changed before the next one.
  induction releases generalizing cancelled with
  | nil =>
    constructor
    · intro h
      cases Outcome.returned.inj h
    · rintro ⟨tag, hfirst, -⟩
      cases hfirst
  | cons release more ih =>
    rw [pinAmong_cons]
    cases hurl : client.releaseUrl r release with
    | error cause =>
      constructor
      · intro h
        cases Outcome.returned.inj h
      · rintro ⟨tag, ⟨url, _, _, hother, -⟩ | ⟨⟨url, _, _, hother, -⟩, -⟩, -⟩
        all_goals cases hurl.symm.trans hother
    | ok url =>
      simp only [Http.Exchange.over_bind, outcome_bind_eq_returned]
      constructor
      · rintro ⟨answer, hanswer, hrest⟩
        cases answer with
        | error cause => cases Outcome.returned.inj hrest
        | ok answered =>
          have hfinds := (outcome_fetch_eq_ok hurl).1 hanswer
          cases answered with
          | some tag =>
            obtain rfl := Except.ok.inj (Outcome.returned.inj hrest)
            exact ⟨tag, .found hfinds, rfl⟩
          | none =>
            obtain ⟨tag, hmore, rfl⟩ := ih.1 hrest
            exact ⟨tag, .missing hfinds hmore, rfl⟩
      · rintro ⟨tag, hfirst, rfl⟩
        cases hfirst with
        | found hfound => exact ⟨.ok (some tag), (outcome_fetch_eq_ok hurl).2 hfound, rfl⟩
        | missing hmissing hmore =>
          exact ⟨.ok none, (outcome_fetch_eq_ok hurl).2 hmissing, ih.2 ⟨tag, hmore, rfl⟩⟩

/-- A written reference is pinned to the tag of the first release that it may mean and that there
is, unless the caller cancels. -/
theorem outcome_pin_eq_ok {written : String} {cancelled : Bool} {pinned : Reference} :
    ((client.pin network written).course cancelled).outcome = .returned (.ok pinned)
      ↔ cancelled = false ∧ ∃ r, Reference.parse? written = some r
          ∧ ∃ tag, client.FirstTag network r (candidates r) tag ∧ pinned = r.withVersion tag := by
  cases hparse : Reference.parse? written with
  | none =>
    rw [pin_of_none hparse]
    constructor
    · intro h
      cases Outcome.returned.inj h
    · rintro ⟨-, r, hother, -⟩
      cases hother
  | some r =>
    rw [pin_of_some hparse]
    simp only [Option.some.injEq, exists_eq_left']
    constructor
    · intro h
      rcases outcome_unlessCancelled_map h with ⟨answer, hcancelled, hamong, rfl⟩ | ⟨hgiven, -⟩
      · exact ⟨hcancelled, outcome_pinAmong_eq_ok.1 hamong⟩
      · cases hgiven
    · rintro ⟨hcancelled, hfirst⟩
      refine outcome_bind_eq_returned.2 ⟨some (.ok pinned), ?_, rfl⟩
      exact outcome_unlessCancelled_eq_some.2 ⟨hcancelled, outcome_pinAmong_eq_ok.2 hfirst⟩

/-- The release service pins a written reference to a release with this tag. -/
def PinsTo (client : Client) (network : Network) (written tag : String) : Prop :=
  ∃ r, Reference.parse? written = some r ∧ client.FirstTag network r (candidates r) tag

theorem PinsTo.unique {written first second : String} (hfirst : client.PinsTo network written first)
    (hsecond : client.PinsTo network written second) : first = second := by
  obtain ⟨r, hr, hfirst⟩ := hfirst
  obtain ⟨other, hother, hsecond⟩ := hsecond
  obtain rfl := Option.some.inj (hr.symm.trans hother)
  exact hfirst.unique hsecond

section Unpinned

/-- The release service answers for every release that a written reference may mean that there is
none. -/
def Lacks (client : Client) (network : Network) (written : String) : Prop :=
  ∃ r, Reference.parse? written = some r
    ∧ ∀ release ∈ candidates r, client.Finds network r release none

inductive Unpinned (client : Client) (network : Network) (written : String) : Error → Prop
  | malformed (hparse : Reference.parse? written = none) :
      Unpinned client network written (.invalidReference written)
  | lacking {r : Reference} (hparse : Reference.parse? written = some r)
      (hnone : ∀ release ∈ candidates r, client.Finds network r release none) :
      Unpinned client network written (.releaseNotFound r.owner r.repo r.version)
  | status {code : Nat} (hparse : (Reference.parse? written).isSome) :
      Unpinned client network written (.status code)
  | transport {problem : String} (hparse : (Reference.parse? written).isSome) :
      Unpinned client network written (.transport problem)

private theorem fetch_eq_error {url : Url} {cancelled : Bool} {cause : Error}
    (h : (((client.fetch url).over network).course cancelled).outcome = .returned (.error cause)) :
    (∃ code, cause = .status code) ∨ ∃ problem, cause = .transport problem := by
  rw [fetch, Http.Exchange.over_bind, outcome_bind_eq_returned] at h
  obtain ⟨answer, -, hrest⟩ := h
  cases answer with
  | error problem => exact .inr ⟨problem, (Except.error.inj (Outcome.returned.inj hrest)).symm⟩
  | ok response =>
    have htag : tagOfResponse response = .error cause := Outcome.returned.inj hrest
    rw [tagOfResponse] at htag
    split at htag
    · cases htag
    · split at htag
      · exact .inl ⟨_, (Except.error.inj htag).symm⟩
      · split at htag
        · cases htag
        · exact .inr ⟨_, (Except.error.inj htag).symm⟩

private theorem pinAmong_eq_error {releases : List (Option String)} {cancelled : Bool}
    {cause : Error}
    (h : (((client.pinAmong r releases).over network).course cancelled).outcome
      = .returned (.error cause)) :
    (cause = .releaseNotFound r.owner r.repo r.version
        ∧ ∀ release ∈ releases, client.Finds network r release none)
      ∨ (∃ code, cause = .status code) ∨ ∃ problem, cause = .transport problem := by
  induction releases generalizing cancelled with
  | nil =>
    refine .inl ⟨(Except.error.inj (Outcome.returned.inj h)).symm, ?_⟩
    simp
  | cons release more ih =>
    rw [pinAmong_cons] at h
    cases hurl : client.releaseUrl r release with
    | error problem =>
      rw [hurl] at h
      obtain rfl := Except.error.inj (Outcome.returned.inj h)
      rw [releaseUrl] at hurl
      split at hurl
      · exact .inr (.inr ⟨_, (Except.error.inj hurl).symm⟩)
      · cases hurl
    | ok url =>
      simp only [hurl, Http.Exchange.over_bind, outcome_bind_eq_returned] at h
      obtain ⟨answer, hanswer, hrest⟩ := h
      cases answer with
      | error problem =>
        obtain rfl := Except.error.inj (Outcome.returned.inj hrest)
        exact .inr (fetch_eq_error hanswer)
      | ok answered =>
        have hfinds := (outcome_fetch_eq_ok hurl).1 hanswer
        cases answered with
        | some tag => cases Outcome.returned.inj hrest
        | none =>
          rcases ih hrest with ⟨hcause, hmore⟩ | hproblem
          · exact .inl ⟨hcause, List.forall_mem_cons.2 ⟨hfinds, hmore⟩⟩
          · exact .inr hproblem

theorem outcome_pin_eq_error {written : String} {cancelled : Bool} {cause : Error}
    (h : ((client.pin network written).course cancelled).outcome = .returned (.error cause)) :
    (cause = .cancelled ∧ ((client.pin network written).course cancelled).cancelled = true)
      ∨ cause ≠ .cancelled ∧ client.Unpinned network written cause := by
  cases hparse : Reference.parse? written with
  | none =>
    rw [pin_of_none hparse] at h
    obtain rfl := Except.error.inj (Outcome.returned.inj h)
    exact .inr ⟨by simp, .malformed hparse⟩
  | some r =>
    rw [pin_of_some hparse] at h ⊢
    rcases outcome_unlessCancelled_map h with ⟨found, -, hfound, rfl⟩ | ⟨hgiven, htoken⟩
    · have hsome : (Reference.parse? written).isSome := by simp [hparse]
      rcases pinAmong_eq_error hfound with ⟨rfl, hnone⟩ | ⟨code, rfl⟩ | ⟨problem, rfl⟩
      · exact .inr ⟨by simp, .lacking hparse hnone⟩
      · exact .inr ⟨by simp, .status hsome⟩
      · exact .inr ⟨by simp, .transport hsome⟩
    · exact .inl ⟨Except.error.inj hgiven, htoken⟩

end Unpinned

end Pinning.RunX.Client
