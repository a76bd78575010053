import Mathlib.Data.List.Basic
import Pinning.Proofs.RunX.Release
import Pinning.Proofs.Url.Below
import Pinning.RunX.Client
/-!
In which order releases are asked for. Pinning goes on to the next release only if the one before is
missing, so it asks for the first few of the releases that a reference may mean, and the last one it
asks for decides.
-/

set_option autoImplicit false
set_option relaxedAutoImplicit false

namespace Pinning.RunX

open Http (Exchange Network Request Response)

variable {client : Client} {network : Network} {r : Reference} {release : Option String}

/-- What is heard of a release. -/
inductive Finding
  | absent
  | tagged (tag : String)
  | status (code : Nat)
  | transport (problem : String)
  | silence
  deriving DecidableEq

variable {finding : Finding}

namespace Finding

/-- What pinning a reference comes to if this is heard last. -/
def outcome (r : Reference) : Finding → Outcome (Except Error Reference)
  | absent => .returned (.error (.releaseNotFound r.owner r.repo r.version))
  | tagged tag => .returned (.ok (r.withVersion tag))
  | status code => .returned (.error (.status code))
  | transport problem => .returned (.error (.transport problem))
  | silence => .unanswered

def tag? : Finding → Option (Except Error (Option String))
  | absent => some (.ok none)
  | tagged tag => some (.ok (some tag))
  | status code => some (.error (.status code))
  | transport problem => some (.error (.transport problem))
  | silence => none

end Finding

inductive Says (response : Response) : Finding → Prop
  | absent (hstatus : response.status = 404) : Says response .absent
  | status (hstatus : response.status ≠ 404)
      (hrefused : ¬ (200 ≤ response.status ∧ response.status < 300)) :
      Says response (.status response.status)
  | unreadable (hgranted : 200 ≤ response.status ∧ response.status < 300)
      (hbody : response.json?.bind tagOfJson? = none) :
      Says response (.transport Http.unreadableBody)
  | tagged {tag : String} (hgranted : 200 ≤ response.status ∧ response.status < 300)
      (hbody : response.json?.bind tagOfJson? = some tag) : Says response (.tagged tag)

section Says

variable {response : Response}

theorem Says.tag?_eq (h : Says response finding) :
    finding.tag? = some (tagOfResponse response) := by
  have hmissing := response.isMissing_iff
  have hsuccess := response.isSuccess_iff
  cases h with
  | absent hstatus =>
    rw [tagOfResponse, if_pos (hmissing.2 hstatus)]
    rfl
  | status hstatus hrefused =>
    rw [tagOfResponse, if_neg (mt hmissing.1 hstatus),
      if_pos (by simpa using mt hsuccess.1 hrefused)]
    rfl
  | unreadable hgranted hbody =>
    have hfound : ¬ response.isMissing = true := by
      rw [hmissing]
      omega
    simp [tagOfResponse, hfound, hsuccess.2 hgranted, hbody, Finding.tag?]
  | tagged hgranted hbody =>
    have hfound : ¬ response.isMissing = true := by
      rw [hmissing]
      omega
    simp [tagOfResponse, hfound, hsuccess.2 hgranted, hbody, Finding.tag?]

end Says

namespace Client

/-- The request for a release, or the problem with its URL: the newest one, or the one with a tag.
-/
def requestFor (client : Client) (r : Reference) (release : Option String) :
    Except String Request :=
  let path := match release with
    | none => "repos/" ++ r.owner ++ "/" ++ r.repo ++ "/releases/latest"
    | some tag => "repos/" ++ r.owner ++ "/" ++ r.repo ++ "/releases/tags/" ++ tag
  match Url.join client.base path with
  | .error cause => .error cause.message
  | .ok url => client.http.request "application/vnd.github+json" url

/-- What is heard of a release over a network. -/
inductive Hears (client : Client) (network : Network) (r : Reference) (release : Option String) :
    Finding → Prop
  | unsendable {problem : String} (hrequest : client.requestFor r release = .error problem) :
      Hears client network r release (.transport problem)
  | broken {request : Request} (hrequest : client.requestFor r release = .ok request)
      (hreply : network request = .replied .broken) :
      Hears client network r release
        (.transport ("error sending request for url (" ++ request.url.render ++ ")"))
  | answered {request : Request} {response : Response} {finding : Finding}
      (hrequest : client.requestFor r release = .ok request)
      (hreply : network request = .replied (.response response)) (hsaid : Says response finding) :
      Hears client network r release finding
  | silence {request : Request} {cancels : Bool}
      (hrequest : client.requestFor r release = .ok request)
      (hreply : network request = .withheld cancels) : Hears client network r release .silence

theorem requestFor_eq (client : Client) (r : Reference) (release : Option String) :
    client.requestFor r release = match Url.join client.base (releasePath r release) with
      | .error cause => .error cause.message
      | .ok url => client.http.request "application/vnd.github+json" url := by
  cases release with
  | none => simp only [requestFor, releasePath, String.append_assoc]; rfl
  | some tag => simp only [requestFor, releasePath, String.append_assoc]; rfl

section

attribute [local irreducible] Url.join

theorem pinAmong_cons_eq (client : Client) (r : Reference) (release : Option String)
    (more : List (Option String)) :
    client.pinAmong r (release :: more) =
      match client.requestFor r release with
      | .error problem => .done (.error (.transport problem))
      | .ok request => .send request fun
        | .broken => .done (.error
          (.transport ("error sending request for url (" ++ request.url.render ++ ")")))
        | .response response =>
          match tagOfResponse response with
          | .error cause => .done (.error cause)
          | .ok (some tag) => .done (.ok (r.withVersion tag))
          | .ok none => client.pinAmong r more := by
  rw [pinAmong_cons, releaseUrl, requestFor_eq]
  cases Url.join client.base (releasePath r release) with
  | error cause => rfl
  | ok url =>
    simp only [fetch, Http.Client.get]
    cases client.http.request "application/vnd.github+json" url with
    | error problem => rfl
    | ok request =>
      refine congrArg (Exchange.send request) (funext fun reply => ?_)
      cases reply <;> rfl

end

def requestsFor (client : Client) (r : Reference) (releases : List (Option String)) :
    List Request :=
  releases.filterMap fun release => (client.requestFor r release).toOption

/-- Pinning asks for the first release once, and goes on with the others exactly if it hears that it
is missing. -/
theorem Hears.course_pinAmong (h : client.Hears network r release finding)
    (more : List (Option String)) (cancelled : Bool) :
    let course := ((client.pinAmong r (release :: more)).over network).course cancelled
    let rest := ((client.pinAmong r more).over network).course cancelled
    course.events = (client.requestsFor r [release]).map .request
        ++ (if finding = .absent then rest.events else [])
      ∧ course.outcome = if finding = .absent then rest.outcome else finding.outcome r := by
  intro course rest
  have hcourse : course = ((client.pinAmong r (release :: more)).over network).course cancelled :=
    rfl
  rw [pinAmong_cons_eq] at hcourse
  cases h with
  | unsendable hrequest =>
    simp only [hrequest] at hcourse
    rw [hcourse]
    simp [requestsFor, hrequest, Except.toOption, Exchange.over, Finding.outcome]
  | broken hrequest hreply =>
    simp only [hrequest, Exchange.course_over_send_of_replied hreply] at hcourse
    rw [hcourse]
    simp [requestsFor, hrequest, Except.toOption, Exchange.over, Finding.outcome]
  | silence hrequest hreply =>
    simp only [hrequest, Exchange.course_over_send_of_withheld hreply] at hcourse
    rw [hcourse]
    simp [requestsFor, hrequest, Except.toOption, Finding.outcome]
  | answered hrequest hreply hsaid =>
    have htag := hsaid.tag?_eq
    simp only [hrequest, Exchange.course_over_send_of_replied hreply] at hcourse
    rw [hcourse]
    cases finding with
    | absent =>
      have hmissing := (Option.some.inj htag).symm
      simp [requestsFor, hrequest, Except.toOption, hmissing, rest]
    | silence => cases htag
    | tagged tag | status code | transport problem =>
      have hlast := (Option.some.inj htag).symm
      simp [requestsFor, hrequest, Except.toOption, hlast, Exchange.over, Finding.outcome]

/-- A course that asks for releases in their order: for some that are missing, then for a last one,
and for no other. Unless that one is missing too, in which case it is the last of all, what is heard
of it is the result. -/
structure Follows (client : Client) (network : Network) (r : Reference)
    (releases misses : List (Option String)) (last : Option String) (finding : Finding)
    (course : Course (Except Error Reference)) : Prop where
  inOrder : misses ++ [last] <+: releases
  missing : ∀ release ∈ misses, client.Hears network r release .absent
  heard : client.Hears network r last finding
  exhausted : finding = .absent → misses ++ [last] = releases
  events : course.events = (client.requestsFor r (misses ++ [last])).map .request
  outcome : course.outcome = finding.outcome r

section Follows

variable {more misses : List (Option String)} {last : Option String} {cancelled : Bool}

theorem Follows.cons (hmissing : client.Hears network r release .absent)
    (h : client.Follows network r more misses last finding
      (((client.pinAmong r more).over network).course cancelled)) :
    client.Follows network r (release :: more) (release :: misses) last finding
      (((client.pinAmong r (release :: more)).over network).course cancelled) := by
  obtain ⟨hevents, houtcome⟩ := hmissing.course_pinAmong more cancelled
  rw [if_pos rfl] at hevents houtcome
  constructor
  · exact List.cons_prefix_cons.2 ⟨rfl, h.inOrder⟩
  · exact List.forall_mem_cons.2 ⟨hmissing, h.missing⟩
  · exact h.heard
  · intro habsent
    rw [List.cons_append, h.exhausted habsent]
  · rw [hevents, h.events, ← List.map_append, requestsFor, requestsFor, ← List.filterMap_append]
    rfl
  · rw [houtcome, h.outcome]

end Follows

def service : Client where
  http := {}
  base := .atHost "api.test" [""]

end Client

end Pinning.RunX
