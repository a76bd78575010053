import Pinning.Proofs.Exchange
import Pinning.Search.Client
/-!
What the search service answers. The response to the one request decides: 404 says that there is no
such package, and a success gives the record if it can be read. Everything else is a problem of the
service.
-/

set_option autoImplicit false
set_option relaxedAutoImplicit false

namespace Pinning.Search

open Http (Exchange Network Response)

section Response

variable {α : Type} {read : Json → Option α} {url : Url} {response : Response} {record : α}

theorem recordOfResponse_eq_ok_iff :
    recordOfResponse read url response = .ok record
      ↔ (200 ≤ response.status ∧ response.status < 300)
        ∧ response.json?.bind read = some record := by
  rw [← Response.isSuccess_iff, recordOfResponse]
  cases hsuccess : response.isSuccess with
  | false => split <;> simp
  | true =>
    have hfound : response.isMissing ≠ true := by
      rw [ne_eq, Response.isMissing_iff]
      have hrange := (Response.isSuccess_iff response).1 hsuccess
      omega
    rw [if_neg hfound]
    cases response.json?.bind read with
    | none => simp
    | some found => simp

theorem recordOfResponse_eq_notFound_iff :
    recordOfResponse read url response = .error .notFound ↔ response.status = 404 := by
  rw [← Response.isMissing_iff, recordOfResponse]
  split
  · next hmissing => simp [hmissing]
  · next hfound =>
    simp only [hfound]
    split
    · simp
    · split <;> simp

theorem recordOfResponse_ne_cancelled : recordOfResponse read url response ≠ .error .cancelled := by
  rw [recordOfResponse]
  split
  · simp
  · split
    · simp
    · split <;> simp

end Response

namespace Client

open Activity (outcome_bind_eq_returned outcome_unlessCancelled_map)

variable {α : Type} {read : Json → Option α} {client : Client} {network : Network}
  {protocol : Protocol} {name version : String} {cancelled : Bool}

/-- The service replies with this response when it is asked by a protocol. -/
def Replies (client : Client) (network : Network) (protocol : Protocol) (name version : String)
    (response : Response) : Prop :=
  ∃ url request, client.endpoint protocol name version = .ok url
    ∧ client.http.request Http.anything url = .ok request
    ∧ network request = .replied (.response response)

/-- The service answers that there is no such package. -/
def Misses (client : Client) (network : Network) (protocol : Protocol) (name version : String) :
    Prop :=
  ∃ response, client.Replies network protocol name version response ∧ response.status = 404

def Gives (client : Client) (network : Network) (name version : String) (record : LegacyRecord) :
    Prop :=
  ∃ response, client.Replies network .legacy name version response
    ∧ (200 ≤ response.status ∧ response.status < 300)
    ∧ response.json?.bind LegacyRecord.ofJson? = some record

theorem outcome_fetch_of_reply {url : Url} {request : Http.Request} {response : Response}
    (hrequest : client.http.request Http.anything url = .ok request)
    (hreply : network request = .replied (.response response)) :
    (((client.fetch read url).over network).course cancelled).outcome
      = .returned (recordOfResponse read url response) := by
  rw [fetch, Exchange.over_bind, outcome_bind_eq_returned]
  exact ⟨.ok response, Exchange.outcome_get_eq_ok.2 ⟨request, hrequest, hreply⟩, rfl⟩

theorem reply_or_transport {url : Url} {answered : Except Error α}
    (h : (((client.fetch read url).over network).course cancelled).outcome = .returned answered) :
    (∃ problem, answered = .error (.transport problem))
      ∨ ∃ request response, client.http.request Http.anything url = .ok request
        ∧ network request = .replied (.response response)
        ∧ answered = recordOfResponse read url response := by
  rw [fetch, Exchange.over_bind, outcome_bind_eq_returned] at h
  obtain ⟨answer, hanswer, hrest⟩ := h
  cases answer with
  | error problem => exact .inl ⟨problem, (Outcome.returned.inj hrest).symm⟩
  | ok response =>
    obtain ⟨request, hrequest, hreply⟩ := Exchange.outcome_get_eq_ok.1 hanswer
    exact .inr ⟨request, response, hrequest, hreply, (Outcome.returned.inj hrest).symm⟩

theorem outcome_single_eq_ok {record : LegacyRecord} :
    ((client.single network name version).course cancelled).outcome = .returned (.ok record)
      ↔ client.Gives network name version record := by
  rw [single]
  cases hurl : client.endpoint .legacy name version with
  | error cause =>
    constructor
    · intro h
      cases Outcome.returned.inj h
    · rintro ⟨_, ⟨url, _, hother, -⟩, -⟩
      cases hurl.symm.trans hother
  | ok url =>
    constructor
    · intro h
      rcases reply_or_transport h with
        ⟨problem, hproblem⟩ | ⟨request, response, hrequest, hreply, hrecord⟩
      · cases hproblem
      · obtain ⟨hsuccess, hread⟩ := recordOfResponse_eq_ok_iff.1 hrecord.symm
        exact ⟨response, ⟨url, request, hurl, hrequest, hreply⟩, hsuccess, hread⟩
    · rintro ⟨response, ⟨url', request, hother, hrequest, hreply⟩, hsuccess, hread⟩
      obtain rfl := Except.ok.inj (hurl.symm.trans hother)
      have hrecord : recordOfResponse LegacyRecord.ofJson? url response = .ok record :=
        recordOfResponse_eq_ok_iff.2 ⟨hsuccess, hread⟩
      exact (outcome_fetch_of_reply hrequest hreply).trans (congrArg Outcome.returned hrecord)

private theorem fetch_eq_notFound_iff {url : Url} {answered : Except Error α}
    (hurl : client.endpoint protocol name version = .ok url)
    (h : (((client.fetch read url).over network).course cancelled).outcome = .returned answered) :
    answered ≠ .error .cancelled
      ∧ (answered = .error .notFound ↔ client.Misses network protocol name version) := by
  have hmissed : client.Misses network protocol name version → answered = .error .notFound := by
    rintro ⟨response, ⟨url', request, hother, hrequest, hreply⟩, hstatus⟩
    obtain rfl := Except.ok.inj (hurl.symm.trans hother)
    rw [← Outcome.returned.inj ((outcome_fetch_of_reply hrequest hreply).symm.trans h)]
    exact recordOfResponse_eq_notFound_iff.2 hstatus
  rcases reply_or_transport h with ⟨problem, rfl⟩ | ⟨request, response, hrequest, hreply, rfl⟩
  · exact ⟨by simp, by simp, hmissed⟩
  · refine ⟨recordOfResponse_ne_cancelled, fun hnotFound => ?_, hmissed⟩
    exact ⟨response, ⟨url, request, hurl, hrequest, hreply⟩,
      recordOfResponse_eq_notFound_iff.1 hnotFound⟩

theorem endpoint_eq_error {cause : Error}
    (h : client.endpoint protocol name version = .error cause) :
    ∃ problem, cause = .transport problem := by
  rw [endpoint] at h
  split at h
  · next problem _ => exact ⟨problem.message, (Except.error.inj h).symm⟩
  · cases h

/-- The enriched protocol is given up with a token that is cancelled by then, or it comes to "not
found" exactly if the service answers so. -/
theorem outcome_versioned {answered : Except Error EnrichedRecord}
    (h : ((client.versioned network name version).course cancelled).outcome = .returned answered) :
    (answered = .error .cancelled
        ∧ ((client.versioned network name version).course cancelled).cancelled = true)
      ∨ answered ≠ .error .cancelled
        ∧ (answered = .error .notFound ↔ client.Misses network .enriched name version) := by
  rw [versioned] at h ⊢
  cases hurl : client.endpoint .enriched name version with
  | error cause =>
    rw [hurl] at h
    obtain rfl := Outcome.returned.inj h
    obtain ⟨problem, rfl⟩ := endpoint_eq_error hurl
    refine .inr ⟨by simp, by simp, ?_⟩
    rintro ⟨_, ⟨url, _, hother, -⟩, -⟩
    cases hurl.symm.trans hother
  | ok url =>
    rw [hurl] at h
    rcases outcome_unlessCancelled_map h with ⟨found, -, hfound, rfl⟩ | ⟨hgiven, htoken⟩
    · exact .inr (fetch_eq_notFound_iff hurl hfound)
    · exact .inl ⟨hgiven, htoken⟩

end Client

end Pinning.Search
