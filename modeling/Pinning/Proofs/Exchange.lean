import Pinning.Proofs.Activity
/-!
What an exchange can come to, whatever the replies are. A network chooses the replies and may hold
one back, so what it makes of an exchange is always among these results.
-/

set_option autoImplicit false
set_option relaxedAutoImplicit false

namespace Pinning.Http

def breaking : Network := fun _ => .replied .broken

theorem Response.isMissing_iff (response : Response) :
    response.isMissing = true ↔ response.status = 404 := by
  simp [isMissing]

theorem Response.isSuccess_iff (response : Response) :
    response.isSuccess = true ↔ 200 ≤ response.status ∧ response.status < 300 := by
  simp [isSuccess]

end Pinning.Http

namespace Pinning.Http.Exchange

variable {α β : Type}

theorem course_over_send (network : Network) (request : Request) (next : Reply → Exchange α)
    (cancelled : Bool) :
    ((Exchange.send request next).over network).course cancelled
      = match network request with
        | .replied reply =>
          { ((next reply).over network).course cancelled with
            events := .request request :: (((next reply).over network).course cancelled).events }
        | .withheld cancels => ⟨[.request request], cancelled || cancels, .unanswered⟩ := by
  change Exchange.over network (.send request next) cancelled = _
  simp only [Exchange.over]
  cases network request <;> rfl

theorem course_over_send_of_replied {network : Network} {request : Request} {reply : Reply}
    (h : network request = .replied reply) (next : Reply → Exchange α) (cancelled : Bool) :
    ((Exchange.send request next).over network).course cancelled
      = { ((next reply).over network).course cancelled with
          events := .request request
            :: (((next reply).over network).course cancelled).events } := by
  rw [course_over_send, h]

theorem course_over_send_of_withheld {network : Network} {request : Request} {cancels : Bool}
    (h : network request = .withheld cancels) (next : Reply → Exchange α) (cancelled : Bool) :
    ((Exchange.send request next).over network).course cancelled
      = ⟨[.request request], cancelled || cancels, .unanswered⟩ := by
  rw [course_over_send, h]

/-- Every result that an exchange can come to has a property. -/
inductive Yields (P : α → Prop) : Exchange α → Prop
  | done {result : α} (h : P result) : Yields P (.done result)
  | send {request : Request} {next : Reply → Exchange α} (h : ∀ reply, Yields P (next reply)) :
      Yields P (.send request next)

theorem Yields.bind {P : α → Prop} {Q : β → Prop} {x : Exchange α} {f : α → Exchange β}
    (hx : Yields P x) (hf : ∀ value, P value → Yields Q (f value)) : Yields Q (x >>= f) := by
  induction hx with
  | done h => exact hf _ h
  | send _ ih => exact .send ih

theorem Yields.of_over {P : α → Prop} {x : Exchange α} (hx : Yields P x) {network : Network}
    {cancelled : Bool} {result : α}
    (hresult : ((x.over network).course cancelled).outcome = .returned result) : P result := by
  induction hx with
  | done h =>
    obtain rfl := Outcome.returned.inj hresult
    exact h
  | @send request next _ ih =>
    rw [course_over_send] at hresult
    split at hresult
    · next reply _ => exact ih reply hresult
    · cases hresult

/-- Every request that an exchange can send has a property. -/
inductive Sends (P : Request → Prop) : Exchange α → Prop
  | done (result : α) : Sends P (.done result)
  | send {request : Request} {next : Reply → Exchange α} (h : P request)
      (hnext : ∀ reply, Sends P (next reply)) : Sends P (.send request next)

theorem Sends.bind {P : Request → Prop} {x : Exchange α} {f : α → Exchange β} (hx : Sends P x)
    (hf : ∀ value, Sends P (f value)) : Sends P (x >>= f) := by
  induction hx with
  | done result => exact hf result
  | send h _ ih => exact .send h ih

theorem Sends.of_over {P : Request → Prop} {x : Exchange α} (hx : Sends P x) {network : Network}
    {cancelled : Bool} {request : Request}
    (hsent : .request request ∈ ((x.over network).course cancelled).events) : P request := by
  induction hx with
  | done result => cases hsent
  | @send first next h _ ih =>
    rw [course_over_send] at hsent
    split at hsent
    · next reply _ =>
      rcases List.mem_cons.1 hsent with heq | hrest
      · obtain rfl := Event.request.inj heq
        exact h
      · exact ih reply hrest
    · obtain rfl := Event.request.inj (List.mem_singleton.1 hsent)
      exact h

theorem Sends.get {P : Request → Prop} {client : Client} {accept : String} {url : Url}
    (h : ∀ request, client.request accept url = .ok request → P request) :
    Sends P (client.get accept url) := by
  rw [Client.get]
  split
  · exact .done _
  · next request hrequest =>
    refine .send (h request hrequest) fun reply => ?_
    cases reply <;> exact .done _

def first? : Exchange α → Option Request
  | .done _ => none
  | .send request _ => some request

theorem head?_events_over (network : Network) (x : Exchange α) (cancelled : Bool) :
    ((x.over network).course cancelled).events.head? = x.first?.map .request := by
  cases x with
  | done result => rfl
  | send request next =>
    rw [course_over_send]
    split <;> rfl

theorem over_bind (network : Network) (x : Exchange α) (f : α → Exchange β) :
    (x >>= f).over network = x.over network >>= fun result => (f result).over network := by
  funext cancelled
  change (x.bind f).over network cancelled
    = Activity.bind (x.over network) (fun result => (f result).over network) cancelled
  induction x with
  | done result => rfl
  | send request next ih =>
    simp only [Exchange.bind, Exchange.over, Activity.bind]
    cases network request with
    | withheld cancels => rfl
    | replied reply =>
      simp only [ih reply, Activity.bind]
      cases ((next reply).over network cancelled).outcome <;> rfl

theorem outcome_get_eq_ok {client : Client} {network : Network} {accept : String} {url : Url}
    {cancelled : Bool} {response : Response} :
    (((client.get accept url).over network).course cancelled).outcome = .returned (.ok response)
      ↔ ∃ request, client.request accept url = .ok request
          ∧ network request = .replied (.response response) := by
  rw [Client.get]
  cases hrequest : client.request accept url with
  | error problem =>
    constructor
    · intro h
      cases Outcome.returned.inj h
    · rintro ⟨request, hother, -⟩
      cases hother
  | ok request =>
    simp only [Except.ok.injEq, exists_eq_left']
    rw [course_over_send]
    cases network request with
    | withheld cancels => simp
    | replied reply =>
      cases reply with
      | broken => simp [Exchange.over]
      | response found => simp [Exchange.over]

end Pinning.Http.Exchange
