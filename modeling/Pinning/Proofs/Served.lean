import Pinning.Proofs.Cancellation
import Pinning.Services
/-!
Activities that do nothing but send requests over a network, as the services behind clients do. They
keep a token, heed a cancellation and do not panic. On a network that never has the caller cancel
they do not cancel, and on one that replies to every request they return.
-/

set_option autoImplicit false
set_option relaxedAutoImplicit false

namespace Pinning

open Http (Exchange Network)

namespace Http.Network

/-- The caller never cancels while a request is held back. -/
def NeverCancels (network : Network) : Prop := ∀ request, network request ≠ .withheld true

/-- Every request is replied to, if only by a connection that breaks. -/
def Replies (network : Network) : Prop := ∀ request, ∃ reply, network request = .replied reply

theorem Replies.neverCancels {network : Network} (h : network.Replies) : network.NeverCancels := by
  intro request hheld
  obtain ⟨reply, hreply⟩ := h request
  cases hreply.symm.trans hheld

end Http.Network

namespace Activity

variable {network : Network} {α : Type}

/-- All that is done is to exchange messages over the network. -/
inductive Served (network : Network) : {α : Type} → Activity α → Prop
  | pure {α : Type} (value : α) : Served network (Pure.pure value : Activity α)
  | note {event : Event} (hevent : ∀ request, event ≠ .request request) :
      Served network (note event)
  | exchange {α : Type} (x : Exchange α) : Served network (x.over network)
  | unlessCancelled {α : Type} {x : Activity α} (hx : Served network x) :
      Served network (unlessCancelled x)
  | bind {α β : Type} {x : Activity α} {f : α → Activity β} (hx : Served network x)
      (hf : ∀ value, Served network (f value)) : Served network (x >>= f)

theorem Served.keepsToken {x : Activity α} (h : x.Served network) : x.KeepsToken := by
  induction h with
  | pure value => exact keepsToken_pure value
  | note _ => rfl
  | exchange x => exact keepsToken_over network x
  | unlessCancelled _ _ => exact keepsToken_unlessCancelled _
  | bind _ _ ihx ihf => exact ihx.bind ihf

theorem Served.heeds {x : Activity α} (h : x.Served network) : x.Heeds network := by
  induction h with
  | pure value => exact heeds_pure network value
  | note hevent => exact heeds_note hevent
  | exchange x => exact heeds_over network x
  | unlessCancelled _ ih => exact heeds_unlessCancelled ih
  | bind _ hf ihx ihf => exact ihx.bind fun value => ⟨(hf value).keepsToken, ihf value⟩

theorem Served.calm {x : Activity α} (h : x.Served network) : x.Calm := by
  induction h with
  | pure _ | note _ =>
    intro _ hpanic
    cases hpanic
  | exchange x => exact calm_over network x
  | unlessCancelled _ ih => exact ih.unlessCancelled
  | bind _ _ ihx ihf => exact ihx.bind ihf

theorem quiet_over (hnetwork : network.NeverCancels) (x : Exchange α) : (x.over network).Quiet := by
  induction x with
  | done result => rfl
  | send request next ih =>
    rw [Quiet, Exchange.course_over_send]
    split
    · next reply _ => exact ih reply
    · next cancels hheld =>
      exact Bool.eq_false_iff.2 fun htrue => hnetwork request (hheld.trans (congrArg _ htrue))

theorem Served.quiet {x : Activity α} (h : x.Served network) (hnetwork : network.NeverCancels) :
    x.Quiet := by
  induction h with
  | pure _ | note _ => rfl
  | exchange x => exact quiet_over hnetwork x
  | unlessCancelled _ ih => exact ih.unlessCancelled
  | bind _ _ ihx ihf => exact ihx.bind ihf

theorem Served.steady {x : Activity α} (h : x.Served network) (hnetwork : network.NeverCancels) :
    x.Steady :=
  ⟨h.quiet hnetwork, h.calm false⟩

theorem exists_returns_over (hnetwork : network.Replies) (x : Exchange α) :
    ∃ value, (x.over network).Returns value := by
  induction x with
  | done result => exact ⟨result, returns_pure result⟩
  | send request next ih =>
    obtain ⟨reply, hreply⟩ := hnetwork request
    obtain ⟨value, hvalue⟩ := ih reply
    have hcourse := Exchange.course_over_send_of_replied hreply next false
    exact ⟨value, by rw [hcourse]; exact hvalue.token, by rw [hcourse]; exact hvalue.outcome⟩

theorem Served.exists_returns {x : Activity α} (h : x.Served network) (hnetwork : network.Replies) :
    ∃ value, x.Returns value := by
  induction h with
  | pure value => exact ⟨value, returns_pure value⟩
  | @note event _ => exact ⟨(), returns_note event⟩
  | exchange x => exact exists_returns_over hnetwork x
  | unlessCancelled _ ih =>
    obtain ⟨value, hvalue⟩ := ih
    exact ⟨some value, hvalue.unlessCancelled⟩
  | bind _ _ ihx ihf =>
    obtain ⟨value, hvalue⟩ := ihx
    obtain ⟨result, hresult⟩ := ihf value
    exact ⟨result, hvalue.bind hresult⟩

end Activity

section Clients

variable (network : Network)

theorem Search.Client.served_single (client : Search.Client) (name version : String) :
    (client.single network name version).Served network := by
  rw [single]
  split
  · exact .pure _
  · exact .exchange _

theorem Search.Client.served_versioned (client : Search.Client) (name version : String) :
    (client.versioned network name version).Served network := by
  rw [versioned]
  split
  · exact .pure _
  · exact .bind (.unlessCancelled (.exchange _)) fun _ => .pure _

theorem RunX.Client.served_pin (client : RunX.Client) (written : String) :
    (client.pin network written).Served network := by
  rw [pin]
  split
  · exact .pure _
  · exact .bind (.unlessCancelled (.exchange _)) fun _ => .pure _

theorem Store.served_lookup (client : Http.Client) (hash : String) (wanted : Option String)
    (cacheUrl : String) :
    (Store.lookup client network hash wanted cacheUrl).Served network :=
  .bind (.unlessCancelled (.exchange _)) fun _ => .pure _

end Clients

end Pinning
