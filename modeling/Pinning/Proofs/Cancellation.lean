import Pinning.Proofs.Exchange
/-!
Giving way to a cancellation. The caller may cancel before an activity starts, or while a request is
held back; either way the activity comes to one fixed value, and with a token that is cancelled it
sends nothing.
-/

set_option autoImplicit false
set_option relaxedAutoImplicit false

namespace Pinning.Activity

open Http (Network)

variable {α β : Type} {network : Network} {x : Activity α} {value : α}

/-- A token that is cancelled while a request of the activity is held back is cancelled in the end.
-/
def Heeds (network : Network) (x : Activity α) : Prop :=
  ∀ cancelled request, .request request ∈ (x.course cancelled).events →
    network request = .withheld true → (x.course cancelled).cancelled = true

/-- If the token is cancelled during the activity, it never comes to an end by itself. -/
def Waits (x : Activity α) : Prop :=
  (x.course false).cancelled = true → (x.course false).outcome = .unanswered

/-- The activity gives way to a cancellation and then comes to a value. -/
structure GivesWay (network : Network) (x : Activity α) (value : α) : Prop where
  token : x.KeepsToken
  heeds : x.Heeds network
  silent : ∀ request, .request request ∉ (x.course true).events
  ends : ∀ cancelled, (x.course cancelled).cancelled = true →
    (x.course cancelled).outcome = .returned value

theorem heeds_pure (network : Network) (value : α) : (pure value : Activity α).Heeds network := by
  intro cancelled request h
  cases h

theorem Heeds.bind {f : α → Activity β} (hx : x.Heeds network)
    (hf : ∀ value, (f value).KeepsToken ∧ (f value).Heeds network) : (x >>= f).Heeds network := by
  intro cancelled request hsent hheld
  have hfirst : .request request ∈ (x.course cancelled).events →
      ((x >>= f).course cancelled).cancelled = true := by
    intro hmem
    have htoken := hx cancelled request hmem hheld
    rw [course_bind]
    split
    · next value _ =>
      rw [htoken]
      exact (hf value).1
    · exact htoken
    · exact htoken
  rcases mem_events_bind hsent with hmem | ⟨value, hvalue, hmem⟩
  · exact hfirst hmem
  · rw [course_bind_of_returned hvalue]
    exact (hf value).2 _ request hmem hheld

theorem heeds_asTask (h : x.Heeds network) : x.asTask.Heeds network := h

theorem heeds_note {event : Event} (h : ∀ request, event ≠ .request request) :
    (note event).Heeds network := by
  intro cancelled request hsent
  exact absurd (List.mem_singleton.1 hsent).symm (h request)

theorem heeds_over (network : Network) (x : Http.Exchange α) : (x.over network).Heeds network := by
  induction x with
  | done result => exact heeds_pure network result
  | send first next ih =>
    intro cancelled request hsent hheld
    rw [Http.Exchange.course_over_send] at hsent ⊢
    split at hsent
    · next reply hreply =>
      rcases List.mem_cons.1 hsent with heq | hsent
      · obtain rfl := Event.request.inj heq
        cases hreply.symm.trans hheld
      · exact ih reply cancelled request hsent hheld
    · next cancels hwithheld =>
      obtain rfl := Event.request.inj (List.mem_singleton.1 hsent)
      obtain rfl : cancels = true := by simpa [hwithheld] using hheld
      exact Bool.or_true cancelled

theorem keepsToken_over (network : Network) (x : Http.Exchange α) :
    (x.over network).KeepsToken := by
  induction x with
  | done result => rfl
  | send first next ih =>
    rw [KeepsToken, Http.Exchange.course_over_send]
    split
    · next reply _ => exact ih reply
    · rfl

theorem waits_over (network : Network) (x : Http.Exchange α) : (x.over network).Waits := by
  induction x with
  | done result =>
    intro h
    cases h
  | send first next ih =>
    intro htoken
    rw [Http.Exchange.course_over_send] at htoken ⊢
    split at htoken
    · next reply _ => exact ih reply htoken
    · rfl

theorem Waits.returns (h : x.Waits) (hvalue : (x.course false).outcome = .returned value) :
    x.Returns value := by
  refine ⟨?_, hvalue⟩
  cases htoken : (x.course false).cancelled with
  | false => rfl
  | true =>
    have hunanswered := h htoken
    cases hvalue.symm.trans hunanswered

theorem Waits.note (h : x.Waits) (event : Event) : (Activity.note event >>= fun _ => x).Waits := by
  intro htoken
  exact h htoken

theorem heeds_unlessCancelled (h : x.Heeds network) : (unlessCancelled x).Heeds network := by
  intro cancelled request hsent hheld
  obtain ⟨rfl, hmem⟩ := mem_events_unlessCancelled hsent
  rw [cancelled_unlessCancelled]
  exact h false request hmem hheld

theorem givesWay_unlessCancelled (hheeds : x.Heeds network) (hwaits : x.Waits) :
    (unlessCancelled x).GivesWay network none where
  token := rfl
  heeds := heeds_unlessCancelled hheeds
  silent := by
    intro request hsent
    cases (mem_events_unlessCancelled hsent).1
  ends := by
    intro cancelled htoken
    cases cancelled with
    | true => rfl
    | false =>
      rw [cancelled_unlessCancelled] at htoken
      rw [course_unlessCancelled, hwaits htoken]
      exact if_pos htoken

def Calm (x : Activity α) : Prop := ∀ cancelled, (x.course cancelled).outcome ≠ .panicked

theorem calm_over (network : Network) (x : Http.Exchange α) : (x.over network).Calm := by
  induction x with
  | done result =>
    intro cancelled h
    cases h
  | send first next ih =>
    intro cancelled h
    rw [Http.Exchange.course_over_send] at h
    split at h
    · next reply _ => exact ih reply cancelled h
    · cases h

theorem Calm.unlessCancelled (hx : x.Calm) : (Activity.unlessCancelled x).Calm := by
  intro cancelled h
  cases cancelled with
  | true => cases h
  | false =>
    rw [course_unlessCancelled] at h
    split at h
    · cases h
    · next hpanic => exact hx false hpanic
    · split at h <;> cases h

theorem Calm.bind {f : α → Activity β} (hx : x.Calm) (hf : ∀ value, (f value).Calm) :
    (x >>= f).Calm := by
  intro cancelled h
  rw [course_bind] at h
  split at h
  · next value _ => exact hf value _ h
  · next hpanic => exact hx cancelled hpanic
  · cases h

theorem GivesWay.bind {f : α → Activity β} {result : β} (hx : x.GivesWay network value)
    (hvalue : f value = pure result)
    (hf : ∀ other, (∃ done, f other = pure done) ∨ (f other).GivesWay network result) :
    (x >>= f).GivesWay network result where
  token := by
    refine hx.token.bind fun other => ?_
    rcases hf other with ⟨done, hdone⟩ | hgives
    · rw [hdone]
      exact keepsToken_pure done
    · exact hgives.token
  heeds := by
    refine hx.heeds.bind fun other => ?_
    rcases hf other with ⟨done, hdone⟩ | hgives
    · rw [hdone]
      exact ⟨keepsToken_pure done, heeds_pure network done⟩
    · exact ⟨hgives.token, hgives.heeds⟩
  silent := by
    intro request hsent
    rcases mem_events_bind hsent with hmem | ⟨other, hother, hmem⟩
    · exact hx.silent request hmem
    · obtain rfl := Outcome.returned.inj ((hx.ends true hx.token).symm.trans hother)
      rw [hvalue] at hmem
      cases hmem
  ends := by
    intro cancelled htoken
    cases hfirst : (x.course cancelled).cancelled with
    | true =>
      rw [course_bind_of_returned (hx.ends cancelled hfirst), hvalue]
      rfl
    | false =>
      -- The token is cancelled during the second part, which therefore gives way.
      rw [course_bind] at htoken
      split at htoken
      · next other hother =>
        rw [hfirst] at htoken
        rw [course_bind_of_returned hother, hfirst]
        rcases hf other with ⟨done, hdone⟩ | hgives
        · rw [hdone] at htoken
          cases htoken
        · exact hgives.ends false htoken
      · rw [hfirst] at htoken
        cases htoken
      · rw [hfirst] at htoken
        cases htoken

theorem GivesWay.map (hx : x.GivesWay network value) (f : α → β) :
    (x >>= fun found => pure (f found)).GivesWay network (f value) :=
  hx.bind rfl fun other => .inl ⟨f other, rfl⟩

theorem GivesWay.note (hx : x.GivesWay network value) {event : Event}
    (h : ∀ request, event ≠ .request request) :
    (Activity.note event >>= fun _ => x).GivesWay network value where
  token := hx.token
  heeds := (heeds_note h).bind fun _ => ⟨hx.token, hx.heeds⟩
  silent := by
    intro request hsent
    rcases List.mem_cons.1 hsent with heq | hmem
    · exact h request heq.symm
    · exact hx.silent request hmem
  ends := hx.ends

end Pinning.Activity
