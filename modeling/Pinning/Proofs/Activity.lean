import Pinning.Activity
/-!
Laws of activities. Two activities return one after the other if each does; `Returns` says that an
activity does so unless the caller cancels, and `KeepsToken` that a token it finds cancelled stays
cancelled.
-/

set_option autoImplicit false
set_option relaxedAutoImplicit false

namespace Pinning.Activity

variable {α β : Type}

@[simp] theorem course_pure (value : α) (cancelled : Bool) :
    (pure value : Activity α).course cancelled = ⟨[], cancelled, .returned value⟩ := rfl

theorem course_bind (x : Activity α) (f : α → Activity β) (cancelled : Bool) :
    (x >>= f).course cancelled
      = match (x.course cancelled).outcome with
        | .returned value =>
          ⟨(x.course cancelled).events ++ ((f value).course (x.course cancelled).cancelled).events,
            ((f value).course (x.course cancelled).cancelled).cancelled,
            ((f value).course (x.course cancelled).cancelled).outcome⟩
        | .panicked => ⟨(x.course cancelled).events, (x.course cancelled).cancelled, .panicked⟩
        | .unanswered =>
          ⟨(x.course cancelled).events, (x.course cancelled).cancelled, .unanswered⟩ := rfl

/-- With a token that is not cancelled, a cancellable part is given up only if the token is
cancelled while it waits. -/
theorem course_unlessCancelled (x : Activity α) :
    (unlessCancelled x).course false
      = match (x.course false).outcome with
        | .returned value =>
          ⟨(x.course false).events, (x.course false).cancelled, .returned (some value)⟩
        | .panicked => ⟨(x.course false).events, (x.course false).cancelled, .panicked⟩
        | .unanswered => ⟨(x.course false).events, (x.course false).cancelled,
            if (x.course false).cancelled then .returned none else .unanswered⟩ := rfl

theorem course_bind_of_returned {x : Activity α} {f : α → Activity β} {cancelled : Bool}
    {value : α} (h : (x.course cancelled).outcome = .returned value) :
    (x >>= f).course cancelled
      = ⟨(x.course cancelled).events ++ ((f value).course (x.course cancelled).cancelled).events,
          ((f value).course (x.course cancelled).cancelled).cancelled,
          ((f value).course (x.course cancelled).cancelled).outcome⟩ := by
  rw [course_bind, h]

theorem outcome_bind_eq_returned {x : Activity α} {f : α → Activity β} {cancelled : Bool}
    {result : β} :
    ((x >>= f).course cancelled).outcome = .returned result
      ↔ ∃ value, (x.course cancelled).outcome = .returned value
          ∧ ((f value).course (x.course cancelled).cancelled).outcome = .returned result := by
  constructor
  · intro h
    rw [course_bind] at h
    split at h
    · next value hvalue => exact ⟨value, hvalue, h⟩
    · cases h
    · cases h
  · rintro ⟨value, hvalue, hresult⟩
    rw [course_bind_of_returned hvalue]
    exact hresult

theorem outcome_unlessCancelled_eq_some {x : Activity α} {cancelled : Bool} {value : α} :
    ((unlessCancelled x).course cancelled).outcome = .returned (some value)
      ↔ cancelled = false ∧ (x.course false).outcome = .returned value := by
  cases cancelled with
  | true => simp [unlessCancelled, course]
  | false =>
    rw [course_unlessCancelled]
    simp only [true_and]
    split
    · next found hfound => simp [hfound]
    · next hpanic => simp [hpanic]
    · next hwait =>
      rw [hwait]
      split <;> simp

theorem outcome_bind_congr {x : Activity α} {f g : α → Activity β} {cancelled : Bool}
    (h : ∀ value, (x.course cancelled).outcome = .returned value →
      ((f value).course (x.course cancelled).cancelled).outcome
        = ((g value).course (x.course cancelled).cancelled).outcome) :
    ((x >>= f).course cancelled).outcome = ((x >>= g).course cancelled).outcome := by
  rw [course_bind, course_bind]
  cases houtcome : (x.course cancelled).outcome with
  | returned value => exact h value houtcome
  | panicked => rfl
  | unanswered => rfl

theorem mem_events_bind {x : Activity α} {f : α → Activity β} {cancelled : Bool} {event : Event}
    (h : event ∈ ((x >>= f).course cancelled).events) :
    event ∈ (x.course cancelled).events ∨ ∃ value, (x.course cancelled).outcome = .returned value
      ∧ event ∈ ((f value).course (x.course cancelled).cancelled).events := by
  rw [course_bind] at h
  split at h
  · next value hvalue =>
    rcases List.mem_append.1 h with hfirst | hsecond
    · exact .inl hfirst
    · exact .inr ⟨value, hvalue, hsecond⟩
  · exact .inl h
  · exact .inl h

theorem events_bind_of_ended {x : Activity α} {f : α → Activity β} {cancelled : Bool}
    (h : ∀ value, (x.course cancelled).outcome ≠ .returned value) :
    ((x >>= f).course cancelled).events = (x.course cancelled).events := by
  rw [course_bind]
  split
  · next value hvalue => exact absurd hvalue (h value)
  · rfl
  · rfl

theorem cancelled_bind_pure (x : Activity α) (f : α → β) (cancelled : Bool) :
    ((x >>= fun value => pure (f value)).course cancelled).cancelled
      = (x.course cancelled).cancelled := by
  rw [course_bind]
  split <;> rfl

theorem events_bind_pure (x : Activity α) (f : α → β) (cancelled : Bool) :
    ((x >>= fun value => pure (f value)).course cancelled).events
      = (x.course cancelled).events := by
  rw [course_bind]
  split
  · exact List.append_nil _
  · rfl
  · rfl

theorem events_unlessCancelled (x : Activity α) :
    ((unlessCancelled x).course false).events = (x.course false).events := by
  rw [course_unlessCancelled]
  split <;> rfl

theorem cancelled_unlessCancelled (x : Activity α) :
    ((unlessCancelled x).course false).cancelled = (x.course false).cancelled := by
  rw [course_unlessCancelled]
  split <;> rfl

theorem mem_events_unlessCancelled {x : Activity α} {cancelled : Bool} {event : Event}
    (h : event ∈ ((unlessCancelled x).course cancelled).events) :
    cancelled = false ∧ event ∈ (x.course false).events := by
  cases cancelled with
  | true => cases h
  | false => exact ⟨rfl, events_unlessCancelled x ▸ h⟩

theorem outcome_unlessCancelled_map {x : Activity α} {f : Option α → β} {cancelled : Bool}
    {result : β}
    (h : ((unlessCancelled x >>= fun answer => pure (f answer)).course cancelled).outcome
      = .returned result) :
    (∃ value, cancelled = false ∧ (x.course false).outcome = .returned value
      ∧ result = f (some value))
      ∨ (result = f none
        ∧ ((unlessCancelled x >>= fun answer => pure (f answer)).course cancelled).cancelled
          = true) := by
  obtain ⟨answer, hanswer, hresult⟩ := outcome_bind_eq_returned.1 h
  have hresult : f answer = result := Outcome.returned.inj hresult
  cases answer with
  | some value =>
    obtain ⟨hcalm, hvalue⟩ := outcome_unlessCancelled_eq_some.1 hanswer
    exact .inl ⟨value, hcalm, hvalue, hresult.symm⟩
  | none =>
    refine .inr ⟨hresult.symm, ?_⟩
    rw [cancelled_bind_pure]
    cases cancelled with
    | true => rfl
    | false =>
      rw [cancelled_unlessCancelled]
      rw [course_unlessCancelled] at hanswer
      split at hanswer
      · cases hanswer
      · cases hanswer
      · split at hanswer
        · next htoken => exact htoken
        · cases hanswer

theorem unlessCancelled_bind_pure (x : Activity α) (f : α → β) :
    unlessCancelled (x >>= fun value => pure (f value))
      = unlessCancelled x >>= fun answer => pure (answer.map f) := by
  funext cancelled
  show unlessCancelled (bind x fun value => pure (f value)) cancelled
    = bind (unlessCancelled x) (fun answer => pure (answer.map f)) cancelled
  cases cancelled with
  | true => rfl
  | false =>
    rcases hx : x false with ⟨events, token, outcome⟩
    cases outcome with
    | returned value => simp [unlessCancelled, bind, hx, pure, ended]
    | panicked => simp [unlessCancelled, bind, hx]
    | unanswered => cases token <;> simp [unlessCancelled, bind, hx, pure, ended]

theorem bind_pure_bind {γ : Type} (x : Activity α) (f : α → β) (g : β → Activity γ) :
    (x >>= fun value => pure (f value)) >>= g = x >>= fun value => g (f value) := by
  funext cancelled
  show bind (bind x fun value => pure (f value)) g cancelled
    = bind x (fun value => g (f value)) cancelled
  rcases hx : x cancelled with ⟨events, token, outcome⟩
  cases outcome <;> simp [bind, hx, pure, ended]

theorem outcome_bind_pure {x : Activity α} {cancelled : Bool} {value : α}
    (h : (x.course cancelled).outcome = .returned value) (f : α → β) :
    ((x >>= fun value => pure (f value)).course cancelled).outcome = .returned (f value) :=
  outcome_bind_eq_returned.2 ⟨value, h, rfl⟩

/-- Unless the caller cancels, the activity returns a value and leaves the token alone. -/
structure Returns (x : Activity α) (value : α) : Prop where
  token : (x.course false).cancelled = false
  outcome : (x.course false).outcome = .returned value

theorem returns_pure (value : α) : (pure value : Activity α).Returns value := ⟨rfl, rfl⟩

theorem Returns.unique {x : Activity α} {value other : α} (h : x.Returns value)
    (hother : x.Returns other) :
    value = other := Outcome.returned.inj (h.outcome.symm.trans hother.outcome)

theorem returns_note (event : Event) : (note event).Returns () := ⟨rfl, rfl⟩

theorem returns_isCancelled : isCancelled.Returns false := ⟨rfl, rfl⟩

theorem Returns.bind {x : Activity α} {f : α → Activity β} {value : α} {result : β}
    (hx : x.Returns value) (hf : (f value).Returns result) : (x >>= f).Returns result := by
  constructor
  · rw [course_bind_of_returned hx.outcome, hx.token]
    exact hf.token
  · rw [course_bind_of_returned hx.outcome, hx.token]
    exact hf.outcome

theorem Returns.unlessCancelled {x : Activity α} {value : α} (hx : x.Returns value) :
    (unlessCancelled x).Returns (some value) := by
  refine ⟨?_, outcome_unlessCancelled_eq_some.2 ⟨rfl, hx.outcome⟩⟩
  rw [cancelled_unlessCancelled]
  exact hx.token

theorem outcome_bind_of_unanswered {x : Activity α} {f : α → Activity β} {cancelled : Bool}
    (h : (x.course cancelled).outcome = .unanswered) :
    ((x >>= f).course cancelled).outcome = .unanswered := by
  rw [course_bind, h]

/-- A token that is not cancelled before the activity is not cancelled afterwards. -/
def Quiet (x : Activity α) : Prop := (x.course false).cancelled = false

theorem Returns.quiet {x : Activity α} {value : α} (h : x.Returns value) : x.Quiet := h.token

theorem Returns.outcome_bind {x : Activity α} {value : α} (hx : x.Returns value)
    (f : α → Activity β) :
    ((x >>= f).course false).outcome = ((f value).course false).outcome := by
  rw [course_bind_of_returned hx.outcome, hx.token]

theorem Returns.quiet_bind {x : Activity α} {f : α → Activity β} {value : α} (hx : x.Returns value)
    (hf : (f value).Quiet) : (x >>= f).Quiet := by
  rw [Quiet, course_bind_of_returned hx.outcome, hx.token]
  exact hf

theorem Quiet.bind {x : Activity α} {f : α → Activity β} (hx : x.Quiet)
    (hf : ∀ value, (f value).Quiet) :
    (x >>= f).Quiet := by
  rw [Quiet] at hx
  rw [Quiet, course_bind]
  split
  · next value _ =>
    rw [hx]
    exact hf value
  · exact hx
  · exact hx

theorem Quiet.unlessCancelled {x : Activity α} (h : x.Quiet) : (unlessCancelled x).Quiet := by
  rw [Quiet, cancelled_unlessCancelled]
  exact h

/-- Unless the caller cancels, the activity leaves the token alone and does not panic. -/
structure Steady (x : Activity α) : Prop where
  quiet : x.Quiet
  calm : (x.course false).outcome ≠ .panicked

theorem Returns.steady {x : Activity α} {value : α} (h : x.Returns value) : x.Steady where
  quiet := h.token
  calm hpanic := by cases h.outcome.symm.trans hpanic

/-- A token that is cancelled before the activity is cancelled afterwards. -/
def KeepsToken (x : Activity α) : Prop := (x.course true).cancelled = true

theorem keepsToken_pure (value : α) : (pure value : Activity α).KeepsToken := rfl

theorem keepsToken_unlessCancelled (x : Activity α) : (unlessCancelled x).KeepsToken := rfl

theorem KeepsToken.bind {x : Activity α} {f : α → Activity β} (hx : x.KeepsToken)
    (hf : ∀ value, (f value).KeepsToken) : (x >>= f).KeepsToken := by
  rw [KeepsToken] at hx
  rw [KeepsToken, course_bind]
  split
  · next value _ =>
    rw [hx]
    exact hf value
  · exact hx
  · exact hx

end Pinning.Activity
