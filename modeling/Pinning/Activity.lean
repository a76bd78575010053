import Pinning.Http.Exchange
import Pinning.Store.Ref
import Pinning.Strategy
/-!
Activities: what is carried out for a caller who may cancel. An activity starts with the token as it
finds it, and its course says which calls and requests were made, whether the token is cancelled in
the end, and how it ended. An activity that panics or waits for ever ends every activity it is a
step of.
-/

set_option autoImplicit false
set_option relaxedAutoImplicit false

namespace Pinning

inductive Outcome (α : Type)
  | returned (value : α)
  | panicked
  | unanswered
  deriving DecidableEq

/-- A call to a collaborator, or a request that it sends. -/
inductive Event
  | search (protocol : Protocol) (name version : String)
  | pin (written : String)
  | lookup (ref : Store.Ref) (cacheUrl : String)
  | request (request : Http.Request)
  deriving DecidableEq

/-- What an activity did and how it ended. -/
structure Course (α : Type) where
  events : List Event
  cancelled : Bool
  outcome : Outcome α

def Activity (α : Type) := Bool → Course α

namespace Activity

variable {α β : Type}

def course (x : Activity α) (cancelled : Bool) : Course α := x cancelled

def ended (outcome : Outcome α) : Activity α := fun cancelled => ⟨[], cancelled, outcome⟩

/-- Go on with the value of an activity. -/
def bind (x : Activity α) (f : α → Activity β) : Activity β := fun cancelled =>
  let first := x cancelled
  match first.outcome with
  | .returned value =>
    let second := f value first.cancelled
    ⟨first.events ++ second.events, second.cancelled, second.outcome⟩
  | .panicked => ⟨first.events, first.cancelled, .panicked⟩
  | .unanswered => ⟨first.events, first.cancelled, .unanswered⟩

instance : Monad Activity where
  pure value := ended (.returned value)
  bind := bind

def note (event : Event) : Activity Unit := fun cancelled => ⟨[event], cancelled, .returned ()⟩

def isCancelled : Activity Bool := fun cancelled => ⟨[], cancelled, .returned cancelled⟩

/-- Carry an activity out in a task of its own, which keeps a panic or a wait to itself. -/
def asTask (x : Activity α) : Activity (Outcome α) := fun cancelled =>
  let c := x cancelled
  ⟨c.events, c.cancelled, .returned c.outcome⟩

/-- Carry an activity out unless the token is cancelled, and give it up when the token is cancelled
while it waits. -/
def unlessCancelled (x : Activity α) : Activity (Option α) := fun cancelled =>
  if cancelled then ⟨[], true, .returned none⟩
  else
    let c := x false
    match c.outcome with
    | .returned value => ⟨c.events, c.cancelled, .returned (some value)⟩
    | .panicked => ⟨c.events, c.cancelled, .panicked⟩
    | .unanswered =>
      ⟨c.events, c.cancelled, if c.cancelled then .returned none else .unanswered⟩

end Activity

/-- Carry an exchange out over a network. -/
def Http.Exchange.over {α : Type} (network : Http.Network) : Http.Exchange α → Activity α
  | .done result => pure result
  | .send request next => fun cancelled =>
    match network request with
    | .replied reply =>
      let rest := (next reply).over network cancelled
      { rest with events := .request request :: rest.events }
    | .withheld cancels => ⟨[.request request], cancelled || cancels, .unanswered⟩

end Pinning
