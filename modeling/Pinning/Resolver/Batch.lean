import Pinning.Resolver
/-!
Resolving several specs together. All of them are started before any fan-out is waited for, and all
share one token; a spec that fails changes nothing for the others. What has not come to its end when
the token is cancelled ends as cancelled.
-/

set_option autoImplicit false
set_option relaxedAutoImplicit false

namespace Pinning.Resolver

/-- How far a started spec has come by itself. -/
inductive Stage
  | settled (result : Except Error Package)
  | asking
  | fetching (draft : Draft) (refs : Fanout.Refs)

/-- Start the fan-out of a draft. Without a build output to look up it ends at once. -/
def startFanout (r : Resolver) (draft : Draft) (refs : Fanout.Refs) : Activity Stage := do
  match Fanout.wanted refs with
  | [] => pure (.settled (finish draft (← r.fanout.resolve [])))
  | wanted => pure (.fetching draft wanted)

def startWith (r : Resolver) (drafted : Outcome (Except Error Draft)) : Activity Stage :=
  match drafted with
  | .panicked => Activity.ended .panicked
  | .unanswered => pure .asking
  | .returned (.error cause) => pure (.settled (.error cause))
  | .returned (.ok draft) =>
    match draft.refs with
    | none => pure (.settled (.ok draft.package))
    | some refs => r.startFanout draft refs

def start (r : Resolver) (strategy : Strategy) (written : String) : Activity Stage := do
  r.startWith (← (r.draft strategy written).asTask)

/-- What a spec comes to, given whether the token is cancelled in the end. -/
abbrev Verdict := Bool → Outcome (Except Error Package)

def work (r : Resolver) : Stage → Activity Verdict
  | .settled result => pure fun _ => .returned result
  | .asking =>
    pure fun cancelled => if cancelled then .returned (.error .cancelled) else .unanswered
  | .fetching draft refs => do
    let endings ← if ← Activity.isCancelled then pure [] else r.fanout.tasks refs
    pure fun cancelled =>
      match Fanout.gather cancelled endings with
      | .returned paths => .returned (finish draft paths)
      | .panicked => .panicked
      | .unanswered => .unanswered

def startAll (r : Resolver) (strategy : Strategy) : List String → Activity (List Stage)
  | [] => pure []
  | written :: rest => do
    let stage ← r.start strategy written
    let stages ← r.startAll strategy rest
    pure (stage :: stages)

def workAll (r : Resolver) : List Stage → Activity (List Verdict)
  | [] => pure []
  | stage :: rest => do
    let verdict ← r.work stage
    let verdicts ← r.workAll rest
    pure (verdict :: verdicts)

def conclude (cancelled : Bool) : List Verdict → Activity (List (Except Error Package))
  | [] => pure []
  | verdict :: rest => do
    let result ← Activity.ended (verdict cancelled)
    let results ← conclude cancelled rest
    pure (result :: results)

/-- Resolve specs. Each is paired with what it resolves to, in the order in which they are given. -/
def resolveAll (r : Resolver) (strategy : Strategy) (specs : List String) :
    Activity (List (String × Except Error Package)) := do
  let stages ← r.startAll strategy specs
  let verdicts ← r.workAll stages
  let results ← conclude (← Activity.isCancelled) verdicts
  pure (specs.zip results)

end Pinning.Resolver
