import Pinning.Fanout.Schedule
import Pinning.Resolver.Batch
/-!
All the ways in which several specs can be resolved together. The specs take their steps in any
order and share one token; a spec asks its question, is answered at some later time, and runs a
fan-out of its own if its draft needs one.
-/

set_option autoImplicit false
set_option relaxedAutoImplicit false

namespace Pinning.Resolver

/-- How far a spec has come. -/
inductive Progress
  | ready
  | asking (inquiry : Inquiry)
  | fetching (draft : Draft) (fanout : Fanout.Progress)
  | settled (result : Except Error Package)

def Progress.ofDraft (cacheUrl : String) : Except Error Draft → Progress
  | .error cause => .settled (.error cause)
  | .ok draft =>
    match draft.refs with
    | none => .settled (.ok draft.package)
    | some refs => .fetching draft (.start cacheUrl refs)

def Progress.ofSpec (strategy : Strategy) (written : String) : Progress :=
  match Inquiry.ofSpec strategy (Spec.parse written) with
  | .error cause => .settled (.error cause)
  | .ok inquiry => .asking inquiry

/-- Specs under way, each with how far it has come. -/
structure Batch where
  specs : List (String × Progress)
  cancelled : Bool := false

def Batch.start (specs : List String) (cancelled : Bool) : Batch :=
  { specs := specs.map fun written => (written, .ready), cancelled }

def Batch.withProgress (batch : Batch) (i : Nat) (written : String) (progress : Progress)
    (cancelled : Bool) : Batch :=
  { specs := batch.specs.set i (written, progress), cancelled }

/-- One step of specs that are resolved together. -/
inductive Step (r : Resolver) (strategy : Strategy) : Batch → Batch → Prop
  | start {batch : Batch} {i : Nat} {written : String}
      (hspec : batch.specs[i]? = some (written, .ready)) :
      Step r strategy batch
        (batch.withProgress i written (.ofSpec strategy written) batch.cancelled)
  /-- The question of a spec is answered, or given up because the token is cancelled. -/
  | answer {batch : Batch} {i : Nat} {written : String} {inquiry : Inquiry}
      {drafted : Except Error Draft}
      (hspec : batch.specs[i]? = some (written, .asking inquiry))
      (hanswer : ((r.ask inquiry).course batch.cancelled).outcome = .returned drafted) :
      Step r strategy batch
        (batch.withProgress i written (.ofDraft r.cacheUrl drafted)
          (batch.cancelled || ((r.ask inquiry).course batch.cancelled).cancelled))
  | fetch {batch : Batch} {i : Nat} {written : String} {draft : Draft}
      {before after : Fanout.Progress} {cancelled : Bool}
      (hspec : batch.specs[i]? = some (written, .fetching draft before))
      (hstep : Fanout.Step r.fanout.behaviour (batch.cancelled, before) (cancelled, after)) :
      Step r strategy batch (batch.withProgress i written (.fetching draft after) cancelled)
  | settle {batch : Batch} {i : Nat} {written : String} {draft : Draft}
      {fanout : Fanout.Progress} {paths : Except Error (SortedMap String)}
      (hspec : batch.specs[i]? = some (written, .fetching draft fanout))
      (hresult : fanout.result = some paths) :
      Step r strategy batch
        (batch.withProgress i written (.settled (finish draft paths)) batch.cancelled)
  | cancel {batch : Batch} : Step r strategy batch { batch with cancelled := true }

/-- Specs that are resolved together can get from one state to another. -/
def Reaches (r : Resolver) (strategy : Strategy) : Batch → Batch → Prop :=
  Relation.ReflTransGen (Step r strategy)

/-- All specs have come to these results. -/
def Batch.Settled (batch : Batch) (results : List (String × Except Error Package)) : Prop :=
  batch.specs = results.map fun (written, result) => (written, .settled result)

end Pinning.Resolver
