import Pinning.Proofs.Fanout.Execution
import Pinning.Resolver.Schedule
/-!
Resolving a spec step by step is one of the ways in which a batch of that spec alone can run.
-/

set_option autoImplicit false
set_option relaxedAutoImplicit false

namespace Pinning.Resolver

open Activity (outcome_bind_eq_returned)

variable {r : Resolver} {strategy : Strategy} {written : String}

/-- The services keep every token that they are given. -/
structure KeepsToken (r : Resolver) : Prop where
  asking : ∀ inquiry, (r.ask inquiry).KeepsToken
  fetching : r.fanout.KeepsToken

def Batch.single (written : String) (progress : Progress) (cancelled : Bool) : Batch :=
  { specs := [(written, progress)], cancelled }

theorem reaches_fetch {draft : Draft} {s t : Bool × Fanout.Progress}
    (hrun : Fanout.Reaches r.fanout.behaviour s t) :
    Reaches r strategy (.single written (.fetching draft s.2) s.1)
      (.single written (.fetching draft t.2) t.1) := by
  induction hrun with
  | refl => exact .refl
  | tail _ hstep ih => exact ih.tail (.fetch (i := 0) rfl hstep)

theorem reaches_of_resolve (hkeeps : r.KeepsToken) {cancelled : Bool}
    {result : Except Error Package}
    (h : ((r.resolve strategy written).course cancelled).outcome = .returned result) :
    ∃ batch, Reaches r strategy (.start [written] cancelled) batch
      ∧ batch.Settled [(written, result)] := by
  have hstart : Reaches r strategy (.start [written] cancelled)
      (.single written (.ofSpec strategy written) cancelled) := .single (.start (i := 0) rfl)
  obtain ⟨drafted, hdraft, hrest⟩ := outcome_bind_eq_returned.1 h
  rw [draft] at hdraft hrest
  rw [Progress.ofSpec] at hstart
  cases hinquiry : Inquiry.ofSpec strategy (Spec.parse written) with
  | error cause =>
    simp only [hinquiry] at hstart hdraft hrest
    obtain rfl := Outcome.returned.inj hdraft
    obtain rfl := Outcome.returned.inj hrest
    exact ⟨_, hstart, rfl⟩
  | ok inquiry =>
    simp only [hinquiry] at hstart hdraft hrest
    have htoken : (cancelled || ((r.ask inquiry).course cancelled).cancelled)
        = ((r.ask inquiry).course cancelled).cancelled := by
      cases cancelled with
      | false => rfl
      | true => exact (hkeeps.asking inquiry).symm
    have hanswer : Reaches r strategy (.start [written] cancelled)
        (.single written (.ofDraft r.cacheUrl drafted)
          ((r.ask inquiry).course cancelled).cancelled) :=
      htoken ▸ hstart.tail (.answer (i := 0) rfl hdraft)
    cases drafted with
    | error cause =>
      obtain rfl := Outcome.returned.inj hrest
      exact ⟨_, hanswer, rfl⟩
    | ok draft =>
      simp only [complete] at hrest
      simp only [Progress.ofDraft] at hanswer
      cases hrefs : draft.refs with
      | none =>
        simp only [hrefs] at hrest hanswer
        obtain rfl := Outcome.returned.inj hrest
        exact ⟨_, hanswer, rfl⟩
      | some refs =>
        simp only [hrefs] at hrest hanswer
        obtain ⟨paths, hpaths, hfinish⟩ := outcome_bind_eq_returned.1 hrest
        obtain rfl := Outcome.returned.inj hfinish
        obtain ⟨q, hrun, hresult⟩ := Fanout.reaches_resolve hkeeps.fetching refs hpaths
        exact ⟨_, (hanswer.trans (reaches_fetch hrun)).tail (.settle (i := 0) rfl hresult), rfl⟩

end Pinning.Resolver
