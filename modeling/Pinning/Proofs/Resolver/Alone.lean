import Pinning.Proofs.Fanout.Endings
import Pinning.Proofs.Resolver.Origin
import Pinning.Proofs.Resolver.Settles
/-!
What a spec comes to alone it comes to in every order of steps, and beside any other specs, as long
as nobody cancels. Where a lookup of its fan-out panics, only the text of the breakdown may differ.
-/

set_option autoImplicit false
set_option relaxedAutoImplicit false

namespace Pinning.Resolver

open Activity (outcome_bind_eq_returned course_bind_of_returned)

variable {r : Resolver} {strategy : Strategy} {written : String}
  {answer : Store.Ref → String → Except Store.Error String} {alone result : Except Error Package}

private theorem complete_keepsToken (r : Resolver) (draft : Draft) :
    (r.complete draft).KeepsToken := by
  rw [complete]
  split
  · exact Activity.keepsToken_pure _
  · exact Activity.KeepsToken.bind rfl fun _ => Activity.keepsToken_pure _

theorem returns_complete {draft : Draft} {refs : Fanout.Refs}
    {paths : Except Error (SortedMap String)} (hrefs : draft.refs = some refs)
    (hpaths : (r.fanout.resolve refs).Returns paths) :
    (r.complete draft).Returns (finish draft paths) := by
  rw [complete, hrefs]
  exact hpaths.bind (Activity.returns_pure _)

/-- What a spec can come to with a token that is not cancelled is what it comes to alone, or what
some run of its fan-out comes to. -/
theorem Settles.alone_or_fetched (h : r.Settles strategy written false result)
    (hquiet : (r.draft strategy written).Quiet) :
    (r.resolve strategy written).Returns result
      ∨ ∃ draft refs progress paths, (r.draft strategy written).Returns (.ok draft)
        ∧ draft.refs = some refs ∧ result = finish draft paths
        ∧ Fanout.Reaches r.fanout.behaviour (false, .start r.fanout.cacheUrl refs) (false, progress)
        ∧ progress.result = some paths := by
  have hreturns : ∀ {before : Bool} {drafted : Except Error Draft}, (before = true → false = true) →
      r.Drafts strategy written before drafted → (r.draft strategy written).Returns drafted := by
    intro before drafted hbefore hdraft
    obtain rfl : before = false :=
      Bool.eq_false_iff.2 fun htrue => Bool.false_ne_true (hbefore htrue)
    exact ⟨hquiet, hdraft⟩
  cases h with
  | refused hbefore hdraft => exact .inl ((hreturns hbefore hdraft).bind (Activity.returns_pure _))
  | drafted hbefore hdraft hrefs =>
    refine .inl ((hreturns hbefore hdraft).bind ?_)
    simp only [complete, hrefs]
    exact Activity.returns_pure _
  | @fetched _ first draft refs s paths hbefore hdraft hrefs hrun hresult htoken =>
    obtain ⟨token, progress⟩ := s
    obtain rfl : token = false := Bool.eq_false_iff.2 fun htrue => Bool.false_ne_true (htoken htrue)
    obtain rfl : first = false :=
      Bool.eq_false_iff.2 fun htrue => Bool.false_ne_true (hrun.token_mono htrue)
    exact .inr ⟨draft, refs, progress, paths, hreturns hbefore hdraft, hrefs, rfl, hrun, hresult⟩

theorem Settles.exists_alone (h : r.Settles strategy written false result)
    (hquiet : (r.draft strategy written).Quiet) (hfanout : r.fanout.Quiet) :
    ∃ alone, (r.resolve strategy written).Returns alone ∧ Alike result alone
      ∧ (r.fanout.Calm → result = alone) := by
  rcases h.alone_or_fetched hquiet with
    halone | ⟨draft, refs, progress, paths, hdraft, hrefs, rfl, hrun, hresult⟩
  · exact ⟨result, halone, .same _, fun _ => rfl⟩
  · have hnodup := nodup_refs_of_draft hdraft.outcome hrefs
    obtain ⟨settled, hsettled, halike⟩ := Fanout.alike_of_result hnodup hrun hresult
    have hcourse := Fanout.course_resolve hfanout refs
    have hresolve : (r.fanout.resolve refs).Returns settled :=
      ⟨by rw [hcourse], by rw [hcourse]; exact hsettled⟩
    exact ⟨finish draft settled, hdraft.bind (returns_complete hrefs hresolve),
      halike.map draft.complete,
      fun hcalm => congrArg (finish draft) (Fanout.eq_of_calm hcalm hsettled halike)⟩

theorem Settles.eq_of_resolve (h : r.Settles strategy written false result)
    (hstore : r.fanout.Answers answer) (halone : (r.resolve strategy written).Returns alone) :
    result = alone := by
  have hquiet : (r.draft strategy written).Quiet := by
    obtain ⟨drafted, hdrafted, -⟩ := outcome_bind_eq_returned.1 halone.outcome
    have hlast := halone.token
    rw [resolve, course_bind_of_returned hdrafted] at hlast
    -- A draft that cancels would have what follows it end with the token cancelled.
    refine Bool.eq_false_iff.2 fun htrue => ?_
    rw [htrue] at hlast
    refine Bool.false_ne_true (hlast.symm.trans ?_)
    cases drafted with
    | error cause => rfl
    | ok draft => exact complete_keepsToken r draft
  obtain ⟨other, hother, -, hsame⟩ := h.exists_alone hquiet hstore.quiet
  exact (hsame hstore.calm).trans (hother.unique halone)

end Pinning.Resolver
