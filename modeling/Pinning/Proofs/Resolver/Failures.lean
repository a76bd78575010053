import Pinning.Proofs.Resolver.Calls
import Pinning.Proofs.Resolver.Cancelled
/-!
Why a spec fails. The question that it asks first is refused, or answered with something that no
package can be made of; or else its fan-out breaks down or is given up. The token says in the end
which failures are cancellations.
-/

set_option autoImplicit false
set_option relaxedAutoImplicit false

namespace Pinning

open Activity (cancelled_bind_pure course_bind_of_returned outcome_bind_eq_returned
  outcome_unlessCancelled_map)

namespace Resolver

variable {r : Resolver} {strategy : Strategy} {written : String} {cause : Error}

/-- Why the spec fails, with a token that is in the end cancelled or not. -/
inductive Refusal (r : Resolver) (strategy : Strategy) (written : String) (token : Bool) :
    Error → Prop
  | bare (hversion : (Spec.parse written).version = none) :
      Refusal r strategy written token (.missingVersion (Spec.parse written).name)
  /-- No draft can be made of what the legacy protocol answers. -/
  | legacy {version : String} {answered : Except Search.Error Search.LegacyRecord} {cause : Error}
      (hversion : (Spec.parse written).version = some version)
      (hrelease : (Spec.parse written).isRelease = false) (hprotocol : strategy.protocol = .legacy)
      (hanswer : ((r.services.single (Spec.parse written).name version).course false).outcome
        = .returned answered)
      (hdraft : Draft.ofLegacy r.host (Spec.parse written).name version strategy.storePaths answered
        = .error cause) : Refusal r strategy written token cause
  /-- No draft can be made of what the enriched protocol answers. -/
  | enriched {version : String} {before : Bool}
      {answered : Except Search.Error Search.EnrichedRecord}
      {cause : Error} (hversion : (Spec.parse written).version = some version)
      (hrelease : (Spec.parse written).isRelease = false)
      (hprotocol : strategy.protocol = .enriched)
      (hanswer : ((r.services.versioned (Spec.parse written).name version).course before).outcome
        = .returned answered)
      (htoken : ((r.services.versioned (Spec.parse written).name version).course before).cancelled
        = true →
        token = true)
      (hdraft : Draft.ofEnriched r.host (Spec.parse written).name version answered = .error cause) :
      Refusal r strategy written token cause
  | release {version : String} {before : Bool} {answered : Except RunX.Error RunX.Reference}
      {cause : Error}
      (hversion : (Spec.parse written).version = some version)
      (hrelease : (Spec.parse written).isRelease = true)
      (hanswer : ((r.services.pin (Spec.parse written).raw).course before).outcome
        = .returned answered)
      (htoken : ((r.services.pin (Spec.parse written).raw).course before).cancelled = true →
        token = true)
      (hdraft : Draft.ofRelease answered = .error cause) : Refusal r strategy written token cause
  | givenUp (htoken : token = true) : Refusal r strategy written token .cancelled
  /-- The fan-out over the build outputs of a record breaks down. -/
  | brokenDown {version problem : String} {record : Search.LegacyRecord}
      (hversion : (Spec.parse written).version = some version)
      (hrelease : (Spec.parse written).isRelease = false) (hprotocol : strategy.protocol = .legacy)
      (hanswer : ((r.services.single (Spec.parse written).name version).course false).outcome
        = .returned (.ok record)) : Refusal r strategy written token (.fanout problem)

theorem Refusal.of_token {token later : Bool} (h : r.Refusal strategy written token cause)
    (hlater : token = true → later = true) : r.Refusal strategy written later cause := by
  cases h with
  | bare hversion => exact .bare hversion
  | legacy hversion hrelease hprotocol hanswer hdraft =>
    exact .legacy hversion hrelease hprotocol hanswer hdraft
  | enriched hversion hrelease hprotocol hanswer htoken hdraft =>
    exact .enriched hversion hrelease hprotocol hanswer (hlater ∘ htoken) hdraft
  | release hversion hrelease hanswer htoken hdraft =>
    exact .release hversion hrelease hanswer (hlater ∘ htoken) hdraft
  | givenUp htoken => exact .givenUp (hlater htoken)
  | brokenDown hversion hrelease hprotocol hanswer =>
    exact .brokenDown hversion hrelease hprotocol hanswer

section Drafting

variable {cancelled : Bool}

private theorem refusal_of_ask {inquiry : Inquiry}
    (hinquiry : Inquiry.ofSpec strategy (Spec.parse written) = .ok inquiry)
    (hask : ((r.ask inquiry).course cancelled).outcome = .returned (.error cause)) :
    r.Refusal strategy written ((r.ask inquiry).course cancelled).cancelled cause := by
  obtain ⟨version, hversion,
      ⟨hrelease, rfl⟩ | ⟨hrelease, hprotocol, rfl⟩ | ⟨hrelease, hprotocol, rfl⟩⟩ :=
    Inquiry.ofSpec_eq_ok hinquiry
  · obtain ⟨_, hnote, hrest⟩ := outcome_bind_eq_returned.1 hask
    obtain ⟨answered, hanswer, hdraft⟩ := outcome_bind_eq_returned.1 hrest
    refine .release hversion hrelease hanswer ?_ (Outcome.returned.inj hdraft)
    -- The token is not touched any more after the service has answered.
    intro htoken
    exact (cancelled_bind_pure (r.services.pin (Spec.parse written).raw) Draft.ofRelease
      cancelled).trans htoken
  · rw [ask_legacy] at hask ⊢
    rcases outcome_unlessCancelled_map hask with ⟨answered, -, hanswer, hdraft⟩ | ⟨hgiven, htoken⟩
    · exact .legacy hversion hrelease hprotocol hanswer hdraft.symm
    · obtain rfl := Except.error.inj hgiven
      exact .givenUp htoken
  · obtain ⟨_, hnote, hrest⟩ := outcome_bind_eq_returned.1 hask
    obtain ⟨answered, hanswer, hdraft⟩ := outcome_bind_eq_returned.1 hrest
    refine .enriched hversion hrelease hprotocol hanswer ?_ (Outcome.returned.inj hdraft)
    intro htoken
    exact (cancelled_bind_pure (r.services.versioned (Spec.parse written).name version)
      (Draft.ofEnriched r.host (Spec.parse written).name version) cancelled).trans htoken

private theorem refusal_of_draft (h : r.Drafts strategy written cancelled (.error cause)) :
    r.Refusal strategy written ((r.draft strategy written).course cancelled).cancelled cause := by
  rw [Drafts, draft] at h
  rw [draft]
  cases hinquiry : Inquiry.ofSpec strategy (Spec.parse written) with
  | error problem =>
    obtain ⟨hversion, rfl⟩ := Inquiry.ofSpec_eq_error hinquiry
    simp only [hinquiry] at h
    obtain rfl := Except.error.inj (Outcome.returned.inj h)
    exact .bare hversion
  | ok inquiry =>
    simp only [hinquiry] at h ⊢
    exact refusal_of_ask hinquiry h

private theorem record_of_refs {draft : Draft} {refs : Fanout.Refs}
    (hdraft : r.Drafts strategy written cancelled (.ok draft)) (hrefs : draft.refs = some refs) :
    ∃ version record, (Spec.parse written).version = some version
      ∧ (Spec.parse written).isRelease = false
      ∧ strategy.protocol = .legacy
      ∧ ((r.services.single (Spec.parse written).name version).course false).outcome
        = .returned (.ok record) := by
  obtain ⟨version, hversion, horigin⟩ := origin_of_draft hdraft
  cases horigin with
  | @legacy record hrelease hprotocol hanswer _ _ =>
    exact ⟨version, record, hversion, hrelease, hprotocol, hanswer⟩
  | enriched _ _ _ _ hnone => cases hnone.symm.trans hrefs
  | release _ _ hreference =>
    obtain rfl := Except.ok.inj hreference
    cases hrefs

end Drafting

section Failing

/-- The spec fails for this cause, with a token that is in the end cancelled or not: alone, or
beside other specs in some order of steps. -/
inductive FailsWith (r : Resolver) (strategy : Strategy) (written : String) (cause : Error) :
    Bool → Prop
  | alone {cancelled : Bool}
      (hresolve : ((r.resolve strategy written).course cancelled).outcome
        = .returned (.error cause)) :
      FailsWith r strategy written cause ((r.resolve strategy written).course cancelled).cancelled
  | beside {specs : List String} {cancelled : Bool} {batch : Batch}
      (hrun : Reaches r strategy (.start specs cancelled) batch)
      (hspec : (written, .settled (.error cause)) ∈ batch.specs) :
      FailsWith r strategy written cause batch.cancelled

private theorem refusal_of_resolve {cancelled : Bool}
    (h : ((r.resolve strategy written).course cancelled).outcome = .returned (.error cause)) :
    r.Refusal strategy written ((r.resolve strategy written).course cancelled).cancelled cause := by
  obtain ⟨drafted, hdraft, hrest⟩ := outcome_bind_eq_returned.1 h
  rw [resolve, course_bind_of_returned hdraft]
  cases drafted with
  | error problem =>
    obtain rfl := Except.error.inj (Outcome.returned.inj hrest)
    exact refusal_of_draft hdraft
  | ok draft =>
    cases hrefs : draft.refs with
    | none =>
      simp only [complete, hrefs] at hrest
      cases Outcome.returned.inj hrest
    | some refs =>
      simp only [complete, hrefs] at hrest ⊢
      obtain ⟨paths, hpaths, hfinish⟩ := outcome_bind_eq_returned.1 hrest
      rw [cancelled_bind_pure]
      cases paths with
      | ok found => cases Outcome.returned.inj hfinish
      | error problem =>
        obtain rfl := Except.error.inj (Outcome.returned.inj hfinish)
        rcases Fanout.resolve_eq_error hpaths with ⟨rfl, htoken⟩ | ⟨text, rfl⟩
        · exact .givenUp htoken
        · obtain ⟨version, record, hversion, hrelease, hprotocol, hanswer⟩ :=
            record_of_refs hdraft hrefs
          exact .brokenDown hversion hrelease hprotocol hanswer

def AllRefused (r : Resolver) (strategy : Strategy) (batch : Batch) : Prop :=
  ∀ entry ∈ batch.specs, ∀ cause, entry.2 = .settled (.error cause) →
    r.Refusal strategy entry.1 batch.cancelled cause

namespace AllRefused

variable {batch next : Batch} {i : Nat} {progress : Progress} {token : Bool}

theorem start (r : Resolver) (strategy : Strategy) (specs : List String) (cancelled : Bool) :
    r.AllRefused strategy (.start specs cancelled) := by
  intro entry hentry cause hsettled
  obtain ⟨text, -, rfl⟩ := List.mem_map.1 hentry
  cases hsettled

theorem withProgress (h : r.AllRefused strategy batch)
    (htoken : batch.cancelled = true → token = true)
    (hnew : ∀ cause, progress = .settled (.error cause) → r.Refusal strategy written token cause) :
    r.AllRefused strategy (batch.withProgress i written progress token) := by
  intro entry hentry cause hsettled
  rcases List.mem_or_eq_of_mem_set hentry with hold | rfl
  · exact (h entry hold cause hsettled).of_token htoken
  · exact hnew cause hsettled

private theorem of_spec (h : Progress.ofSpec strategy written = .settled (.error cause)) :
    r.Refusal strategy written token cause := by
  rw [Progress.ofSpec] at h
  split at h
  · next problem hinquiry =>
    obtain ⟨hversion, rfl⟩ := Inquiry.ofSpec_eq_error hinquiry
    obtain rfl := Except.error.inj (Progress.settled.inj h)
    exact .bare hversion
  · cases h

private theorem of_draft {cacheUrl : String} {drafted : Except Error Draft}
    (h : Progress.ofDraft cacheUrl drafted = .settled (.error cause)) : drafted = .error cause := by
  cases drafted with
  | error problem => exact congrArg Except.error (Except.error.inj (Progress.settled.inj h))
  | ok draft =>
    rw [Progress.ofDraft] at h
    split at h
    · cases Progress.settled.inj h
    · cases h

private theorem of_fanout {draft : Draft} {fanout : Fanout.Progress}
    {paths : Except Error (SortedMap String)}
    (htraced : r.Traced strategy written token (.fetching draft fanout))
    (hresult : fanout.result = some paths) (h : finish draft paths = .error cause) :
    r.Refusal strategy written token cause := by
  cases paths with
  | ok found => cases h
  | error problem =>
    obtain rfl := Except.error.inj h
    obtain ⟨refs, hsound⟩ := sound_of_traced htraced
    cases hsound.result _ hresult with
    | cancelled htoken => exact .givenUp htoken
    | brokenDown _ _ =>
      obtain ⟨_, _, refs, -, hdraft, hrefs, -⟩ := htraced
      obtain ⟨version, record, hversion, hrelease, hprotocol, hanswer⟩ :=
        record_of_refs hdraft hrefs
      exact .brokenDown hversion hrelease hprotocol hanswer

theorem step (h : r.AllRefused strategy batch) (htraced : r.AllTraced strategy batch)
    (hstep : Step r strategy batch next) : r.AllRefused strategy next := by
  -- A token never goes back, so a reason that was given with an earlier token still stands.
  cases hstep with
  | start hspec => exact h.withProgress id fun cause hsettled => of_spec hsettled
  | @answer i written inquiry drafted hspec hanswer =>
    refine h.withProgress (fun htoken => by simp [htoken]) fun cause hsettled => ?_
    obtain rfl := of_draft hsettled
    refine (refusal_of_ask (htraced.get hspec) hanswer).of_token fun htoken => ?_
    rw [htoken, Bool.or_true]
  | fetch hspec hstep =>
    exact h.withProgress hstep.token_mono fun cause hsettled => by cases hsettled
  | settle hspec hresult =>
    refine h.withProgress id fun cause hsettled => ?_
    exact of_fanout (htraced.get hspec) hresult (Progress.settled.inj hsettled)
  | cancel =>
    exact fun entry hentry cause hsettled => (h entry hentry cause hsettled).of_token fun _ => rfl

theorem run (h : r.AllRefused strategy batch) (htraced : r.AllTraced strategy batch)
    (hrun : Reaches r strategy batch next) : r.AllRefused strategy next := by
  induction hrun with
  | refl => exact h
  | tail hbefore hstep ih => exact ih.step (htraced.run hbefore) hstep

end AllRefused

theorem FailsWith.refusal {token : Bool} (h : r.FailsWith strategy written cause token) :
    r.Refusal strategy written token cause := by
  cases h with
  | alone hresolve => exact refusal_of_resolve hresolve
  | @beside specs cancelled batch hrun hspec =>
    have htraced := AllTraced.start r strategy specs cancelled
    exact (AllRefused.start r strategy specs cancelled).run htraced hrun _ hspec cause rfl

end Failing

end Resolver

end Pinning
