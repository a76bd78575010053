import Mathlib.Data.List.Forall2
import Pinning.Proofs.Fanout.Endings
import Pinning.Resolver.Batch
/-!
Resolving several specs together, carried out in order, is resolving each alone. It returns exactly
if each spec returns alone, and then each is paired with what it comes to alone.
-/

set_option autoImplicit false
set_option relaxedAutoImplicit false

namespace Pinning.Resolver

open Activity (course_bind_of_returned outcome_bind_eq_returned outcome_bind_of_unanswered
  returns_pure returns_isCancelled)

variable {r : Resolver} {strategy : Strategy} {written : String}

def outcomeAlone (r : Resolver) (strategy : Strategy) (written : String) :
    Outcome (Except Error Package) :=
  ((r.resolve strategy written).course false).outcome

def WorksTo (r : Resolver) (stage : Stage) (outcome : Outcome (Except Error Package)) : Prop :=
  ∃ verdict, (r.work stage).Returns verdict ∧ verdict false = outcome

theorem quiet_resolve (h : (r.draft strategy written).Steady) (hfanout : r.fanout.Quiet) :
    (r.resolve strategy written).Quiet := by
  refine h.quiet.bind fun drafted => ?_
  cases drafted with
  | error cause => rfl
  | ok draft =>
    change (r.complete draft).Quiet
    rw [complete]
    split
    · rfl
    · next refs _ =>
      refine Activity.Quiet.bind ?_ fun _ => rfl
      rw [Activity.Quiet, Fanout.course_resolve hfanout]

section Stages

private theorem worksTo_settled (result : Except Error Package) :
    WorksTo r (.settled result) (.returned result) := ⟨_, returns_pure _, rfl⟩

private theorem worksTo_asking : WorksTo r .asking .unanswered := ⟨_, returns_pure _, rfl⟩

private theorem worksTo_fetching (hfanout : r.fanout.Quiet) {draft : Draft} {refs : Fanout.Refs}
    (hrefs : draft.refs = some refs) :
    WorksTo r (.fetching draft (Fanout.wanted refs)) ((r.complete draft).course false).outcome := by
  have htasks := Fanout.course_tasks hfanout (Fanout.wanted refs)
  have hendings : (r.fanout.tasks (Fanout.wanted refs)).Returns
      (r.fanout.endings (Fanout.wanted refs)) :=
    ⟨by rw [htasks], by rw [htasks]⟩
  refine ⟨_, returns_isCancelled.bind (hendings.bind (returns_pure _)), ?_⟩
  have hcourse := Fanout.course_resolve hfanout refs
  rw [complete, hrefs]
  cases hgather : Fanout.gather false (r.fanout.endings (Fanout.wanted refs)) with
  | returned paths =>
    rw [hgather] at hcourse
    have hpaths : ((r.fanout.resolve refs).course false).outcome = .returned paths := by
      rw [hcourse]
    rw [course_bind_of_returned hpaths]
    rfl
  | panicked =>
    -- The panic of a lookup is a result of the fan-out, which does not panic itself.
    simp only [Fanout.gather, Bool.false_eq_true, if_false] at hgather
    split at hgather
    · cases hgather
    · split at hgather <;> cases hgather
  | unanswered =>
    rw [hgather] at hcourse
    exact (outcome_bind_of_unanswered (by rw [hcourse])).symm

private theorem startFanout_worksTo (hfanout : r.fanout.Quiet) {draft : Draft} {refs : Fanout.Refs}
    (hrefs : draft.refs = some refs) :
    ∃ stage, (r.startFanout draft refs).Returns stage
      ∧ WorksTo r stage ((r.complete draft).course false).outcome := by
  rw [startFanout]
  cases hwanted : Fanout.wanted refs with
  | nil =>
    have hcourse : (r.fanout.resolve refs).course false = (r.fanout.resolve []).course false := by
      rw [Fanout.course_resolve hfanout, Fanout.course_resolve hfanout, hwanted]
      rfl
    have hnone : (r.fanout.resolve []).Returns (.ok (Fanout.found [])) := ⟨rfl, rfl⟩
    refine ⟨_, hnone.bind (returns_pure _), ?_⟩
    rw [complete, hrefs, course_bind_of_returned (by rw [hcourse, hnone.outcome])]
    exact worksTo_settled _
  | cons first rest =>
    refine ⟨_, returns_pure _, ?_⟩
    rw [← hwanted]
    exact worksTo_fetching hfanout hrefs

theorem start_worksTo (h : (r.draft strategy written).Steady) (hfanout : r.fanout.Quiet) :
    ∃ stage, (r.start strategy written).Returns stage
      ∧ WorksTo r stage (r.outcomeAlone strategy written) := by
  have hdrafted : ((r.draft strategy written).asTask).Returns
      ((r.draft strategy written).course false).outcome :=
    ⟨h.quiet, rfl⟩
  have hstart : ∀ {stage},
      (r.startWith ((r.draft strategy written).course false).outcome).Returns stage →
      (r.start strategy written).Returns stage := hdrafted.bind
  have hquiet := h.quiet
  rw [Activity.Quiet] at hquiet
  rw [outcomeAlone, resolve]
  cases hdraft : ((r.draft strategy written).course false).outcome with
  | panicked => exact absurd hdraft h.calm
  | unanswered =>
    rw [hdraft] at hstart
    refine ⟨_, hstart (returns_pure _), ?_⟩
    rw [outcome_bind_of_unanswered hdraft]
    exact worksTo_asking
  | returned drafted =>
    rw [hdraft] at hstart
    rw [course_bind_of_returned hdraft, hquiet]
    cases drafted with
    | error cause => exact ⟨_, hstart (returns_pure _), worksTo_settled _⟩
    | ok draft =>
      cases hrefs : draft.refs with
      | none =>
        refine ⟨.settled (.ok draft.package), hstart ?_, ?_⟩
        · simp only [startWith, hrefs]
          exact returns_pure _
        · simp only [complete, hrefs]
          exact worksTo_settled _
      | some refs =>
        obtain ⟨stage, hfan, hworks⟩ := startFanout_worksTo hfanout hrefs
        refine ⟨stage, hstart ?_, hworks⟩
        simp only [startWith, hrefs]
        exact hfan

end Stages

section Together

variable {specs : List String}

private theorem startAll_worksTo (h : ∀ written ∈ specs, (r.draft strategy written).Steady)
    (hfanout : r.fanout.Quiet) :
    ∃ stages verdicts, (r.startAll strategy specs).Returns stages
      ∧ (r.workAll stages).Returns verdicts
      ∧ verdicts.map (· false) = specs.map (r.outcomeAlone strategy) := by
  induction specs with
  | nil => exact ⟨[], [], returns_pure _, returns_pure _, rfl⟩
  | cons written rest ih =>
    obtain ⟨stage, hstart, verdict, hwork, hverdict⟩ :=
      start_worksTo (h written List.mem_cons_self) hfanout
    obtain ⟨stages, verdicts, hstarts, hworks, hverdicts⟩ :=
      ih fun other hother => h other (List.mem_cons_of_mem _ hother)
    refine ⟨stage :: stages, verdict :: verdicts, ?_, ?_, ?_⟩
    · exact hstart.bind (hstarts.bind (returns_pure _))
    · exact hwork.bind (hworks.bind (returns_pure _))
    · rw [List.map_cons, List.map_cons, hverdict, hverdicts]

private theorem quiet_conclude (verdicts : List Verdict) : (conclude false verdicts).Quiet := by
  induction verdicts with
  | nil => rfl
  | cons verdict rest ih => exact Activity.Quiet.bind rfl fun _ => ih.bind fun _ => rfl

private theorem outcome_conclude_eq_returned {verdicts : List Verdict}
    {results : List (Except Error Package)} :
    ((conclude false verdicts).course false).outcome = .returned results
      ↔ verdicts.map (· false) = results.map .returned := by
  induction verdicts generalizing results with
  | nil =>
    have hnil : ((conclude false []).course false).outcome = .returned [] := rfl
    rw [hnil]
    cases results <;> simp
  | cons verdict rest ih =>
    rw [conclude, outcome_bind_eq_returned]
    constructor
    · rintro ⟨result, hresult, hrest⟩
      obtain ⟨others, hothers, hpure⟩ := outcome_bind_eq_returned.1 hrest
      obtain rfl := Outcome.returned.inj hpure
      rw [List.map_cons, List.map_cons, ih.1 hothers]
      exact congrArg (· :: _) hresult
    · intro hverdicts
      cases results with
      | nil => simp at hverdicts
      | cons result others =>
        obtain ⟨hresult, hothers⟩ := List.cons.inj hverdicts
        refine ⟨result, hresult, ?_⟩
        exact outcome_bind_eq_returned.2 ⟨others, ih.2 hothers, rfl⟩

variable (h : ∀ written ∈ specs, (r.draft strategy written).Steady) (hfanout : r.fanout.Quiet)
include h hfanout

theorem quiet_resolveAll : (r.resolveAll strategy specs).Quiet := by
  obtain ⟨stages, verdicts, hstarts, hworks, -⟩ := startAll_worksTo h hfanout
  refine hstarts.quiet_bind (hworks.quiet_bind ?_)
  exact returns_isCancelled.quiet_bind ((quiet_conclude verdicts).bind fun _ => rfl)

private theorem outcome_resolveAll_iff {results : List (String × Except Error Package)} :
    ((r.resolveAll strategy specs).course false).outcome = .returned results
      ↔ ∃ values, specs.map (r.outcomeAlone strategy) = values.map .returned
        ∧ specs.zip values = results := by
  obtain ⟨stages, verdicts, hstarts, hworks, hverdicts⟩ := startAll_worksTo h hfanout
  rw [resolveAll, hstarts.outcome_bind, hworks.outcome_bind, returns_isCancelled.outcome_bind,
    outcome_bind_eq_returned, ← hverdicts]
  refine exists_congr fun values => ?_
  rw [outcome_conclude_eq_returned]
  exact and_congr_right fun _ => ⟨Outcome.returned.inj, congrArg Outcome.returned⟩

theorem outcome_resolveAll_eq_returned {results : List (String × Except Error Package)} :
    ((r.resolveAll strategy specs).course false).outcome = .returned results
      ↔ results.map Prod.fst = specs
        ∧ ∀ entry ∈ results, (r.resolve strategy entry.1).Returns entry.2 := by
  have hreturns : ∀ written ∈ specs, ∀ result,
      r.outcomeAlone strategy written = .returned result
        ↔ (r.resolve strategy written).Returns result :=
    fun written hwritten result =>
      ⟨fun hresult => ⟨quiet_resolve (h written hwritten) hfanout, hresult⟩,
      fun hresult => hresult.outcome⟩
  rw [outcome_resolveAll_iff h hfanout]
  constructor
  · rintro ⟨values, hvalues, rfl⟩
    have hrelated : List.Forall₂
        (fun written result => r.outcomeAlone strategy written = .returned result)
        specs values := by
      rw [← List.forall₂_map_right_iff, ← List.forall₂_map_left_iff, hvalues]
      exact List.forall₂_same.2 fun _ _ => rfl
    obtain ⟨hlength, hzip⟩ := List.forall₂_iff_zip.1 hrelated
    refine ⟨List.map_fst_zip (Nat.le_of_eq hlength), fun entry hentry => ?_⟩
    exact (hreturns _ (List.of_mem_zip hentry).1 _).1 (hzip hentry)
  · rintro ⟨rfl, hresults⟩
    refine ⟨results.map Prod.snd, ?_, (List.zip_of_prod rfl rfl).symm⟩
    rw [List.map_map, List.map_map]
    exact List.map_congr_left fun entry hentry => (hresults entry hentry).outcome

theorem returns_resolveAll {alone : String → Except Error Package}
    (halone : ∀ written ∈ specs, (r.resolve strategy written).Returns (alone written)) :
    (r.resolveAll strategy specs).Returns (specs.map fun written => (written, alone written)) := by
  refine ⟨quiet_resolveAll h hfanout, (outcome_resolveAll_eq_returned h hfanout).2 ⟨?_, ?_⟩⟩
  · rw [List.map_map]
    exact List.map_id specs
  · intro entry hentry
    obtain ⟨written, hwritten, rfl⟩ := List.mem_map.1 hentry
    exact halone written hwritten

end Together

end Pinning.Resolver
