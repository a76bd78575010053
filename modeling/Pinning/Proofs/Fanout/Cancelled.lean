import Pinning.Proofs.Cancellation
import Pinning.Proofs.Fanout.Advance
import Pinning.Proofs.Fanout.Whole
/-!
A fan-out whose token is cancelled while a lookup is under way. Carried out task by task it gives
way if its lookups do. In any other order, every step that is left leads downwards, and the fan-out
gives up before it has taken notice of the end of every task.
-/

set_option autoImplicit false
set_option relaxedAutoImplicit false

namespace Pinning.Fanout

open Activity (course_bind_of_returned)
open Http (Network)

section Alone

variable {f : Fanout} {network : Network}

theorem exists_outcome_tasks (f : Fanout) (refs : Refs) (cancelled : Bool) :
    ∃ endings, ((f.tasks refs).course cancelled).outcome = .returned endings := by
  induction refs generalizing cancelled with
  | nil => exact ⟨[], rfl⟩
  | cons entry rest ih =>
    obtain ⟨endings, hrest⟩ := ih (f.lookupCourse entry.2 cancelled).cancelled
    exact ⟨_, by rw [f.course_tasks_cons entry.1 entry.2 rest cancelled hrest]⟩

theorem keepsToken_task (hkeeps : f.KeepsToken) (ref : Store.Ref) : (f.task ref).KeepsToken :=
  hkeeps ref f.cacheUrl

theorem keepsToken_tasks (hkeeps : f.KeepsToken) (refs : Refs) : (f.tasks refs).KeepsToken := by
  induction refs with
  | nil => exact Activity.keepsToken_pure _
  | cons entry rest ih =>
    exact (keepsToken_task hkeeps entry.2).bind fun _ => ih.bind fun _ => Activity.keepsToken_pure _

theorem heeds_tasks (hkeeps : f.KeepsToken)
    (hheeds : ∀ ref cacheUrl, (f.lookup ref cacheUrl).Heeds network) (refs : Refs) :
    (f.tasks refs).Heeds network := by
  have htask : ∀ ref, (f.task ref).Heeds network := by
    intro ref
    refine (Activity.heeds_note (by simp)).bind fun _ => ?_
    exact ⟨hkeeps ref f.cacheUrl, Activity.heeds_asTask (hheeds ref f.cacheUrl)⟩
  induction refs with
  | nil => exact Activity.heeds_pure network _
  | cons entry rest ih =>
    refine (htask entry.2).bind fun ending => ⟨?_, ?_⟩
    · exact (keepsToken_tasks hkeeps rest).bind fun _ => Activity.keepsToken_pure _
    · exact ih.bind fun _ => ⟨Activity.keepsToken_pure _, Activity.heeds_pure network _⟩

theorem givesWay_resolve (hkeeps : f.KeepsToken)
    (hheeds : ∀ ref cacheUrl, (f.lookup ref cacheUrl).Heeds network) (refs : Refs) :
    (f.resolve refs).GivesWay network (.error .cancelled) := by
  obtain ⟨endings, hendings⟩ := exists_outcome_tasks f (wanted refs) false
  have hcourse : (f.resolve refs).course false
      = ⟨((f.tasks (wanted refs)).course false).events ++ [],
          ((f.tasks (wanted refs)).course false).cancelled,
          gather ((f.tasks (wanted refs)).course false).cancelled endings⟩ :=
    course_bind_of_returned (f := join) hendings
  have htasks := heeds_tasks hkeeps hheeds (wanted refs)
  refine { token := rfl, heeds := ?_, silent := ?_, ends := ?_ }
  · intro cancelled request hsent hheld
    cases cancelled with
    | true => rfl
    | false =>
      rw [hcourse] at hsent ⊢
      rw [List.append_nil] at hsent
      exact htasks false request hsent hheld
  · intro request hsent
    cases hsent
  · intro cancelled htoken
    cases cancelled with
    | true => rfl
    | false =>
      rw [hcourse] at htoken ⊢
      simp only at htoken
      simp [htoken, gather]

end Alone

section Schedule

variable {b : Behaviour} {p q : Progress} {after : Bool}

/-- The number of steps that a fan-out whose token is cancelled can still take. -/
def Progress.left (p : Progress) : Nat := 2 * p.ahead + if p.looked then 1 else 0

theorem Step.left_lt (h : Step b (true, p) (after, q)) (hne : q ≠ p) : q.left < p.left := by
  have hcongr : ∀ p q : Progress, q.looked = p.looked → q.ahead < p.ahead → q.left < p.left := by
    intro p q hlooked hahead
    rw [Progress.left, Progress.left, hlooked]
    omega
  cases h with
  | work hresult hjobs hmove => exact hcongr _ _ rfl (ahead_lt_of_job hjobs rfl rfl hmove.ahead_lt)
  | cancel => exact absurd rfl hne
  | wait hresult hlooked =>
    have hahead : Progress.ahead { p with looked := false } = p.ahead := rfl
    simp [Progress.left, hahead, hlooked]
  | giveUp hresult hlooked => exact hcongr _ _ rfl (ahead_lt_of_result rfl hresult rfl)
  | @notice _ _ left right job answer hresult hlooked hjobs hphase =>
    have hahead : (p.notice left job right answer).ahead < p.ahead := by
      refine ahead_lt_of_job hjobs rfl rfl ?_
      rw [hphase]
      exact Nat.one_pos
    have hunlooked : (p.notice left job right answer).looked = false := rfl
    rw [Progress.left, Progress.left, hunlooked, hlooked]
    simp only [Bool.false_eq_true, if_false, if_true]
    omega
  | breakDown hresult _ _ _ => exact hcongr _ _ rfl (ahead_lt_of_result rfl hresult rfl)
  | finish hresult _ _ => exact hcongr _ _ rfl (ahead_lt_of_result rfl hresult rfl)

/-- Some task is not over, or the fan-out has not taken notice of its end. -/
def Unfinished (p : Progress) : Prop := ∃ job ∈ p.jobs, ∀ answer, job.phase ≠ .noticed answer

variable {cacheUrl : String} {refs : Refs} {token : Bool}

theorem Sound.partly (h : Sound b cacheUrl refs (token, p)) (hunfinished : Unfinished p)
    (m : SortedMap String) : p.result ≠ some (.ok m) := by
  intro hresult
  obtain ⟨job, hjob, hnot⟩ := hunfinished
  cases h.result _ hresult with
  | whole hjobs =>
    obtain ⟨answer, hphase⟩ := hjobs job hjob
    exact hnot answer hphase

theorem Sound.doomed (h : Sound b cacheUrl refs (token, p)) (hunfinished : Unfinished p) :
    Doomed (true, p) where
  token := rfl
  unnoticed _ := by
    obtain ⟨job, hjob, hnot⟩ := hunfinished
    exact ⟨job, hjob, fun ⟨answer, hphase⟩ => hnot answer hphase⟩
  partly := h.partly hunfinished

theorem Sound.doomed_of_step (h : Sound b cacheUrl refs (token, p)) (hunfinished : Unfinished p)
    (hstep : Step b (token, p) (true, q)) : Doomed (true, q) := by
  cases token with
  | true => exact (h.doomed hunfinished).step hstep
  | false =>
    cases hstep with
    | work hresult hjobs hmove => exact .of_move hresult hmove
    | cancel => exact h.doomed hunfinished

theorem Doomed.result_eq (h : Doomed (true, p)) (hsound : Sound b cacheUrl refs (true, p))
    (hcalm : ∀ ref cacheUrl before after, ¬b ref cacheUrl before after .panicked)
    {r : Except Error (SortedMap String)} (hresult : p.result = some r) :
    r = .error .cancelled := by
  cases hsound.result r hresult with
  | whole hjobs => exact absurd hresult (h.partly _)
  | cancelled _ => rfl
  | brokenDown hjob hphase =>
    obtain ⟨before, after, hpanic⟩ := hsound.endings _ hjob .panicked (by rw [hphase]; rfl)
    exact absurd hpanic (hcalm _ _ _ _)

theorem exists_step_of_cancelled (hresult : p.result = none) :
    ∃ q, Step b (true, p) (true, q) ∧ q ≠ p := by
  -- A fan-out that has looked at the token before it was cancelled has to wait until it looks
  -- again.
  cases hlooked : p.looked with
  | true =>
    refine ⟨_, .wait hresult hlooked, fun heq => ?_⟩
    have hsame := congrArg Progress.looked heq
    cases hsame.trans hlooked
  | false =>
    refine ⟨_, .giveUp hresult hlooked, fun heq => ?_⟩
    have hsame := congrArg Progress.result heq
    cases hsame.trans hresult

end Schedule

end Pinning.Fanout
