import Pinning.Fanout.Schedule
import Pinning.Proofs.Activity
import Pinning.Proofs.Inevitable
/-!
A fan-out whose token is not cancelled comes to a result. It may look at the token and wait any
number of times, but between two strides only finitely often, and the strides lead downwards: each
task goes through its phases once, and the fan-out notices each end once.
-/

set_option autoImplicit false
set_option relaxedAutoImplicit false

namespace Pinning.Fanout

/-- A step that leaves all tasks where they are and brings no result, with a token that is not
cancelled. -/
def Idles (b : Behaviour) (p q : Progress) : Prop :=
  Step b (false, p) (false, q) ∧ q.jobs = p.jobs ∧ q.result = p.result

/-- A step that brings a task further or a result, with a token that is not cancelled. -/
def Strides (b : Behaviour) (p q : Progress) : Prop :=
  Step b (false, p) (false, q) ∧ (q.jobs ≠ p.jobs ∨ q.result ≠ p.result)

/-- A stride after any finite number of idle steps. -/
def Advances (b : Behaviour) (p q : Progress) : Prop :=
  ∃ mid, Relation.ReflTransGen (Idles b) p mid ∧ Strides b mid q

def Phase.ahead : Phase → Nat
  | .ready => 4
  | .asking => 3
  | .holding _ => 2
  | .ended _ => 1
  | .panicked | .noticed _ => 0

def aheadOf : List Job → Nat
  | [] => 0
  | job :: rest => job.phase.ahead + aheadOf rest

def Progress.ahead (p : Progress) : Nat :=
  aheadOf p.jobs + if p.result.isNone then 1 else 0

/-- A store that returns an answer to every call, and always the same one to the same call. -/
def Answers (f : Fanout) (answer : Store.Ref → String → Except Store.Error String) : Prop :=
  ∀ ref cacheUrl, (f.lookup ref cacheUrl).Returns (answer ref cacheUrl)

/-- No lookup cancels a token that is not cancelled. -/
def Quiet (f : Fanout) : Prop := ∀ ref cacheUrl, (f.lookup ref cacheUrl).Quiet

def Calm (f : Fanout) : Prop :=
  ∀ ref cacheUrl, ((f.lookup ref cacheUrl).course false).outcome ≠ .panicked

/-- Every lookup comes to an end, be it a panic, if the token is not cancelled. -/
def Ends (f : Fanout) : Prop :=
  ∀ ref cacheUrl, ((f.lookup ref cacheUrl).course false).outcome ≠ .unanswered

theorem Answers.quiet {f : Fanout} {answer : Store.Ref → String → Except Store.Error String}
    (h : f.Answers answer) : f.Quiet := fun ref cacheUrl => (h ref cacheUrl).token

theorem Answers.ends {f : Fanout} {answer : Store.Ref → String → Except Store.Error String}
    (h : f.Answers answer) : f.Ends := by
  intro ref cacheUrl hwait
  cases (h ref cacheUrl).outcome.symm.trans hwait

theorem Answers.calm {f : Fanout} {answer : Store.Ref → String → Except Store.Error String}
    (h : f.Answers answer) : f.Calm := by
  intro ref cacheUrl hpanic
  cases (h ref cacheUrl).outcome.symm.trans hpanic

variable {b : Behaviour} {p q : Progress}

theorem Move.ahead_lt {job : Job} {token after : Bool} {phase : Phase}
    (h : Move b job token after phase) : phase.ahead < job.phase.ahead := by
  cases h with
  | ask hphase | give hphase _ | fail hphase _ | panic hphase _ | put hphase =>
    rw [hphase]
    simp [Phase.ahead]

private theorem aheadOf_append (left right : List Job) :
    aheadOf (left ++ right) = aheadOf left + aheadOf right := by
  induction left with
  | nil => simp [aheadOf]
  | cons job rest ih =>
    simp only [List.cons_append, aheadOf, ih]
    omega

theorem ahead_lt_of_job {left right : List Job} {job : Job} {phase : Phase}
    (hjobs : p.jobs = left ++ job :: right) (hnew : q.jobs = left ++ job.enter phase :: right)
    (hresult : q.result = p.result) (hlt : phase.ahead < job.phase.ahead) : q.ahead < p.ahead := by
  simp only [Progress.ahead, hjobs, hnew, hresult, aheadOf_append, aheadOf, Job.enter]
  omega

theorem ahead_lt_of_result {r : Except Error (SortedMap String)} (hjobs : q.jobs = p.jobs)
    (hresult : p.result = none) (hnew : q.result = some r) : q.ahead < p.ahead := by
  simp [Progress.ahead, hjobs, hresult, hnew]

theorem Strides.ahead_lt (h : Strides b p q) : q.ahead < p.ahead := by
  obtain ⟨hstep, hchange⟩ := h
  cases hstep with
  | work hresult hjobs hmove => exact ahead_lt_of_job hjobs rfl rfl hmove.ahead_lt
  | look _ => simp at hchange
  | wait _ _ => simp at hchange
  | notice hresult _ hjobs hphase =>
    refine ahead_lt_of_job hjobs rfl rfl ?_
    rw [hphase]
    simp [Phase.ahead]
  | breakDown hresult _ _ _ => exact ahead_lt_of_result rfl hresult rfl
  | finish hresult _ _ => exact ahead_lt_of_result rfl hresult rfl

theorem ahead_congr (hjobs : q.jobs = p.jobs) (hresult : q.result = p.result) :
    q.ahead = p.ahead := by
  rw [Progress.ahead, Progress.ahead, hjobs, hresult]

private theorem ahead_eq_of_idles (h : Relation.ReflTransGen (Idles b) p q) :
    q.ahead = p.ahead := by
  induction h with
  | refl => rfl
  | tail _ hidle ih => exact (ahead_congr hidle.2.1 hidle.2.2).trans ih

theorem Advances.ahead_lt (h : Advances b p q) : q.ahead < p.ahead := by
  obtain ⟨mid, hidles, hstride⟩ := h
  rw [← ahead_eq_of_idles hidles]
  exact hstride.ahead_lt

theorem Advances.reaches (h : Advances b p q) : Reaches b (false, p) (false, q) := by
  obtain ⟨mid, hidles, hstride⟩ := h
  have hmid : Reaches b (false, p) (false, mid) :=
    hidles.lift (fun p => (false, p)) fun _ _ hidle => hidle.1
  exact hmid.tail hstride.1

private theorem strides_of_job {left right : List Job} {job : Job} {phase : Phase}
    (hstep : Step b (false, p) (false, q)) (hjobs : p.jobs = left ++ job :: right)
    (hnew : q.jobs = left ++ job.enter phase :: right) (hresult : q.result = p.result)
    (hlt : phase.ahead < job.phase.ahead) : Strides b p q := by
  refine ⟨hstep, .inl fun heq => ?_⟩
  have hless := ahead_lt_of_job hjobs hnew hresult hlt
  rw [ahead_congr heq hresult] at hless
  exact Nat.lt_irrefl _ hless

theorem strides_of_move {left right : List Job} {job : Job} {phase : Phase}
    (hresult : p.result = none) (hjobs : p.jobs = left ++ job :: right)
    (hmove : Move b job false false phase) : Strides b p (p.enter left job right phase) :=
  strides_of_job (.work hresult hjobs hmove) hjobs rfl rfl hmove.ahead_lt

theorem exists_advances {f : Fanout} (hquiet : f.Quiet) (hends : f.Ends)
    (hresult : p.result = none) :
    ∃ q, Advances f.behaviour p q := by
  have hlook : Relation.ReflTransGen (Idles f.behaviour) p { p with looked := true } :=
    .single ⟨.look hresult, rfl, rfl⟩
  by_cases hdone : ∀ job ∈ p.jobs, ∃ answer, job.phase = .noticed answer
  · exact ⟨_, _, hlook, .finish hresult rfl hdone, .inr (by simp [hresult])⟩
  · simp only [Classical.not_forall] at hdone
    obtain ⟨job, hjob, hphase⟩ := hdone
    obtain ⟨left, right, hjobs⟩ := List.append_of_mem hjob
    cases hnow : job.phase with
    | ready => exact ⟨_, p, .refl, strides_of_move hresult hjobs (.ask hnow)⟩
    | asking =>
      have htoken := hquiet job.ref job.cacheUrl
      cases hending : ((f.lookup job.ref job.cacheUrl).course false).outcome with
      | returned answer =>
        cases answer with
        | ok path =>
          exact ⟨_, p, .refl, strides_of_move hresult hjobs (.give hnow ⟨htoken, hending⟩)⟩
        | error cause =>
          exact ⟨_, p, .refl, strides_of_move hresult hjobs (.fail hnow ⟨htoken, hending⟩)⟩
      | panicked =>
        exact ⟨_, p, .refl, strides_of_move hresult hjobs (.panic hnow ⟨htoken, hending⟩)⟩
      | unanswered => exact absurd hending (hends job.ref job.cacheUrl)
    | holding path => exact ⟨_, p, .refl, strides_of_move hresult hjobs (.put hnow)⟩
    | ended found =>
      have hstep : Step f.behaviour (false, { p with looked := true })
          (false, Progress.notice { p with looked := true } left job right found) :=
        .notice hresult rfl hjobs hnow
      exact ⟨_, _, hlook, strides_of_job hstep hjobs rfl rfl (by rw [hnow]; exact Nat.one_pos)⟩
    | panicked =>
      have hstep : Step f.behaviour (false, { p with looked := true })
          (false, { p with looked := true, result := some (.error (.fanout "")) }) :=
        .breakDown hresult rfl hjob hnow
      exact ⟨_, _, hlook, hstep, .inr (by simp [hresult])⟩
    | noticed found => exact absurd ⟨found, hnow⟩ hphase

end Pinning.Fanout
