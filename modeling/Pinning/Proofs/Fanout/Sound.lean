import Mathlib.Data.List.Nodup
import Pinning.Fanout.Schedule
import Pinning.Proofs.Maps
/-!
What holds of a fan-out at every moment, in whatever order its tasks take their steps: the tasks are
those that were launched, the paths put down are those of the tasks that are over, and the result
says how the fan-out ended.
-/

set_option autoImplicit false
set_option relaxedAutoImplicit false

namespace Pinning.Fanout

def Phase.path? : Phase → Option String
  | .ended (.ok path) | .noticed (.ok path) => some path
  | _ => none

def Phase.ending? : Phase → Option (Outcome (Except Store.Error String))
  | .holding path => some (.returned (.ok path))
  | .ended answer | .noticed answer => some (.returned answer)
  | .panicked => some .panicked
  | _ => none

def Phase.isAsked : Phase → Bool
  | .ready => false
  | _ => true

namespace Job

def order (job : Job) : String × Store.Ref × String := (job.platform, job.ref, job.cacheUrl)

def lookup (job : Job) : Store.Ref × String := (job.ref, job.cacheUrl)

@[simp] theorem order_enter (job : Job) (phase : Phase) : (job.enter phase).order = job.order := rfl
@[simp] theorem lookup_enter (job : Job) (phase : Phase) :
    (job.enter phase).lookup = job.lookup := rfl
@[simp] theorem platform_enter (job : Job) (phase : Phase) :
    (job.enter phase).platform = job.platform := rfl
@[simp] theorem ref_enter (job : Job) (phase : Phase) : (job.enter phase).ref = job.ref := rfl
@[simp] theorem cacheUrl_enter (job : Job) (phase : Phase) :
    (job.enter phase).cacheUrl = job.cacheUrl := rfl
@[simp] theorem phase_enter (job : Job) (phase : Phase) : (job.enter phase).phase = phase := rfl

end Job

/-- Why a fan-out ended with a result. -/
inductive Explained (s : Bool × Progress) : Except Error (SortedMap String) → Prop
  | whole (hjobs : ∀ job ∈ s.2.jobs, ∃ answer, job.phase = .noticed answer) :
      Explained s (.ok s.2.paths)
  | cancelled (htoken : s.1 = true) : Explained s (.error .cancelled)
  | brokenDown {job : Job} {problem : String} (hjob : job ∈ s.2.jobs)
      (hphase : job.phase = .panicked) : Explained s (.error (.fanout problem))

/-- What holds of a fan-out at every moment. -/
structure Sound (b : Behaviour) (cacheUrl : String) (refs : Refs) (s : Bool × Progress) : Prop where
  launched : s.2.jobs.map Job.order = (wanted refs).map fun entry => (entry.1, entry.2, cacheUrl)
  paths : ∀ platform path, s.2.paths.get? platform = some path
    ↔ ∃ job ∈ s.2.jobs, job.platform = platform ∧ job.phase.path? = some path
  asked : s.2.asked.Perm ((s.2.jobs.filter fun job => job.phase.isAsked).map Job.lookup)
  endings : ∀ job ∈ s.2.jobs, ∀ ending, job.phase.ending? = some ending →
    ∃ before after, b job.ref job.cacheUrl before after ending
  result : ∀ r, s.2.result = some r → Explained s r

section

variable {b : Behaviour} {cacheUrl : String} {refs : Refs}

theorem forall_mem_enter {left right : List Job} {job : Job} {phase : Phase} {P : Job → Prop}
    (hold : ∀ other ∈ left ++ job :: right, P other) (hnew : P (job.enter phase)) :
    ∀ other ∈ left ++ job.enter phase :: right, P other := by
  intro other hother
  rcases List.mem_append.1 hother with hleft | hright
  · exact hold other (List.mem_append_left _ hleft)
  · rcases List.mem_cons.1 hright with rfl | hright
    · exact hnew
    · exact hold other (List.mem_append_right _ (List.mem_cons_of_mem _ hright))

private theorem exists_mem_middle {left right : List Job} {job : Job} {P : Job → Prop} :
    (∃ other ∈ left ++ job :: right, P other)
      ↔ P job ∨ ∃ other ∈ left ++ right, P other := by
  simp only [List.mem_append, List.mem_cons]
  constructor
  · rintro ⟨other, hleft | rfl | hright, hP⟩
    · exact .inr ⟨other, .inl hleft, hP⟩
    · exact .inl hP
    · exact .inr ⟨other, .inr hright, hP⟩
  · rintro (hP | ⟨other, hleft | hright, hP⟩)
    · exact ⟨job, .inr (.inl rfl), hP⟩
    · exact ⟨other, .inl hleft, hP⟩
    · exact ⟨other, .inr (.inr hright), hP⟩

theorem Move.token_mono {job : Job} {token after : Bool} {phase : Phase}
    (h : Move b job token after phase) (htoken : token = true) : after = true := by
  cases h <;> simp [htoken]

theorem Step.token_mono {s t : Bool × Progress} (h : Step b s t) (htoken : s.1 = true) :
    t.1 = true := by
  cases h with
  | work _ _ hmove => exact hmove.token_mono htoken
  | cancel | giveUp _ _ => rfl
  | look _ | wait _ _ | notice _ _ _ _ | breakDown _ _ _ _ | finish _ _ _ => exact htoken

theorem Reaches.token_mono {s t : Bool × Progress} (h : Reaches b s t) (htoken : s.1 = true) :
    t.1 = true := by
  induction h with
  | refl => exact htoken
  | tail _ hstep ih => exact hstep.token_mono ih

namespace Sound

theorem start (b : Behaviour) (cacheUrl : String) (refs : Refs) (token : Bool) :
    Sound b cacheUrl refs (token, .start cacheUrl refs) where
  launched := by simp [Progress.start, Job.order]
  paths platform path := by simp [Progress.start, Phase.path?]
  asked := by simp [Progress.start, Phase.isAsked, List.filter_map, Function.comp_def]
  endings job hjob ending h := by
    obtain ⟨entry, -, rfl⟩ := List.mem_map.1 hjob
    cases h
  result r h := by simp [Progress.start] at h

theorem distinct {s : Bool × Progress} (h : Sound b cacheUrl refs s)
    (hrefs : (refs.map Prod.fst).Nodup) : (s.2.jobs.map Job.platform).Nodup := by
  have hplatforms : s.2.jobs.map Job.platform = (wanted refs).map Prod.fst := by
    have hmap := congrArg (List.map Prod.fst) h.launched
    simpa [List.map_map, Function.comp_def, Job.order] using hmap
  rw [hplatforms]
  exact hrefs.sublist (List.filter_sublist.map Prod.fst)

variable {token after : Bool} {p : Progress} {left right : List Job} {job : Job} {phase : Phase}

theorem launched_enter (h : Sound b cacheUrl refs (token, p))
    (hjobs : p.jobs = left ++ job :: right) :
    (left ++ job.enter phase :: right).map Job.order
      = (wanted refs).map fun entry => (entry.1, entry.2, cacheUrl) := by
  rw [← h.launched, hjobs]
  simp

theorem paths_enter (h : Sound b cacheUrl refs (token, p)) (hjobs : p.jobs = left ++ job :: right)
    (hpath : phase.path? = job.phase.path?) (platform path : String) :
    p.paths.get? platform = some path
      ↔ ∃ other ∈ left ++ job.enter phase :: right,
          other.platform = platform ∧ other.phase.path? = some path := by
  rw [h.paths, hjobs, exists_mem_middle, exists_mem_middle]
  simp [hpath]

theorem paths_put (h : Sound b cacheUrl refs (token, p)) (hrefs : (refs.map Prod.fst).Nodup)
    (hjobs : p.jobs = left ++ job :: right) (found platform path : String) :
    (p.paths.insert job.platform found).get? platform = some path
      ↔ ∃ other ∈ left ++ job.enter (.ended (.ok found)) :: right,
          other.platform = platform ∧ other.phase.path? = some path := by
  have hdistinct := h.distinct hrefs
  rw [hjobs, List.map_append, List.map_cons, List.nodup_middle, ← List.map_append] at hdistinct
  -- No other task is for this platform, so the insertion replaces nothing.
  have hother : ∀ other ∈ left ++ right, other.platform ≠ job.platform := fun other hmem heq =>
    (List.nodup_cons.1 hdistinct).1 (heq ▸ List.mem_map_of_mem hmem)
  have hold := h.paths platform path
  rw [hjobs, exists_mem_middle] at hold
  rw [SortedMap.get?_insert, exists_mem_middle]
  by_cases hplatform : platform = job.platform
  · subst hplatform
    have hnone : ¬∃ other ∈ left ++ right,
        other.platform = job.platform ∧ other.phase.path? = some path :=
      fun ⟨other, hmem, heq, _⟩ => hother other hmem heq
    rw [if_pos rfl, or_iff_left hnone]
    simp [Phase.path?]
  · have hne : job.platform ≠ platform := Ne.symm hplatform
    simpa [hplatform, hne] using hold

theorem asked_enter (h : Sound b cacheUrl refs (token, p)) (hjobs : p.jobs = left ++ job :: right)
    (hasked : phase.isAsked = job.phase.isAsked) :
    p.asked.Perm
      (((left ++ job.enter phase :: right).filter fun job =>
          job.phase.isAsked).map Job.lookup) := by
  refine h.asked.trans (List.Perm.of_eq ?_)
  simp only [hjobs, List.filter_append, List.filter_cons, Job.phase_enter, hasked]
  split <;> simp

theorem asked_ask (h : Sound b cacheUrl refs (token, p)) (hjobs : p.jobs = left ++ job :: right)
    (hphase : job.phase = .ready) :
    (p.asked ++ [job.lookup]).Perm
      (((left ++ job.enter .asking :: right).filter fun job => job.phase.isAsked).map
        Job.lookup) := by
  have hold := h.asked
  simp only [hjobs, List.filter_append, List.filter_cons, hphase, Phase.isAsked,
    Bool.false_eq_true, if_false, List.map_append] at hold
  simp only [List.filter_append, List.filter_cons, Job.phase_enter, Phase.isAsked, if_true,
    List.map_append, List.map_cons, Job.lookup_enter]
  exact (List.perm_append_singleton _ _).trans ((hold.cons _).trans List.perm_middle.symm)

theorem work (h : Sound b cacheUrl refs (token, p)) (hrefs : (refs.map Prod.fst).Nodup)
    (hresult : p.result = none) (hjobs : p.jobs = left ++ job :: right)
    (hmove : Move b job token after phase) :
    Sound b cacheUrl refs (after, p.enter left job right phase) where
  launched := h.launched_enter hjobs
  paths := by
    cases hmove with
    | ask hphase => exact h.paths_enter hjobs (by rw [hphase]; rfl)
    | give hphase _ => exact h.paths_enter hjobs (by rw [hphase]; rfl)
    | fail hphase _ => exact h.paths_enter hjobs (by rw [hphase]; rfl)
    | panic hphase _ => exact h.paths_enter hjobs (by rw [hphase]; rfl)
    | put _ => exact h.paths_put hrefs hjobs _
  asked := by
    cases hmove with
    | ask hphase => exact h.asked_ask hjobs hphase
    | give hphase _ => exact h.asked_enter hjobs (by rw [hphase]; rfl)
    | fail hphase _ => exact h.asked_enter hjobs (by rw [hphase]; rfl)
    | panic hphase _ => exact h.asked_enter hjobs (by rw [hphase]; rfl)
    | put hphase => exact h.asked_enter hjobs (by rw [hphase]; rfl)
  endings := by
    refine forall_mem_enter (hjobs ▸ h.endings) fun ending hending => ?_
    have hold := h.endings job (by simp [hjobs])
    cases hmove with
    | ask _ => cases hending
    | give _ hgiven | fail _ hgiven | panic _ hgiven =>
      cases hending
      exact ⟨_, _, hgiven⟩
    | put hphase => exact hold ending (by rw [hphase]; exact hending)
  result r hr := by simp [Progress.enter, hresult] at hr

theorem notice (h : Sound b cacheUrl refs (token, p)) {answer : Except Store.Error String}
    (hresult : p.result = none) (hjobs : p.jobs = left ++ job :: right)
    (hphase : job.phase = .ended answer) :
    Sound b cacheUrl refs (token, p.notice left job right answer) where
  launched := h.launched_enter hjobs
  paths := by
    refine h.paths_enter hjobs ?_
    rw [hphase]
    cases answer <;> rfl
  asked := h.asked_enter hjobs (by rw [hphase]; rfl)
  endings := by
    refine forall_mem_enter (hjobs ▸ h.endings) fun ending hending => ?_
    exact h.endings job (by simp [hjobs]) ending (by rw [hphase]; exact hending)
  result r hr := by simp [Progress.notice, hresult] at hr

theorem quiet {s : Bool × Progress} (h : Sound b cacheUrl refs (token, p))
    (hjobs : s.2.jobs = p.jobs) (hpaths : s.2.paths = p.paths) (hasked : s.2.asked = p.asked)
    (hresult : ∀ r, s.2.result = some r → Explained s r) : Sound b cacheUrl refs s where
  launched := hjobs ▸ h.launched
  paths := by rw [hjobs, hpaths]; exact h.paths
  asked := by rw [hjobs, hasked]; exact h.asked
  endings := hjobs ▸ h.endings
  result := hresult

theorem step {s t : Bool × Progress} (h : Sound b cacheUrl refs s)
    (hrefs : (refs.map Prod.fst).Nodup) (hstep : Step b s t) : Sound b cacheUrl refs t := by
  cases hstep with
  | work hresult hjobs hmove => exact h.work hrefs hresult hjobs hmove
  | cancel =>
    refine h.quiet rfl rfl rfl fun r hr => ?_
    cases h.result r hr with
    | whole hjobs => exact .whole hjobs
    | cancelled _ => exact .cancelled rfl
    | brokenDown hjob hphase => exact .brokenDown hjob hphase
  | look hresult => exact h.quiet rfl rfl rfl fun r hr => by simp [hresult] at hr
  | wait hresult _ => exact h.quiet rfl rfl rfl fun r hr => by simp [hresult] at hr
  | giveUp _ _ =>
    refine h.quiet rfl rfl rfl fun r hr => ?_
    obtain rfl := Option.some.inj hr
    exact .cancelled rfl
  | notice hresult _ hjobs hphase => exact h.notice hresult hjobs hphase
  | breakDown _ _ hjob hphase =>
    refine h.quiet rfl rfl rfl fun r hr => ?_
    obtain rfl := Option.some.inj hr
    exact .brokenDown hjob hphase
  | @finish token p _ _ hjobs =>
    refine h.quiet rfl rfl rfl fun r hr => ?_
    obtain rfl := Option.some.inj hr
    exact Explained.whole (s := (token, { p with result := some (.ok p.paths) })) hjobs

theorem run {s t : Bool × Progress} (h : Sound b cacheUrl refs s)
    (hrefs : (refs.map Prod.fst).Nodup) (hrun : Reaches b s t) : Sound b cacheUrl refs t := by
  induction hrun with
  | refl => exact h
  | tail _ hstep ih => exact ih.step hrefs hstep

end Sound

end

end Pinning.Fanout
