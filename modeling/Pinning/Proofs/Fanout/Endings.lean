import Pinning.Proofs.Fanout.Advance
import Pinning.Proofs.Fanout.Whole
/-!
What a fan-out comes to if none of its lookups cancels. How each lookup ends decides it, both when
the tasks are carried out one after the other and when they take turns; only the text of a breakdown
may differ.
-/

set_option autoImplicit false
set_option relaxedAutoImplicit false

namespace Pinning

/-- The results are the same but for the text of a breakdown. -/
inductive Alike {α : Type} : Except Error α → Except Error α → Prop
  | same (result : Except Error α) : Alike result result
  | brokenDown (problem other : String) : Alike (.error (.fanout problem)) (.error (.fanout other))

theorem Alike.map {α β : Type} {result other : Except Error α} (h : Alike result other)
    (f : α → β) :
    Alike (result.map f) (other.map f) := by
  cases h with
  | same => exact .same _
  | brokenDown problem other => exact .brokenDown problem other

theorem Alike.eq_ok {α : Type} {result : Except Error α} {value : α}
    (h : Alike result (.ok value)) :
    result = .ok value := by
  cases h
  rfl

namespace Fanout

open Activity (course_bind_of_returned)

variable {f : Fanout}

def endings (f : Fanout) (refs : Refs) : Endings :=
  refs.map fun entry => (entry.1, (f.lookupCourse entry.2 false).outcome)

section Gathering

variable {refs : Refs}

private theorem any_isPanic_endings
    (h : ∀ entry ∈ refs, (f.lookupCourse entry.2 false).outcome ≠ .panicked) :
    (f.endings refs).any isPanic = false := by
  refine List.any_eq_false.2 fun ending hending => ?_
  obtain ⟨entry, hentry, rfl⟩ := List.mem_map.1 hending
  have hnot := h entry hentry
  cases houtcome : (f.lookupCourse entry.2 false).outcome with
  | panicked => exact absurd houtcome hnot
  | returned answer => simp [isPanic]
  | unanswered => simp [isPanic]

private theorem any_isWait_endings
    (h : ∀ entry ∈ refs, (f.lookupCourse entry.2 false).outcome ≠ .unanswered) :
    (f.endings refs).any isWait = false := by
  refine List.any_eq_false.2 fun ending hending => ?_
  obtain ⟨entry, hentry, rfl⟩ := List.mem_map.1 hending
  have hnot := h entry hentry
  cases houtcome : (f.lookupCourse entry.2 false).outcome with
  | unanswered => exact absurd houtcome hnot
  | returned answer => simp [isWait]
  | panicked => simp [isWait]

theorem gather_endings
    (h : ∀ entry ∈ refs, ∃ answer, (f.lookupCourse entry.2 false).outcome = .returned answer) :
    gather false (f.endings refs) = .returned (.ok (found (f.endings refs))) := by
  have hpanic : (f.endings refs).any isPanic = false := by
    refine any_isPanic_endings fun entry hentry hpanic => ?_
    obtain ⟨answer, hanswer⟩ := h entry hentry
    cases hanswer.symm.trans hpanic
  have hwait : (f.endings refs).any isWait = false := by
    refine any_isWait_endings fun entry hentry hwait => ?_
    obtain ⟨answer, hanswer⟩ := h entry hentry
    cases hanswer.symm.trans hwait
  simp [gather, hpanic, hwait]

end Gathering

section Alone

theorem course_tasks (h : f.Quiet) (refs : Refs) :
    (f.tasks refs).course false
      = ⟨refs.flatMap fun entry =>
          .lookup entry.2 f.cacheUrl :: (f.lookupCourse entry.2 false).events, false,
          .returned (f.endings refs)⟩ := by
  induction refs with
  | nil => rfl
  | cons entry rest ih =>
    obtain ⟨platform, ref⟩ := entry
    have htoken : (f.lookupCourse ref false).cancelled = false := h ref f.cacheUrl
    have hrest : ((f.tasks rest).course (f.lookupCourse ref false).cancelled).outcome
        = .returned (f.endings rest) := by
      rw [htoken, ih]
    rw [f.course_tasks_cons platform ref rest false hrest, htoken, ih]
    simp [endings]

theorem course_resolve (h : f.Quiet) (refs : Refs) :
    (f.resolve refs).course false
      = ⟨(wanted refs).flatMap fun entry =>
          .lookup entry.2 f.cacheUrl :: (f.lookupCourse entry.2 false).events,
          false, gather false (f.endings (wanted refs))⟩ := by
  have hcourse : (f.resolve refs).course false = (f.tasks (wanted refs) >>= join).course false :=
    rfl
  have hjoin : (join (f.endings (wanted refs))).course false
      = ⟨[], false, gather false (f.endings (wanted refs))⟩ := rfl
  have htasks := course_tasks h (wanted refs)
  rw [hcourse, course_bind_of_returned (by rw [htasks]), htasks]
  simp only [hjoin, List.append_nil]

theorem exists_returns_resolve (hquiet : f.Quiet) (hends : f.Ends) (refs : Refs) :
    ∃ paths, (f.resolve refs).Returns paths := by
  have hwait : (f.endings (wanted refs)).any isWait = false :=
    any_isWait_endings fun entry _ => hends entry.2 f.cacheUrl
  have hgather : ∃ paths, gather false (f.endings (wanted refs)) = .returned paths := by
    simp only [gather, hwait, Bool.false_eq_true, if_false]
    split
    · exact ⟨_, rfl⟩
    · exact ⟨_, rfl⟩
  obtain ⟨paths, hpaths⟩ := hgather
  have hcourse := course_resolve hquiet refs
  exact ⟨paths, by rw [hcourse], by rw [hcourse]; exact hpaths⟩

end Alone

section Schedule

def given? : Outcome (Except Store.Error String) → Option String
  | .returned (.ok path) => some path
  | _ => none

theorem given?_eq_some_iff {ending : Outcome (Except Store.Error String)} {path : String} :
    given? ending = some path ↔ ending = .returned (.ok path) := by
  cases ending with
  | returned answer => cases answer <;> simp [given?]
  | panicked => simp [given?]
  | unanswered => simp [given?]

theorem nodup_wanted {refs : Refs} (hrefs : (refs.map Prod.fst).Nodup) :
    ((wanted refs).map Prod.fst).Nodup :=
  hrefs.sublist (List.filter_sublist.map Prod.fst)

theorem get?_found_endings {refs : Refs} (hrefs : (refs.map Prod.fst).Nodup)
    (platform path : String) :
    (found (f.endings refs)).get? platform = some path
      ↔ ∃ ref, (platform, ref) ∈ refs
        ∧ (f.lookupCourse ref false).outcome = .returned (.ok path) := by
  have hfound : (f.endings refs).filterMap found? = refs.filterMap fun entry =>
      (given? (f.lookupCourse entry.2 false).outcome).map fun path => (entry.1, path) := by
    rw [endings, List.filterMap_map]
    refine List.filterMap_congr fun entry _ => ?_
    cases hending : (f.lookupCourse entry.2 false).outcome with
    | returned answer => cases answer <;> simp [found?, given?, hending]
    | panicked => simp [found?, given?, hending]
    | unanswered => simp [found?, given?, hending]
  rw [found, hfound, SortedMap.get?_ofList_filterMap hrefs fun ref =>
    given? (f.lookupCourse ref false).outcome]
  simp only [given?_eq_some_iff]

theorem gather_endings_of_perm {refs others : Refs} (hrefs : (refs.map Prod.fst).Nodup)
    (h : refs.Perm others) :
    gather false (f.endings refs) = gather false (f.endings others) := by
  have hendings : (f.endings refs).Perm (f.endings others) := h.map _
  have hfound : found (f.endings refs) = found (f.endings others) := by
    refine SortedMap.ext_get? fun platform => Option.ext fun path => ?_
    rw [get?_found_endings hrefs, get?_found_endings ((h.map Prod.fst).nodup_iff.1 hrefs)]
    simp only [h.mem_iff]
  simp only [gather, hendings.any_eq, hfound]

theorem returns_resolve_of_perm (hquiet : f.Quiet) {refs others : Refs}
    (hrefs : (refs.map Prod.fst).Nodup) (h : refs.Perm others)
    {paths : Except Error (SortedMap String)} (hpaths : (f.resolve refs).Returns paths) :
    (f.resolve others).Returns paths := by
  have hgather := hpaths.outcome
  rw [course_resolve hquiet, gather_endings_of_perm (nodup_wanted hrefs) (h.filter _)] at hgather
  have hcourse := course_resolve hquiet others
  exact ⟨by rw [hcourse], by rw [hcourse]; exact hgather⟩

theorem Sound.exists_job_iff {b : Behaviour} {cacheUrl : String} {refs : Refs} {s : Bool × Progress}
    (h : Sound b cacheUrl refs s) {P : String → Store.Ref → String → Prop} :
    (∃ job ∈ s.2.jobs, P job.platform job.ref job.cacheUrl)
      ↔ ∃ entry ∈ wanted refs, P entry.1 entry.2 cacheUrl := by
  constructor
  · rintro ⟨job, hjob, hP⟩
    have hmem : job.order ∈ s.2.jobs.map Job.order := List.mem_map_of_mem hjob
    rw [h.launched] at hmem
    obtain ⟨entry, hentry, horder⟩ := List.mem_map.1 hmem
    simp only [Job.order, Prod.mk.injEq] at horder
    obtain ⟨hplatform, href, hurl⟩ := horder
    exact ⟨entry, hentry, by rw [hplatform, href, hurl]; exact hP⟩
  · rintro ⟨entry, hentry, hP⟩
    have hmem : (entry.1, entry.2, cacheUrl) ∈ s.2.jobs.map Job.order := by
      rw [h.launched]
      exact List.mem_map.2 ⟨entry, hentry, rfl⟩
    obtain ⟨job, hjob, horder⟩ := List.mem_map.1 hmem
    simp only [Job.order, Prod.mk.injEq] at horder
    obtain ⟨hplatform, href, hurl⟩ := horder
    exact ⟨job, hjob, by rw [hplatform, href, hurl]; exact hP⟩

variable {refs : Refs} {p : Progress}

theorem outcome_of_undisturbed (h : Undisturbed f.behaviour (false, p))
    (hsound : Sound f.behaviour f.cacheUrl refs (false, p)) {job : Job} (hjob : job ∈ p.jobs)
    {ending : Outcome (Except Store.Error String)} (hending : job.phase.ending? = some ending) :
    (f.lookupCourse job.ref false).outcome = ending := by
  obtain ⟨entry, -, hurl⟩ :=
    (hsound.exists_job_iff (P := fun _ ref url => ref = job.ref ∧ url = job.cacheUrl)).1
    ⟨job, hjob, rfl, rfl⟩
  rw [lookupCourse, hurl.2]
  exact (h job hjob ending hending).2

theorem gather_of_noticed (h : Undisturbed f.behaviour (false, p))
    (hsound : Sound f.behaviour f.cacheUrl refs (false, p))
    (hjobs : ∀ job ∈ p.jobs, ∃ answer, job.phase = .noticed answer) :
    gather false (f.endings (wanted refs)) = .returned (.ok (found (f.endings (wanted refs)))) := by
  refine gather_endings fun entry hentry => ?_
  obtain ⟨job, hjob, href⟩ :=
    (hsound.exists_job_iff (P := fun _ ref _ => ref = entry.2)).2 ⟨entry, hentry, rfl⟩
  obtain ⟨answer, hphase⟩ := hjobs job hjob
  refine ⟨answer, ?_⟩
  rw [← href]
  exact outcome_of_undisturbed h hsound hjob (by rw [hphase]; rfl)

theorem paths_of_noticed (h : Undisturbed f.behaviour (false, p))
    (hrefs : (refs.map Prod.fst).Nodup) (hsound : Sound f.behaviour f.cacheUrl refs (false, p))
    (hjobs : ∀ job ∈ p.jobs, ∃ answer, job.phase = .noticed answer) :
    p.paths = found (f.endings (wanted refs)) := by
  refine SortedMap.ext_get? fun platform => Option.ext fun path => ?_
  rw [hsound.get?_of_noticed hjobs, get?_found_endings (nodup_wanted hrefs)]
  have hanswer : ∀ job ∈ p.jobs, job.phase = .noticed (.ok path)
      ↔ (f.lookupCourse job.ref false).outcome = .returned (.ok path) := by
    intro job hjob
    obtain ⟨given, hphase⟩ := hjobs job hjob
    have hgiven := outcome_of_undisturbed h hsound hjob
      (by rw [hphase]; rfl : _ = some (.returned given))
    rw [hphase, hgiven]
    simp
  calc (∃ job ∈ p.jobs, job.platform = platform ∧ job.phase = .noticed (.ok path))
      ↔ ∃ job ∈ p.jobs, job.platform = platform
          ∧ (f.lookupCourse job.ref false).outcome = .returned (.ok path) :=
        exists_congr fun job => and_congr_right fun hjob => and_congr_right fun _ =>
          hanswer job hjob
    _ ↔ ∃ entry ∈ wanted refs, entry.1 = platform
          ∧ (f.lookupCourse entry.2 false).outcome = .returned (.ok path) :=
        hsound.exists_job_iff
          (P := fun name ref _ => name = platform
            ∧ (f.lookupCourse ref false).outcome = .returned (.ok path))
    _ ↔ ∃ ref, (platform, ref) ∈ wanted refs
      ∧ (f.lookupCourse ref false).outcome = .returned (.ok path) := by
        constructor
        · rintro ⟨⟨_, ref⟩, hmem, rfl, hanswer⟩
          exact ⟨ref, hmem, hanswer⟩
        · rintro ⟨ref, hmem, hanswer⟩
          exact ⟨(platform, ref), hmem, rfl, hanswer⟩

/-- In whatever order the tasks take their steps, a result is the one of the lookups' endings, up to
the text of a breakdown. -/
theorem alike_of_result (hrefs : (refs.map Prod.fst).Nodup)
    (hrun : Reaches f.behaviour (false, .start f.cacheUrl refs) (false, p))
    {r : Except Error (SortedMap String)} (hresult : p.result = some r) :
    ∃ settled, gather false (f.endings (wanted refs)) = .returned settled ∧ Alike r settled := by
  have hsound := (Sound.start f.behaviour f.cacheUrl refs false).run hrefs hrun
  have hcalm : Undisturbed f.behaviour (false, p) := by
    rcases undisturbed_or_doomed hrun with hcalm | hdoomed
    · exact hcalm
    · exact absurd hdoomed.token Bool.false_ne_true
  cases hsound.result r hresult with
  | whole hjobs =>
    refine ⟨_, gather_of_noticed hcalm hsound hjobs, ?_⟩
    rw [← paths_of_noticed hcalm hrefs hsound hjobs]
    exact .same _
  | cancelled htoken => exact absurd htoken Bool.false_ne_true
  | @brokenDown job problem hjob hphase =>
    have hpanic := outcome_of_undisturbed hcalm hsound hjob
      (by rw [hphase]; rfl : _ = some .panicked)
    have hany : (f.endings (wanted refs)).any isPanic = true := by
      obtain ⟨entry, hentry, href⟩ :=
        (hsound.exists_job_iff (P := fun _ ref _ => ref = job.ref)).1 ⟨job, hjob, rfl⟩
      refine List.any_eq_true.2 ⟨_, List.mem_map_of_mem hentry, ?_⟩
      simp [isPanic, href, hpanic]
    refine ⟨.error (.fanout "task panicked"), ?_, .brokenDown problem _⟩
    simp [gather, hany]

theorem eq_of_calm (hcalm : f.Calm) {r settled : Except Error (SortedMap String)}
    (hsettled : gather false (f.endings refs) = .returned settled) (halike : Alike r settled) :
    r = settled := by
  cases halike with
  | same => rfl
  | brokenDown problem other =>
    have hpanic : (f.endings refs).any isPanic = false :=
      any_isPanic_endings fun entry _ => hcalm entry.2 f.cacheUrl
    simp only [gather, hpanic, Bool.false_eq_true, if_false] at hsettled
    split at hsettled <;> cases hsettled

end Schedule

end Fanout

end Pinning
