import Mathlib.Data.List.Perm.Subperm
import Pinning.Proofs.Fanout.Endings
/-!
The order in which the tasks of a fan-out take their steps does not matter. If the store answers
every call and the token is never cancelled, every run comes to the same store paths, those of all
complete build outputs that the store knows, and asks for each of them once.
-/

set_option autoImplicit false
set_option relaxedAutoImplicit false

namespace Pinning.Fanout

variable {f : Fanout} {answer : Store.Ref → String → Except Store.Error String}

def answeredEndings (answer : Store.Ref → String → Except Store.Error String) (cacheUrl : String)
    (refs : Refs) : Endings :=
  refs.map fun entry => (entry.1, .returned (answer entry.2 cacheUrl))

theorem endings_of_answers (h : f.Answers answer) (refs : Refs) :
    f.endings refs = answeredEndings answer f.cacheUrl refs := by
  refine List.map_congr_left fun entry _ => ?_
  rw [lookupCourse, (h entry.2 f.cacheUrl).outcome]

private theorem mem_wanted {refs : Refs} {entry : String × Store.Ref} :
    entry ∈ wanted refs ↔ entry ∈ refs ∧ entry.2.hash ≠ "" ∧ entry.2.name ≠ "" := by
  simp [wanted, Store.Ref.isComplete]

theorem get?_found {refs : Refs} (hrefs : (refs.map Prod.fst).Nodup) (cacheUrl : String)
    (platform path : String) :
    (found (answeredEndings answer cacheUrl refs)).get? platform = some path
      ↔ ∃ ref, (platform, ref) ∈ refs ∧ answer ref cacheUrl = .ok path := by
  let store : Fanout := { lookup := fun ref cacheUrl => pure (answer ref cacheUrl), cacheUrl }
  have hstore : store.Answers answer := fun _ _ => Activity.returns_pure _
  have hending : ∀ ref, (store.lookupCourse ref false).outcome = .returned (answer ref cacheUrl) :=
    fun ref => (hstore ref cacheUrl).outcome
  have hfound := get?_found_endings (f := store) hrefs platform path
  rw [endings_of_answers hstore] at hfound
  simpa only [hending, Outcome.returned.injEq] using hfound

private theorem gather_of_answers (h : f.Answers answer) (refs : Refs) :
    gather false (f.endings refs)
      = .returned (.ok (found (answeredEndings answer f.cacheUrl refs))) := by
  rw [← endings_of_answers h]
  exact gather_endings fun entry _ => ⟨_, (h entry.2 f.cacheUrl).outcome⟩

private theorem course_of_answers (h : f.Answers answer) (refs : Refs) :
    (f.resolve refs).course false
      = ⟨(wanted refs).flatMap fun entry =>
            .lookup entry.2 f.cacheUrl :: (f.lookupCourse entry.2 false).events,
          false, .returned (.ok (found (answeredEndings answer f.cacheUrl (wanted refs))))⟩ := by
  rw [course_resolve h.quiet, gather_of_answers h]

theorem returns_resolve (h : f.Answers answer) (refs : Refs) :
    (f.resolve refs).Returns
      (.ok (found (answeredEndings answer f.cacheUrl (wanted refs)))) := by
  have hcourse := course_of_answers h refs
  exact ⟨by rw [hcourse], by rw [hcourse]⟩

section

variable {refs : PlatformMap Store.Ref} {p : Progress}

theorem Sound.lookups_eq {b : Behaviour} {cacheUrl : String} {refs : Refs} {s : Bool × Progress}
    (h : Sound b cacheUrl refs s) :
    s.2.jobs.map Job.lookup = (wanted refs).map fun entry => (entry.2, cacheUrl) := by
  have hlookups := congrArg (List.map Prod.snd) h.launched
  simp only [List.map_map, Function.comp_def] at hlookups
  exact hlookups

theorem Sound.asked_subperm {b : Behaviour} {cacheUrl : String} {refs : Refs} {s : Bool × Progress}
    (h : Sound b cacheUrl refs s) :
    s.2.asked.Subperm ((wanted refs).map fun entry => (entry.2, cacheUrl)) := by
  rw [← h.lookups_eq]
  exact h.asked.subperm.trans (List.filter_sublist.map Job.lookup).subperm

theorem Sound.asked_of_all {b : Behaviour} {cacheUrl : String} {refs : Refs} {s : Bool × Progress}
    (h : Sound b cacheUrl refs s) (hjobs : ∀ job ∈ s.2.jobs, job.phase.isAsked = true) :
    s.2.asked.Perm ((wanted refs).map fun entry => (entry.2, cacheUrl)) := by
  have hasked := h.asked
  rw [List.filter_eq_self.2 hjobs] at hasked
  exact hasked.trans (List.Perm.of_eq h.lookups_eq)

theorem Sound.asked_of_noticed {b : Behaviour} {cacheUrl : String} {refs : Refs}
    {s : Bool × Progress} (h : Sound b cacheUrl refs s)
    (hjobs : ∀ job ∈ s.2.jobs, ∃ answer, job.phase = .noticed answer) :
    s.2.asked.Perm ((wanted refs).map fun entry => (entry.2, cacheUrl)) := by
  refine h.asked_of_all fun job hjob => ?_
  obtain ⟨answer, hphase⟩ := hjobs job hjob
  rw [hphase]
  rfl

theorem Sound.ended_cases {b : Behaviour} {cacheUrl : String} {refs : Refs} {s : Bool × Progress}
    (h : Sound b cacheUrl refs s) {result : Except Error (SortedMap String)}
    (hresult : s.2.result = some result) :
    (∃ m, result = .ok m)
        ∧ s.2.asked.Perm ((wanted refs).map fun entry => (entry.2, cacheUrl))
      ∨ result = .error .cancelled ∧ s.1 = true
      ∨ (∃ problem, result = .error (.fanout problem))
        ∧ ∃ entry ∈ wanted refs, ∃ before after, b entry.2 cacheUrl before after .panicked := by
  cases h.result result hresult with
  | whole hjobs => exact .inl ⟨⟨_, rfl⟩, h.asked_of_noticed hjobs⟩
  | cancelled htoken => exact .inr (.inl ⟨rfl, htoken⟩)
  | brokenDown hjob hphase =>
    have hpanic := h.endings _ hjob .panicked (by rw [hphase]; rfl)
    obtain ⟨entry, hentry, hpanics⟩ := (h.exists_job_iff
      (P := fun _ ref url => ∃ before after, b ref url before after .panicked)).1 ⟨_, hjob, hpanic⟩
    exact .inr (.inr ⟨⟨_, rfl⟩, entry, hentry, hpanics⟩)

/-- As long as nobody cancels and no lookup can panic, a fan-out asks for every complete build
output, whether or not the lookups come to an end. -/
theorem Sound.inevitable_asked {b : Behaviour} {cacheUrl : String} {refs : Refs} {p : Progress}
    (h : Sound b cacheUrl refs (false, p)) (hrefs : (refs.map Prod.fst).Nodup)
    (hcalm : ∀ entry ∈ wanted refs, ∀ before after, ¬b entry.2 cacheUrl before after .panicked) :
    Inevitable (Advances b)
      (fun q => q.asked.Perm ((wanted refs).map fun entry => (entry.2, cacheUrl))) p := by
  have hdown : ∀ p q, Sound b cacheUrl refs (false, p) → Advances b p q →
      Sound b cacheUrl refs (false, q) ∧ q.ahead < p.ahead :=
    fun p q hp hq => ⟨hp.run hrefs hq.reaches, hq.ahead_lt⟩
  refine inevitable_of_size Progress.ahead hdown (fun p hp => ?_) h
  by_cases hall : ∀ job ∈ p.jobs, job.phase.isAsked = true
  · exact .inl (hp.asked_of_all hall)
  · -- A task that has not asked yet can do so, as there is no result before.
    simp only [Classical.not_forall] at hall
    obtain ⟨job, hjob, hnot⟩ := hall
    have hready : job.phase = .ready := by
      cases hphase : job.phase with
      | ready => rfl
      | _ => simp [hphase, Phase.isAsked] at hnot
    obtain ⟨left, right, hjobs⟩ := List.append_of_mem hjob
    cases hresult : p.result with
    | none => exact .inr ⟨_, p, .refl, strides_of_move hresult hjobs (.ask hready)⟩
    | some result =>
      rcases hp.ended_cases hresult with
        ⟨-, hasked⟩ | ⟨-, htoken⟩ | ⟨-, entry, hentry, before, after, hpanics⟩
      · exact .inl hasked
      · cases htoken
      · exact absurd hpanics (hcalm entry hentry before after)

theorem result_of_answers (h : f.Answers answer)
    (hrun : Reaches f.behaviour (false, .start f.cacheUrl refs.entries) (false, p))
    {r : Except Error (SortedMap String)} (hresult : p.result = some r) :
    r = .ok (found (answeredEndings answer f.cacheUrl (wanted refs.entries)))
      ∧ p.asked.Perm ((wanted refs.entries).map fun entry => (entry.2, f.cacheUrl)) := by
  obtain ⟨settled, hsettled, halike⟩ := alike_of_result refs.distinct hrun hresult
  have hr : r = .ok (found (answeredEndings answer f.cacheUrl (wanted refs.entries))) := by
    rw [eq_of_calm h.calm hsettled halike]
    rw [gather_of_answers h] at hsettled
    exact (Outcome.returned.inj hsettled).symm
  refine ⟨hr, ?_⟩
  have hsound := (Sound.start f.behaviour f.cacheUrl refs.entries false).run refs.distinct hrun
  rcases hsound.ended_cases hresult with ⟨-, hasked⟩ | ⟨hcancelled, -⟩ | ⟨⟨problem, hbroken⟩, -⟩
  · exact hasked
  · cases hr.symm.trans hcancelled
  · cases hr.symm.trans hbroken

end

/-- A store that answers every call decides the result of a fan-out alone: a platform has a path if
its build output is complete and the store gives that path, both when the tasks are carried out one
after the other and in whatever order they start, are answered, put their paths down and are
noticed. In every order the result comes inevitably, and by then the store has been asked once for
each complete build output. -/
theorem same_in_every_order (f : Fanout) {answer : Store.Ref → String → Except Store.Error String}
    (h : f.Answers answer) (refs : PlatformMap Store.Ref) :
    ∃ m : SortedMap String,
      (∀ platform path, m.get? platform = some path
        ↔ ∃ ref, refs.get? platform = some ref ∧ ref.hash ≠ "" ∧ ref.name ≠ ""
          ∧ answer ref f.cacheUrl = .ok path)
      ∧ (f.resolve refs.entries).course false
        = ⟨(refs.entries.filter fun entry => entry.2.hash ≠ "" ∧ entry.2.name ≠ "").flatMap
              fun entry => .lookup entry.2 f.cacheUrl
                :: ((f.lookup entry.2 f.cacheUrl).course false).events,
            false, .returned (.ok m)⟩
      ∧ ∀ p, Reaches f.behaviour (false, .start f.cacheUrl refs.entries) (false, p) →
        (∀ r, p.result = some r → r = .ok m ∧ p.asked.Perm
          ((refs.entries.filter fun entry => entry.2.hash ≠ "" ∧ entry.2.name ≠ "").map
            fun entry => (entry.2, f.cacheUrl)))
        ∧ Inevitable (Advances f.behaviour) (fun q => q.result = some (.ok m)) p := by
  have hwanted : (refs.entries.filter fun entry => entry.2.hash ≠ "" ∧ entry.2.name ≠ "")
      = wanted refs.entries := by
    refine List.filter_congr fun entry _ => Bool.eq_iff_iff.2 ?_
    simp [Store.Ref.isComplete]
  rw [hwanted]
  refine ⟨found (answeredEndings answer f.cacheUrl (wanted refs.entries)), ?_,
    course_of_answers h refs.entries, fun p hrun => ⟨fun r => result_of_answers h hrun, ?_⟩⟩
  · intro platform path
    rw [get?_found (nodup_wanted refs.distinct)]
    refine exists_congr fun ref => ?_
    rw [mem_wanted, PlatformMap.get?_eq_some_iff]
    simp only [and_assoc]
  · let Started (p : Progress) : Prop :=
      Reaches f.behaviour (false, .start f.cacheUrl refs.entries) (false, p)
    have hdown : ∀ p q, Started p → Advances f.behaviour p q → Started q ∧ q.ahead < p.ahead :=
      fun p q hp hq => ⟨hp.trans hq.reaches, hq.ahead_lt⟩
    refine inevitable_of_size Progress.ahead hdown (fun p hp => ?_) hrun
    cases hresult : p.result with
    | none => exact .inr (exists_advances h.quiet h.ends hresult)
    | some r => exact .inl (congrArg some (result_of_answers h hp hresult).1)

/-- Of three build outputs, the one that is complete and known is found in every order. -/
theorem same_in_every_order_smallCache :
    ∃ m, m.get? "x86_64-linux" = some "/nix/store/a-n" ∧ m.get? "aarch64-linux" = none
      ∧ m.get? "aarch64-darwin" = none
      ∧ Inevitable (Advances smallCache.behaviour) (fun q => q.result = some (.ok m))
        (.start smallCache.cacheUrl threeRefs.entries) := by
  have hstore : smallCache.Answers smallAnswer := fun _ _ => Activity.returns_pure _
  obtain ⟨m, hm, -, hruns⟩ := same_in_every_order smallCache hstore threeRefs
  have hnone : ∀ platform ref, threeRefs.get? platform = some ref →
      ref.hash ≠ "a" ∨ ref.name = "" → m.get? platform = none := by
    intro platform ref href hnot
    refine Option.eq_none_iff_forall_ne_some.2 fun path hpath => ?_
    obtain ⟨other, hother, -, hname, hanswer⟩ := (hm platform path).1 hpath
    obtain rfl := Option.some.inj (href.symm.trans hother)
    rcases hnot with hhash | hempty
    · rw [smallAnswer, if_neg hhash] at hanswer
      cases hanswer
    · exact hname hempty
  refine ⟨m, (hm _ _).2 ⟨⟨"a", "n"⟩, by decide +kernel, by decide, by decide, rfl⟩, ?_, ?_,
    (hruns _ .refl).2⟩
  · exact hnone _ ⟨"b", "n"⟩ (by decide +kernel) (.inl (by decide))
  · exact hnone _ ⟨"a", ""⟩ (by decide +kernel) (.inr rfl)

end Pinning.Fanout
