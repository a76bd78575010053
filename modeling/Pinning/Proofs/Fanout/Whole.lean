import Pinning.Proofs.Fanout.Execution
import Pinning.Proofs.Fanout.Sound
/-!
A fan-out that returns store paths returns all that its tasks found. It looks at the token before it
takes notice of an end, so once a token is cancelled while a task is under way, no run comes to a
result that looks whole.
-/

set_option autoImplicit false
set_option relaxedAutoImplicit false

namespace Pinning.Fanout

variable {b : Behaviour} {s t : Bool × Progress}

/-- The token is cancelled, and the fan-out will look at it before it has noticed the end of every
task. -/
structure Doomed (s : Bool × Progress) : Prop where
  token : s.1 = true
  unnoticed : s.2.looked = true → ∃ job ∈ s.2.jobs, ¬∃ answer, job.phase = .noticed answer
  partly : ∀ m, s.2.result ≠ some (.ok m)

theorem Move.not_noticed {job : Job} {token after : Bool} {phase : Phase}
    (h : Move b job token after phase) : ¬∃ answer, phase = .noticed answer := by
  rintro ⟨answer, rfl⟩
  cases h

namespace Doomed

theorem of_move {token : Bool} {p : Progress} {left right : List Job} {job : Job} {phase : Phase}
    (hresult : p.result = none) (hmove : Move b job token true phase) :
    Doomed (true, p.enter left job right phase) where
  token := rfl
  unnoticed _ := ⟨job.enter phase, by simp [Progress.enter], hmove.not_noticed⟩
  partly m hm := by simp [Progress.enter, hresult] at hm

theorem step (h : Doomed s) (hstep : Step b s t) : Doomed t := by
  have htoken := h.token
  cases hstep with
  | work hresult hjobs hmove =>
    obtain rfl := hmove.token_mono htoken
    exact of_move hresult hmove
  | cancel => exact ⟨rfl, h.unnoticed, h.partly⟩
  | look _ => cases htoken
  | wait hresult _ => exact ⟨htoken, by simp, by simp [hresult]⟩
  | giveUp _ hlooked => exact ⟨rfl, by simp [hlooked], by simp⟩
  | notice hresult _ _ _ =>
    exact ⟨htoken, by simp [Progress.notice], by simp [Progress.notice, hresult]⟩
  | breakDown hresult hlooked _ _ => exact ⟨htoken, h.unnoticed, by simp⟩
  | finish _ hlooked hjobs =>
    obtain ⟨job, hjob, hnot⟩ := h.unnoticed hlooked
    exact absurd (hjobs job hjob) hnot

theorem run (h : Doomed s) (hrun : Reaches b s t) : Doomed t := by
  induction hrun with
  | refl => exact h
  | tail _ hstep ih => exact ih.step hstep

end Doomed

/-- No lookup ended with the token cancelled. -/
def Undisturbed (b : Behaviour) (s : Bool × Progress) : Prop :=
  ∀ job ∈ s.2.jobs, ∀ ending, job.phase.ending? = some ending →
    b job.ref job.cacheUrl false false ending

theorem Undisturbed.work {token after : Bool} {p : Progress} {left right : List Job} {job : Job}
    {phase : Phase} (h : Undisturbed b (token, p)) (hresult : p.result = none)
    (hjobs : p.jobs = left ++ job :: right) (hmove : Move b job token after phase) :
    Undisturbed b (after, p.enter left job right phase)
      ∨ Doomed (after, p.enter left job right phase) := by
  cases after with
  | true => exact .inr (.of_move hresult hmove)
  | false =>
    refine .inl (forall_mem_enter (hjobs ▸ h) fun ending hending => ?_)
    have hold := h job (by simp [hjobs])
    generalize hafter : false = after at hmove
    cases hmove with
    | ask _ => cases hending
    | give _ hgiven | fail _ hgiven | panic _ hgiven =>
      cases hending
      obtain ⟨rfl, rfl⟩ := Bool.or_eq_false_iff.1 hafter.symm
      exact hgiven
    | put hphase =>
      subst hafter
      exact hold ending (by rw [hphase]; exact hending)

theorem Undisturbed.step (h : Undisturbed b s) (hstep : Step b s t) :
    Undisturbed b t ∨ Doomed t := by
  cases hstep with
  | work hresult hjobs hmove => exact h.work hresult hjobs hmove
  | cancel | look _ | wait _ _ | giveUp _ _ | breakDown _ _ _ _ | finish _ _ _ => exact .inl h
  | @notice _ _ _ _ job _ _ _ hjobs hphase =>
    refine .inl (forall_mem_enter (hjobs ▸ h) fun ending hending => ?_)
    exact h job (by simp [hjobs]) ending (by rw [hphase]; exact hending)

theorem undisturbed_or_doomed {cacheUrl : String} {refs : Refs} {token : Bool}
    (hrun : Reaches b (token, .start cacheUrl refs) s) : Undisturbed b s ∨ Doomed s := by
  induction hrun with
  | refl =>
    refine .inl fun job hjob ending hending => ?_
    obtain ⟨entry, -, rfl⟩ := List.mem_map.1 hjob
    cases hending
  | tail _ hstep ih =>
    rcases ih with h | h
    · exact h.step hstep
    · exact .inr (h.step hstep)

section

variable {cacheUrl : String} {refs : Refs} {token : Bool}

theorem token_of_unnoticed {m : SortedMap String} (hrefs : (refs.map Prod.fst).Nodup)
    (hstart : Reaches b (token, .start cacheUrl refs) s) (hrun : Reaches b s t)
    (hresult : t.2.result = some (.ok m))
    (hunnoticed : ∃ job ∈ s.2.jobs, ¬∃ answer, job.phase = .noticed answer) : s.1 = false := by
  by_contra htoken
  have hdoomed : Doomed s := {
    token := by simpa using htoken
    unnoticed := fun _ => hunnoticed
    partly := fun m hm => by
      obtain ⟨job, hjob, hnot⟩ := hunnoticed
      cases ((Sound.start b cacheUrl refs token).run hrefs hstart).result _ hm with
      | whole hjobs => exact hnot (hjobs job hjob) }
  exact (hdoomed.run hrun).partly m hresult

theorem Sound.get?_of_noticed (h : Sound b cacheUrl refs s)
    (hjobs : ∀ job ∈ s.2.jobs, ∃ answer, job.phase = .noticed answer) (platform path : String) :
    s.2.paths.get? platform = some path
      ↔ ∃ job ∈ s.2.jobs, job.platform = platform ∧ job.phase = .noticed (.ok path) := by
  rw [h.paths]
  refine exists_congr fun job => and_congr_right fun hjob => and_congr_right fun _ => ?_
  obtain ⟨answer, hphase⟩ := hjobs job hjob
  rw [hphase]
  cases answer <;> simp [Phase.path?]

end

theorem lookup_of_result {b : Behaviour} {cacheUrl : String} {refs : Refs} {token : Bool}
    {s : Bool × Progress} (hrefs : (refs.map Prod.fst).Nodup)
    (hrun : Reaches b (token, .start cacheUrl refs) s) {m : SortedMap String}
    (hresult : s.2.result = some (.ok m)) {platform path : String}
    (hpath : m.get? platform = some path) :
    ∃ ref before after, (platform, ref) ∈ refs
      ∧ b ref cacheUrl before after (.returned (.ok path)) := by
  have hsound := (Sound.start b cacheUrl refs token).run hrefs hrun
  cases hsound.result _ hresult with
  | whole hjobs =>
    obtain ⟨job, hjob, hplatform, hphase⟩ := (hsound.get?_of_noticed hjobs platform path).1 hpath
    have horder : job.order ∈ s.2.jobs.map Job.order := List.mem_map_of_mem hjob
    rw [hsound.launched] at horder
    obtain ⟨⟨p, ref⟩, hentry, hsame⟩ := List.mem_map.1 horder
    simp only [Job.order, hplatform, Prod.mk.injEq] at hsame
    obtain ⟨rfl, rfl, rfl⟩ := hsame
    obtain ⟨before, after, hanswer⟩ := hsound.endings job hjob _ (by rw [hphase]; rfl)
    exact ⟨job.ref, before, after, List.mem_of_mem_filter hentry, hanswer⟩

/-- However the tasks, the token and the fan-out take turns, a result is one of three. Store paths:
then every task was answered and noticed, the token was not cancelled before the last end was
noticed, and the paths are all those that were found. A cancellation: then the token is cancelled. A
breakdown: then some lookup panicked. -/
theorem never_truncated (b : Behaviour) (cacheUrl : String) (refs : PlatformMap Store.Ref)
    {token : Bool} {s : Bool × Progress} {r : Except Error (SortedMap String)}
    (hrun : Reaches b (token, .start cacheUrl refs.entries) s) (hresult : s.2.result = some r) :
    (∃ m, r = .ok m
      ∧ s.2.jobs.map Job.order
        = (wanted refs.entries).map (fun entry => (entry.1, entry.2, cacheUrl))
      ∧ (∀ job ∈ s.2.jobs, ∃ answer, job.phase = .noticed answer
        ∧ b job.ref job.cacheUrl false false (.returned answer))
      ∧ (∀ mid, Reaches b (token, .start cacheUrl refs.entries) mid → Reaches b mid s →
        (∃ job ∈ mid.2.jobs, ¬∃ answer, job.phase = .noticed answer) → mid.1 = false)
      ∧ ∀ platform path, m.get? platform = some path
        ↔ ∃ job ∈ s.2.jobs, job.platform = platform ∧ job.phase = .noticed (.ok path))
    ∨ (r = .error .cancelled ∧ s.1 = true)
    ∨ ∃ problem, r = .error (.fanout problem) ∧ ∃ job ∈ s.2.jobs, job.phase = .panicked
      ∧ ∃ before after, b job.ref job.cacheUrl before after .panicked := by
  have hsound := (Sound.start b cacheUrl refs.entries token).run refs.distinct hrun
  cases hsound.result r hresult with
  | whole hjobs =>
    refine .inl ⟨s.2.paths, rfl, hsound.launched, fun job hjob => ?_, ?_, ?_⟩
    · obtain ⟨answer, hphase⟩ := hjobs job hjob
      refine ⟨answer, hphase, ?_⟩
      rcases undisturbed_or_doomed hrun with hcalm | hdoomed
      · exact hcalm job hjob (.returned answer) (by rw [hphase]; rfl)
      · exact absurd hresult (hdoomed.partly _)
    · intro mid hstart hrest hunnoticed
      exact token_of_unnoticed refs.distinct hstart hrest hresult hunnoticed
    · exact hsound.get?_of_noticed hjobs
  | cancelled htoken => exact .inr (.inl ⟨rfl, htoken⟩)
  | brokenDown hjob hphase =>
    exact .inr (.inr ⟨_, rfl, _, hjob, hphase, hsound.endings _ hjob _ (by rw [hphase]; rfl)⟩)

theorem never_truncated_smallCache :
    ∃ s m, Reaches smallCache.behaviour (false, .start smallCache.cacheUrl threeRefs.entries) s
      ∧ s.2.result = some (.ok m) ∧ m.entries = [("x86_64-linux", "/nix/store/a-n")]
      ∧ ∀ platform path, m.get? platform = some path
        ↔ ∃ job ∈ s.2.jobs, job.platform = platform ∧ job.phase = .noticed (.ok path) := by
  have hresolve : ((smallCache.resolve threeRefs.entries).course false).outcome
      = .returned (.ok (SortedMap.ofList [("x86_64-linux", "/nix/store/a-n")])) := by
    decide +kernel
  have hkeeps : smallCache.KeepsToken := fun _ _ => rfl
  obtain ⟨q, hrun, hresult⟩ := reaches_resolve hkeeps threeRefs.entries hresolve
  rcases never_truncated smallCache.behaviour smallCache.cacheUrl threeRefs hrun hresult with
    ⟨m, hm, -, -, -, hpaths⟩ | ⟨hcancelled, -⟩ | ⟨problem, hfanout, -⟩
  · obtain rfl := Except.ok.inj hm
    exact ⟨_, _, hrun, hresult, rfl, hpaths⟩
  · cases hcancelled
  · cases hfanout

end Pinning.Fanout
