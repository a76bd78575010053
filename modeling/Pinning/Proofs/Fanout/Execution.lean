import Pinning.Fanout.Schedule
import Pinning.Proofs.Activity
/-!
Carrying a fan-out out task by task is one of the ways in which it can run.
-/

set_option autoImplicit false
set_option relaxedAutoImplicit false

namespace Pinning.Fanout

open Activity (course_bind_of_returned)

variable (f : Fanout)

def KeepsToken : Prop := ∀ ref cacheUrl, (f.lookup ref cacheUrl).KeepsToken

def lookupCourse (ref : Store.Ref) (cancelled : Bool) : Course (Except Store.Error String) :=
  (f.lookup ref f.cacheUrl).course cancelled

private theorem course_task (ref : Store.Ref) (cancelled : Bool) :
    (f.task ref).course cancelled
      = ⟨.lookup ref f.cacheUrl :: (f.lookupCourse ref cancelled).events,
          (f.lookupCourse ref cancelled).cancelled,
          .returned (f.lookupCourse ref cancelled).outcome⟩ := rfl

theorem course_tasks_cons (platform : String) (ref : Store.Ref) (rest : Refs) (cancelled : Bool)
    {endings : Endings}
    (hrest : ((f.tasks rest).course (f.lookupCourse ref cancelled).cancelled).outcome
      = .returned endings) :
    (f.tasks ((platform, ref) :: rest)).course cancelled
      = ⟨.lookup ref f.cacheUrl :: ((f.lookupCourse ref cancelled).events
            ++ ((f.tasks rest).course (f.lookupCourse ref cancelled).cancelled).events),
          ((f.tasks rest).course (f.lookupCourse ref cancelled).cancelled).cancelled,
          .returned ((platform, (f.lookupCourse ref cancelled).outcome) :: endings)⟩ := by
  rw [tasks, course_bind_of_returned (by rw [course_task])]
  simp only [course_task]
  rw [course_bind_of_returned hrest]
  simp

def Phase.ofEnding : Outcome (Except Store.Error String) → Phase
  | .returned answer => .ended answer
  | .panicked => .panicked
  | .unanswered => .asking

def pathsAfter (paths : SortedMap String) (platform : String) :
    Outcome (Except Store.Error String) → SortedMap String
  | .returned (.ok path) => paths.insert platform path
  | _ => paths

variable {f}

private theorem reaches_task (hkeeps : f.KeepsToken) {token : Bool} {p : Progress}
    {left right : List Job} {job : Job} (hresult : p.result = none)
    (hjobs : p.jobs = left ++ job :: right) (hphase : job.phase = .ready)
    {c : Course (Except Store.Error String)}
    (hc : (f.lookup job.ref job.cacheUrl).course token = c) :
    ∃ q, Reaches f.behaviour (token, p) (c.cancelled, q) ∧ q.result = none ∧ q.looked = p.looked
      ∧ q.jobs = left ++ job.enter (.ofEnding c.outcome) :: right
      ∧ q.paths = pathsAfter p.paths job.platform c.outcome := by
  have htoken : (token || c.cancelled) = c.cancelled := by
    cases token with
    | false => rfl
    | true => rw [← hc, hkeeps job.ref job.cacheUrl]; rfl
  have hask : Reaches f.behaviour (token, p) (token, p.enter left job right .asking) :=
    .single (.work hresult hjobs (.ask hphase))
  have hanswer : f.behaviour job.ref job.cacheUrl token c.cancelled c.outcome :=
    ⟨by rw [hc], by rw [hc]⟩
  let asking := job.enter .asking
  cases hending : c.outcome with
  | returned answer =>
    rw [hending] at hanswer
    cases answer with
    | ok path =>
      have hgive : Move f.behaviour asking token c.cancelled (.holding path) :=
        htoken ▸ .give rfl hanswer
      have hput : Move f.behaviour (asking.enter (.holding path)) c.cancelled c.cancelled
          (.ended (.ok path)) := .put rfl
      exact ⟨_, (hask.tail (.work hresult rfl hgive)).tail (.work hresult rfl hput),
        hresult, rfl, rfl, rfl⟩
    | error cause =>
      have hfail : Move f.behaviour asking token c.cancelled (.ended (.error cause)) :=
        htoken ▸ .fail rfl hanswer
      exact ⟨_, hask.tail (.work hresult rfl hfail), hresult, rfl, rfl, rfl⟩
  | panicked =>
    rw [hending] at hanswer
    have hpanic : Move f.behaviour asking token c.cancelled .panicked :=
      htoken ▸ .panic rfl hanswer
    exact ⟨_, hask.tail (.work hresult rfl hpanic), hresult, rfl, rfl, rfl⟩
  | unanswered =>
    refine ⟨p.enter left job right .asking, ?_, hresult, rfl, rfl, rfl⟩
    cases hcancelled : c.cancelled with
    | false =>
      have hbefore : token = false := by simpa [hcancelled] using htoken
      exact hbefore ▸ hask
    | true => exact hask.tail .cancel

def Ended (jobs : List Job) (endings : Endings) : Prop :=
  jobs.map Job.phase = endings.map fun entry => .ofEnding entry.2

theorem reaches_tasks (hkeeps : f.KeepsToken) (refs : Refs) {token : Bool} {p : Progress}
    {left : List Job} (hresult : p.result = none)
    (hjobs : p.jobs = left ++ refs.map fun entry => ⟨entry.1, entry.2, f.cacheUrl, .ready⟩) :
    ∃ endings q new, ((f.tasks refs).course token).outcome = .returned endings
      ∧ Reaches f.behaviour (token, p) (((f.tasks refs).course token).cancelled, q)
      ∧ q.result = none ∧ q.looked = p.looked ∧ q.jobs = left ++ new ∧ Ended new endings
      ∧ q.paths = (endings.filterMap found?).foldl (fun m entry => m.insert entry.1 entry.2)
          p.paths := by
  induction refs generalizing token p left with
  | nil => exact ⟨[], p, [], rfl, .refl, hresult, rfl, by simpa using hjobs, rfl, rfl⟩
  | cons entry rest ih =>
    obtain ⟨platform, ref⟩ := entry
    obtain ⟨q, hreach, hqresult, hqlooked, hqjobs, hqpaths⟩ :=
      reaches_task hkeeps hresult hjobs rfl (c := f.lookupCourse ref token) rfl
    rw [List.append_cons] at hqjobs
    obtain ⟨endings, q', new, hends, hreach', hresult', hlooked', hjobs', hended, hpaths'⟩ :=
      ih hqresult hqjobs
    have hcourse := f.course_tasks_cons platform ref rest token hends
    refine ⟨(platform, (f.lookupCourse ref token).outcome) :: endings, q', _ :: new, ?_, ?_,
      hresult', hlooked'.trans hqlooked, hjobs'.trans (List.append_assoc _ [_] _), ?_, ?_⟩
    · rw [hcourse]
    · rw [hcourse]
      exact hreach.trans hreach'
    · exact congrArg (_ :: ·) hended
    · rw [hpaths', hqpaths, List.filterMap_cons, lookupCourse]
      cases ((f.lookup ref f.cacheUrl).course token).outcome with
      | returned answer => cases answer <;> rfl
      | panicked => rfl
      | unanswered => rfl

private theorem reaches_finish {b : Behaviour} {rest left : List Job} {p : Progress}
    (hresult : p.result = none) (hjobs : p.jobs = left ++ rest)
    (hleft : ∀ job ∈ left, ∃ answer, job.phase = .noticed answer)
    (hrest : ∀ job ∈ rest, ∃ answer, job.phase = .ended answer) :
    ∃ q, Reaches b (false, p) (false, q) ∧ q.result = some (.ok p.paths) := by
  have hlook : Reaches b (false, p) (false, { p with looked := true }) := .single (.look hresult)
  induction rest generalizing left p with
  | nil =>
    rw [List.append_nil] at hjobs
    exact ⟨_, hlook.tail (.finish hresult rfl (hjobs ▸ hleft)), rfl⟩
  | cons job rest ih =>
    obtain ⟨answer, hphase⟩ := hrest job List.mem_cons_self
    have hnotice : Step b (false, { p with looked := true })
        (false, Progress.notice { p with looked := true } left job rest answer) :=
      .notice hresult rfl hjobs hphase
    have hnoticed : ∀ other ∈ left ++ [job.enter (.noticed answer)],
        ∃ answer, other.phase = .noticed answer := by
      intro other hother
      rcases List.mem_append.1 hother with hother | hother
      · exact hleft other hother
      · exact ⟨answer, by rw [List.mem_singleton.1 hother]; rfl⟩
    have hlater : ∀ other ∈ rest, ∃ answer, other.phase = .ended answer :=
      fun other hother => hrest other (List.mem_cons_of_mem _ hother)
    -- The look was spent on this notice; the rest begins with the next one.
    obtain ⟨q, hreach, hq⟩ :=
      ih (p := Progress.notice { p with looked := true } left job rest answer)
      hresult (List.append_cons _ _ _) hnoticed hlater (.single (.look hresult))
    exact ⟨q, (hlook.tail hnotice).trans hreach, hq⟩

theorem Ended.answered {jobs : List Job} {endings : Endings} (h : Ended jobs endings)
    (hpanic : endings.any isPanic = false) (hwait : endings.any isWait = false) :
    ∀ job ∈ jobs, ∃ answer, job.phase = .ended answer := by
  intro job hjob
  obtain ⟨⟨platform, ending⟩, hentry, hphase⟩ := List.mem_map.1 (h ▸ List.mem_map_of_mem hjob)
  rw [← hphase]
  cases ending with
  | returned answer => exact ⟨answer, rfl⟩
  | panicked => exact absurd (List.any_eq_false.1 hpanic _ hentry) (by simp [isPanic])
  | unanswered => exact absurd (List.any_eq_false.1 hwait _ hentry) (by simp [isWait])

theorem Ended.panicked {jobs : List Job} {endings : Endings} (h : Ended jobs endings)
    (hpanic : endings.any isPanic = true) : ∃ job ∈ jobs, job.phase = .panicked := by
  obtain ⟨⟨platform, ending⟩, hentry, hending⟩ := List.any_eq_true.1 hpanic
  have hmem : Phase.ofEnding ending ∈ jobs.map Job.phase := h ▸ List.mem_map_of_mem hentry
  obtain ⟨job, hjob, hphase⟩ := List.mem_map.1 hmem
  refine ⟨job, hjob, ?_⟩
  cases ending with
  | returned answer => simp [isPanic] at hending
  | panicked => exact hphase
  | unanswered => simp [isPanic] at hending

private theorem reaches_gather {b : Behaviour} {token : Bool} {p : Progress} {endings : Endings}
    {r : Except Error (SortedMap String)} (hresult : p.result = none) (hlooked : p.looked = false)
    (hended : Ended p.jobs endings) (hpaths : p.paths = found endings)
    (hgather : gather token endings = .returned r) :
    ∃ q, Reaches b (token, p) (token, q) ∧ q.result = some r := by
  cases token with
  | true =>
    obtain rfl := Outcome.returned.inj hgather
    exact ⟨_, .single (.giveUp hresult hlooked), rfl⟩
  | false =>
    simp only [gather, Bool.false_eq_true, if_false] at hgather
    split at hgather
    · next hpanic =>
      obtain rfl := Outcome.returned.inj hgather
      obtain ⟨job, hjob, hphase⟩ := hended.panicked hpanic
      exact ⟨_, .tail (.single (.look hresult)) (.breakDown hresult rfl hjob hphase), rfl⟩
    · next hpanic =>
      split at hgather
      · cases hgather
      · next hwait =>
        obtain rfl := Outcome.returned.inj hgather
        rw [← hpaths]
        exact reaches_finish hresult (List.nil_append _).symm (by simp)
          (hended.answered (by simpa using hpanic) (by simpa using hwait))

theorem reaches_resolve (hkeeps : f.KeepsToken) (refs : Refs) {token : Bool}
    {r : Except Error (SortedMap String)}
    (hresolve : ((f.resolve refs).course token).outcome = .returned r) :
    ∃ q, Reaches f.behaviour (token, .start f.cacheUrl refs)
        (((f.resolve refs).course token).cancelled, q)
      ∧ q.result = some r := by
  cases token with
  | true =>
    have hr : r = .error .cancelled := (Outcome.returned.inj hresolve).symm
    subst hr
    exact ⟨_, .single (.giveUp rfl rfl), rfl⟩
  | false =>
    have hjobs : (Progress.start f.cacheUrl refs).jobs
        = [] ++ (wanted refs).map fun entry => ⟨entry.1, entry.2, f.cacheUrl, .ready⟩ := rfl
    obtain ⟨endings, p, jobs, hends, hreach, hresult, hlooked, hjobs, hended, hpaths⟩ :=
      reaches_tasks hkeeps (wanted refs) rfl hjobs
    have hcourse : (f.resolve refs).course false
        = (f.tasks (wanted refs) >>= join).course false := rfl
    rw [hcourse, course_bind_of_returned hends] at hresolve ⊢
    obtain ⟨q, hreach', hq⟩ := reaches_gather (b := f.behaviour) hresult hlooked
      (by rw [hjobs]; exact hended) hpaths hresolve
    exact ⟨q, hreach.trans hreach', hq⟩

def smallAnswer (ref : Store.Ref) (_ : String) : Except Store.Error String :=
  if ref.hash = "a" then .ok "/nix/store/a-n" else .error (.miss ref.hash)

def smallCache : Fanout where
  lookup := fun ref cacheUrl => pure (smallAnswer ref cacheUrl)
  cacheUrl := "https://cache.example"

/-- A build output that the small cache knows, one that it does not know, and one without a name. -/
def threeRefs : PlatformMap Store.Ref where
  entries :=
    [("x86_64-linux", ⟨"a", "n"⟩), ("aarch64-linux", ⟨"b", "n"⟩), ("aarch64-darwin", ⟨"a", ""⟩)]
  distinct := by decide

end Pinning.Fanout
