import Mathlib.Logic.Relation
import Pinning.Fanout
/-!
All the ways in which a fan-out can run. Tasks start, are answered and put their store paths down in
any order, while the fan-out itself looks at the token and takes notice of one ended task at a time.
It looks at the token before every notice, gives up once it sees it cancelled, and is done when it
has noticed the end of every task.
-/

set_option autoImplicit false
set_option relaxedAutoImplicit false

namespace Pinning.Fanout

/-- How a lookup may end: for a build output, a binary cache, the token before, the token after, and
the ending. -/
abbrev Behaviour := Store.Ref → String → Bool → Bool → Outcome (Except Store.Error String) → Prop

/-- The behaviour of the store that a fan-out asks. -/
def behaviour (f : Fanout) : Behaviour := fun ref cacheUrl before after ending =>
  ((f.lookup ref cacheUrl).course before).cancelled = after
    ∧ ((f.lookup ref cacheUrl).course before).outcome = ending

/-- How far a task has come. -/
inductive Phase
  | ready
  | asking
  /-- The store has given a path that is not put down yet. -/
  | holding (path : String)
  | ended (answer : Except Store.Error String)
  | panicked
  | noticed (answer : Except Store.Error String)

/-- A task of a fan-out. -/
structure Job where
  platform : String
  ref : Store.Ref
  cacheUrl : String
  phase : Phase

def Job.enter (job : Job) (phase : Phase) : Job := { job with phase }

/-- A fan-out under way. -/
structure Progress where
  jobs : List Job
  paths : SortedMap String := ∅
  asked : List (Store.Ref × String) := []
  /-- The token was looked at, and not cancelled, since the last notice. -/
  looked : Bool := false
  result : Option (Except Error (SortedMap String)) := none

namespace Progress

def start (cacheUrl : String) (refs : Refs) : Progress where
  jobs := (wanted refs).map fun entry => ⟨entry.1, entry.2, cacheUrl, .ready⟩

def pathsWith (p : Progress) (job : Job) : Phase → SortedMap String
  | .ended (.ok path) => p.paths.insert job.platform path
  | _ => p.paths

/-- What the store has been asked for when a task enters a phase. -/
def askedWith (p : Progress) (job : Job) : Phase → List (Store.Ref × String)
  | .asking => p.asked ++ [(job.ref, job.cacheUrl)]
  | _ => p.asked

/-- The fan-out in which the task between some others has entered a phase. -/
def enter (p : Progress) (left : List Job) (job : Job) (right : List Job) (phase : Phase) :
    Progress :=
  { p with
    jobs := left ++ job.enter phase :: right
    paths := p.pathsWith job phase
    asked := p.askedWith job phase }

/-- The fan-out that has taken notice of the task between some others. -/
def notice (p : Progress) (left : List Job) (job : Job) (right : List Job)
    (answer : Except Store.Error String) : Progress :=
  { p with jobs := left ++ job.enter (.noticed answer) :: right, looked := false }

end Progress

/-- What a task does by itself: the token before and after, and the phase it enters. -/
inductive Move (b : Behaviour) (job : Job) : Bool → Bool → Phase → Prop
  | ask {token : Bool} (hphase : job.phase = .ready) : Move b job token token .asking
  | give {token after : Bool} {path : String} (hphase : job.phase = .asking)
      (hanswer : b job.ref job.cacheUrl token after (.returned (.ok path))) :
      Move b job token (token || after) (.holding path)
  | fail {token after : Bool} {cause : Store.Error} (hphase : job.phase = .asking)
      (hanswer : b job.ref job.cacheUrl token after (.returned (.error cause))) :
      Move b job token (token || after) (.ended (.error cause))
  | panic {token after : Bool} (hphase : job.phase = .asking)
      (hanswer : b job.ref job.cacheUrl token after .panicked) :
      Move b job token (token || after) .panicked
  | put {token : Bool} {path : String} (hphase : job.phase = .holding path) :
      Move b job token token (.ended (.ok path))

/-- One step of a fan-out that shares a token with its caller. -/
inductive Step (b : Behaviour) : Bool × Progress → Bool × Progress → Prop
  | work {token after : Bool} {p : Progress} {left right : List Job} {job : Job} {phase : Phase}
      (hresult : p.result = none) (hjobs : p.jobs = left ++ job :: right)
      (hmove : Move b job token after phase) :
      Step b (token, p) (after, p.enter left job right phase)
  | cancel {token : Bool} {p : Progress} : Step b (token, p) (true, p)
  | look {p : Progress} (hresult : p.result = none) :
      Step b (false, p) (false, { p with looked := true })
  /-- The fan-out is not told of any end and waits until it is woken. -/
  | wait {token : Bool} {p : Progress} (hresult : p.result = none) (hlooked : p.looked = true) :
      Step b (token, p) (token, { p with looked := false })
  | giveUp {p : Progress} (hresult : p.result = none) (hlooked : p.looked = false) :
      Step b (true, p) (true, { p with result := some (.error .cancelled) })
  | notice {token : Bool} {p : Progress} {left right : List Job} {job : Job}
      {answer : Except Store.Error String} (hresult : p.result = none)
      (hlooked : p.looked = true) (hjobs : p.jobs = left ++ job :: right)
      (hphase : job.phase = .ended answer) :
      Step b (token, p) (token, p.notice left job right answer)
  | breakDown {token : Bool} {p : Progress} {job : Job} {problem : String}
      (hresult : p.result = none) (hlooked : p.looked = true) (hjob : job ∈ p.jobs)
      (hphase : job.phase = .panicked) :
      Step b (token, p) (token, { p with result := some (.error (.fanout problem)) })
  | finish {token : Bool} {p : Progress} (hresult : p.result = none) (hlooked : p.looked = true)
      (hjobs : ∀ job ∈ p.jobs, ∃ answer, job.phase = .noticed answer) :
      Step b (token, p) (token, { p with result := some (.ok p.paths) })

/-- A fan-out can get from one state to another. -/
def Reaches (b : Behaviour) : Bool × Progress → Bool × Progress → Prop :=
  Relation.ReflTransGen (Step b)

end Pinning.Fanout
