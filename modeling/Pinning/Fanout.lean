import Pinning.Activity
import Pinning.Error
import Pinning.Platform
import Pinning.Services
import Pinning.SortedMap
/-!
Looking up the store paths of many platforms at once. Each lookup is a task of its own, and one that
fails only drops its platform. The fan-out as a whole fails if the caller cancels before all tasks
have ended, or else if one of them panics.
-/

set_option autoImplicit false
set_option relaxedAutoImplicit false

namespace Pinning

abbrev Fanout.Refs := List (String × Store.Ref)

abbrev Fanout.Endings := List (String × Outcome (Except Store.Error String))

/-- A way to look up store paths, and the binary cache that is asked. -/
structure Fanout where
  lookup : Store.Ref → String → Activity (Except Store.Error String)
  cacheUrl : String

namespace Fanout

def describe (cacheUrl : String) : String :=
  "StorePathFanout \x7b cache_url: " ++ Text.quoted cacheUrl ++ ", .. \x7d"

/-- The build outputs that are looked up. -/
def wanted (refs : Refs) : Refs := refs.filter fun entry => entry.2.isComplete

def task (f : Fanout) (ref : Store.Ref) : Activity (Outcome (Except Store.Error String)) := do
  Activity.note (.lookup ref f.cacheUrl)
  (f.lookup ref f.cacheUrl).asTask

def tasks (f : Fanout) : Refs → Activity Endings
  | [] => pure []
  | (platform, ref) :: rest => do
    let ending ← f.task ref
    let endings ← f.tasks rest
    pure ((platform, ending) :: endings)

def found? (entry : String × Outcome (Except Store.Error String)) : Option (String × String) :=
  match entry.2 with
  | .returned (.ok path) => some (entry.1, path)
  | _ => none

def found (endings : Endings) : SortedMap String := SortedMap.ofList (endings.filterMap found?)

def isPanic (entry : String × Outcome (Except Store.Error String)) : Bool :=
  match entry.2 with
  | .panicked => true
  | _ => false

def isWait (entry : String × Outcome (Except Store.Error String)) : Bool :=
  match entry.2 with
  | .unanswered => true
  | _ => false

/-- What a fan-out yields, given the token and how its tasks ended. -/
def gather (cancelled : Bool) (endings : Endings) : Outcome (Except Error (SortedMap String)) :=
  if cancelled then .returned (.error .cancelled)
  else if endings.any isPanic then .returned (.error (.fanout "task panicked"))
  else if endings.any isWait then .unanswered
  else .returned (.ok (found endings))

/-- Wait for tasks that have been carried out. -/
def join (endings : Endings) : Activity (Except Error (SortedMap String)) := do
  Activity.ended (gather (← Activity.isCancelled) endings)

/-- Look up the store paths of all build outputs that are complete, unless the token is cancelled
already. -/
def resolve (f : Fanout) (refs : Refs) : Activity (Except Error (SortedMap String)) := do
  if ← Activity.isCancelled then pure (.error .cancelled)
  else join (← f.tasks (wanted refs))

end Fanout

end Pinning
