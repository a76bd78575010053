import Pinning.Activity
import Pinning.Http.Base
import Pinning.Json.Record
import Pinning.RunX.Error
import Pinning.RunX.Reference
/-!
Pinning references to released binaries. The release service is asked for the newest release or for
the release with a tag; tags often begin with a `v` that users leave out, so a version that does not
begin with one is tried both ways.
-/

set_option autoImplicit false
set_option relaxedAutoImplicit false

namespace Pinning.RunX

open Http (Exchange Network Response)

/-- A release service, and how requests to it are made. -/
structure Client where
  http : Http.Client
  base : Url
  deriving DecidableEq

def tagOfJson? (j : Json) : Option String := do
  (← j.fields? Json.strict ["tag_name"]).required "tag_name" Json.text?

/-- The tags that a version may mean, in the order in which they are tried. -/
def tagsToTry (version : String) : List String :=
  if version.toList.head? = some 'v' then [version] else [version, "v" ++ version]

/-- The releases that a reference may mean, in the order in which they are tried; none is the
newest. -/
def candidates (r : Reference) : List (Option String) :=
  if r.asksForLatest then [none] else (tagsToTry r.version).map some

/-- The path of a release below the service. -/
def releasePath (r : Reference) (tag : Option String) : String :=
  "repos/" ++ r.owner ++ "/" ++ r.repo ++ "/releases/" ++ tag.elim "latest" ("tags/" ++ ·)

/-- The tag that a response gives, or none if there is no such release. -/
def tagOfResponse (r : Response) : Except Error (Option String) :=
  if r.isMissing then .ok none
  else if !r.isSuccess then .error (.status r.status)
  else match r.json?.bind tagOfJson? with
    | some tag => .ok (some tag)
    | none => .error (.transport Http.unreadableBody)

namespace Client

def of (http : Http.Client) (written : String) : Except Pinning.Error Client := do
  pure { http, base := ← Http.baseUrl written }

def releaseUrl (client : Client) (r : Reference) (tag : Option String) : Except Error Url :=
  match Url.join client.base (releasePath r tag) with
  | .error cause => .error (.transport cause.message)
  | .ok url => .ok url

def fetch (client : Client) (url : Url) : Exchange (Except Error (Option String)) := do
  match ← client.http.get "application/vnd.github+json" url with
  | .error problem => pure (.error (.transport problem))
  | .ok r => pure (tagOfResponse r)

/-- Pin a reference to the first of some releases that exists. -/
def pinAmong (client : Client) (r : Reference) :
    List (Option String) → Exchange (Except Error Reference)
  | [] => pure (.error (.releaseNotFound r.owner r.repo r.version))
  | tag :: more =>
    match client.releaseUrl r tag with
    | .error cause => pure (.error cause)
    | .ok url => do
      match ← client.fetch url with
      | .error cause => pure (.error cause)
      | .ok (some found) => pure (.ok (r.withVersion found))
      | .ok none => client.pinAmong r more

/-- Pin a written reference. The caller may cancel, but a malformed reference is refused first. -/
def pin (client : Client) (network : Network) (written : String) :
    Activity (Except Error Reference) :=
  match Reference.parse written with
  | .error cause => pure (.error cause)
  | .ok r => do
    let answer ← ((client.pinAmong r (candidates r)).over network).unlessCancelled
    pure (answer.getD (.error .cancelled))

theorem pin_of_some {client : Client} {network : Network} {written : String} {r : Reference}
    (h : Reference.parse? written = some r) :
    client.pin network written
      = ((client.pinAmong r (candidates r)).over network).unlessCancelled >>= fun answer =>
          pure (answer.getD (.error .cancelled)) := by
  rw [pin, Reference.parse_of_some h]

theorem pin_of_none {client : Client} {network : Network} {written : String}
    (h : Reference.parse? written = none) :
    client.pin network written = pure (.error (.invalidReference written)) := by
  rw [pin, Reference.parse_of_none h]

end Client

/-- A bare version is tried with a `v` as well. -/
example : tagsToTry "1.55.2" = ["1.55.2", "v1.55.2"] ∧ tagsToTry "v2" = ["v2"] := by
  decide +kernel

end Pinning.RunX
