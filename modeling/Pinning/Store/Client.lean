import Pinning.Activity
import Pinning.Http.Base
import Pinning.Store.Narinfo
import Pinning.Store.Path
/-!
Looking store paths up in a binary cache. The cache describes the output of a hash at
`<hash>.narinfo`; what it says is only believed if it is a store path of that hash, and of the
wanted name if there is one.
-/

set_option autoImplicit false
set_option relaxedAutoImplicit false

namespace Pinning.Store

open Http (Exchange Network Response)

/-- Where a cache describes the output of a hash, or the problem with the URL. -/
def narinfoUrl (cacheUrl hash : String) : Except String Url :=
  match Http.baseUrl cacheUrl with
  | .error cause => .error cause.message
  | .ok base =>
    match Url.join base (hash ++ ".narinfo") with
    | .error cause => .error cause.message
    | .ok url => .ok url

/-- The store path that a response of the cache gives for a hash and a name. -/
def pathOfResponse (hash : String) (name : Option String) (r : Response) : Except Error String :=
  if r.isMissing then .error (.miss hash)
  else if !r.isSuccess then .error (.status r.status hash)
  else match r.text? with
    | none => .error (.transport Http.unreadableBody)
    | some document =>
      match Narinfo.storePath? document with
      | none => .error (.malformedNarinfo hash)
      | some path =>
        match verify (String.ofList path) hash name with
        | .error cause => .error cause
        | .ok () => .ok (String.ofList path)

/-- Ask a cache for the store path of a hash, and of a name if one is given. -/
def fetch (client : Http.Client) (hash : String) (name : Option String) (cacheUrl : String) :
    Exchange (Except Error String) :=
  match narinfoUrl cacheUrl hash with
  | .error problem => pure (.error (.transport problem))
  | .ok url => do
    match ← client.get Http.anything url with
    | .error problem => pure (.error (.transport problem))
    | .ok r => pure (pathOfResponse hash name r)

/-- Look up the store path of a hash, and of a name if one is given. -/
def lookup (client : Http.Client) (network : Network) (hash : String) (name : Option String)
    (cacheUrl : String) : Activity (Except Error String) := do
  let answer ← ((fetch client hash name cacheUrl).over network).unlessCancelled
  pure (answer.getD (.error .cancelled))

end Pinning.Store
