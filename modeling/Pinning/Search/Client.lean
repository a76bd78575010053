import Pinning.Activity
import Pinning.Http.Base
import Pinning.Search.Codec
import Pinning.Search.Error
/-!
Asking the search service. Both protocols are asked at an endpoint of their own for a name and a
version, which stand in the query.
-/

set_option autoImplicit false
set_option relaxedAutoImplicit false

namespace Pinning.Search

open Http (Exchange Network Response)

/-- A search service, and how requests to it are made. -/
structure Client where
  http : Http.Client
  base : Url
  deriving DecidableEq

def endpointPath : Protocol → String
  | .legacy => "v1/resolve"
  | .enriched => "v2/resolve"

def recordOfResponse {α : Type} (read : Json → Option α) (url : Url) (r : Response) :
    Except Error α :=
  if r.isMissing then .error .notFound
  else if !r.isSuccess then .error (.status r.status url.render)
  else match r.json?.bind read with
    | some record => .ok record
    | none => .error (.decode Http.unreadableBody)

namespace Client

def of (http : Http.Client) (written : String) : Except Pinning.Error Client := do
  pure { http, base := ← Http.baseUrl written }

/-- Where a protocol is asked for a name and a version. -/
def endpoint (client : Client) (protocol : Protocol) (name version : String) : Except Error Url :=
  match Url.join client.base (endpointPath protocol) with
  | .error cause => .error (.transport cause.message)
  | .ok url => .ok (url.withPairs [("name", name), ("version", version)])

def fetch {α : Type} (client : Client) (read : Json → Option α) (url : Url) :
    Exchange (Except Error α) := do
  match ← client.http.get Http.anything url with
  | .error problem => pure (.error (.transport problem))
  | .ok r => pure (recordOfResponse read url r)

def single (client : Client) (network : Network) (name version : String) :
    Activity (Except Error LegacyRecord) :=
  match client.endpoint .legacy name version with
  | .error cause => pure (.error cause)
  | .ok url => (client.fetch LegacyRecord.ofJson? url).over network

/-- Ask by the enriched protocol. The caller may cancel. -/
def versioned (client : Client) (network : Network) (name version : String) :
    Activity (Except Error EnrichedRecord) :=
  match client.endpoint .enriched name version with
  | .error cause => pure (.error cause)
  | .ok url => do
    let answer ← ((client.fetch EnrichedRecord.ofJson? url).over network).unlessCancelled
    pure (answer.getD (.error .cancelled))

end Client

end Pinning.Search
