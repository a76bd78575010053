import Pinning.Http.Request
import Pinning.Json.Reader
/-!
Exchanges with a service: what is asked next depends on the replies so far. A network decides what
becomes of a request; it may reply, break the connection, or never reply at all.
-/

set_option autoImplicit false
set_option relaxedAutoImplicit false

namespace Pinning.Http

/-- What follows the head of a response. -/
structure Body where
  bytes : List UInt8 := []
  complete : Bool := true
  deriving DecidableEq

structure Response where
  status : Nat
  body : Body := {}
  deriving DecidableEq

namespace Response

def isSuccess (r : Response) : Bool := 200 ≤ r.status && r.status < 300

def isMissing (r : Response) : Bool := r.status == 404

def isBodiless (r : Response) : Bool := r.status == 204 || r.status == 304

def bytes? (r : Response) : Option (List UInt8) :=
  if r.isBodiless then some [] else if r.body.complete then some r.body.bytes else none

def text? (r : Response) : Option (List Char) := r.bytes?.map Text.decodeLossy

def json? (r : Response) : Option Json := r.bytes?.bind Json.ofBytes?

end Response

/-- The problem with a body that breaks off or does not hold what it should. -/
def unreadableBody : String := "error decoding response body"

inductive Reply
  | response (r : Response)
  | broken
  deriving DecidableEq

inductive Delivery
  | replied (reply : Reply)
  /-- No reply ever comes; the caller may cancel while waiting. -/
  | withheld (cancels : Bool)
  deriving DecidableEq

abbrev Network := Request → Delivery

/-- A computation that sends requests and goes on with the replies. -/
inductive Exchange (α : Type)
  | done (result : α)
  | send (request : Request) (next : Reply → Exchange α)

namespace Exchange

variable {α β : Type}

/-- Go on with the result of an exchange. -/
def bind (x : Exchange α) (f : α → Exchange β) : Exchange β :=
  match x with
  | done result => f result
  | send request next => send request fun reply => (next reply).bind f

instance : Monad Exchange where
  pure := done
  bind := bind

end Exchange

/-- Fetch a URL. The exchange ends with the response or with the reason why there is none. -/
def Client.get (client : Client) (accept : String) (url : Url) :
    Exchange (Except String Response) :=
  match client.request accept url with
  | .error problem => .done (.error problem)
  | .ok request => .send request fun
    | .response r => .done (.ok r)
    | .broken => .done (.error ("error sending request for url (" ++ request.url.render ++ ")"))

def anything : String := "*/*"

end Pinning.Http
