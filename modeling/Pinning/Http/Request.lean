import Pinning.Error
import Pinning.Text.Base64
import Pinning.Url
/-!
Requests: what is fetched, and the headers that say who asks and what for. The user of a URL does
not stay in it but is named in a header, and a URL of another scheme than `http` or `https` cannot
be requested.
-/

set_option autoImplicit false
set_option relaxedAutoImplicit false

namespace Pinning.Http

structure Request where
  url : Url
  accept : String
  userAgent : Option String
  authorization : Option String
  deriving DecidableEq

def withoutUser (url : Url) : Url :=
  { url with authority := url.authority.map fun a => { a with credentials := {} } }

def plain? (written : String) : Option (List Char) := Url.decoded? written.toList

def user? (url : Url) : Option (List Char × Option (List Char)) := do
  let authority ← url.authority
  let user ← plain? authority.credentials.user
  let password := authority.credentials.password.bind plain?
  if user.isEmpty && password.isNone then none else some (user, password)

def authorization (user : List Char) (password : Option (List Char)) : String :=
  "Basic " ++ String.ofList
    (Text.Base64.encode (Text.utf8Bytes (user ++ ':' :: password.getD [])))

def unsendable : List Char := ['"', '\x7b', '\x7d', Char.ofNat 0x60]

def maxUrlBytes : Nat := 65534

def isSendable (url : Url) : Bool :=
  (url.scheme == "http" || url.scheme == "https")
    && (url.authority.all fun a => a.host.render.all fun c => !unsendable.contains c)
    && url.render.utf8ByteSize ≤ maxUrlBytes

/-- What all requests of a program have in common. -/
structure Client where
  userAgent : Option String := none
  deriving DecidableEq

def isHeaderValue (s : String) : Bool :=
  s.toList.all fun c => c = '\t' || (0x20 ≤ c.toNat && c.toNat != 0x7F)

def Client.withAgent (agent : String) : Except Error Client :=
  if isHeaderValue agent then .ok { userAgent := some agent }
  else .error (.http "builder error")

/-- The request for a URL, or the reason why there is none. -/
def Client.request (client : Client) (accept : String) (url : Url) : Except String Request :=
  let (target, authorization) := match user? url with
    | some (user, password) => (withoutUser url, some (authorization user password))
    | none => (url, none)
  if isSendable target then
    .ok { url := target, accept, userAgent := client.userAgent, authorization }
  else .error ("builder error for url (" ++ target.render ++ ")")

end Pinning.Http
