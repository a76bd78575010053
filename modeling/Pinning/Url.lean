import Pinning.Url.Form
import Pinning.Url.Host
/-!
URLs in their parts. All parts hold their written, percent-encoded form. A path is either a list of
segments, or plain text in a URL that no relative reference can be resolved against.
-/

set_option autoImplicit false
set_option relaxedAutoImplicit false

namespace Pinning

namespace Url

structure Credentials where
  user : String := ""
  password : Option String := none
  deriving DecidableEq

def Credentials.isEmpty (c : Credentials) : Bool := c.user == "" && c.password.isNone

/-- Whom a request goes to. The port is absent when it is the usual one of the scheme. -/
structure Authority where
  credentials : Credentials
  host : Host
  port : Option Nat
  deriving DecidableEq

inductive Path
  | plain (text : String)
  | segments (names : List String)
  deriving DecidableEq

/-- The written form of a path; each segment stands behind a slash. -/
def Path.render : Path → String
  | .plain text => text
  | .segments names => String.join (names.map ("/" ++ ·))

def Path.endsWithSlash : Path → Bool
  | .plain text => text.toList.getLast? == some '/'
  | .segments names => names.getLast? == some ""

end Url

structure Url where
  scheme : String
  authority : Option Url.Authority
  path : Url.Path
  query : Option String
  fragment : Option String
  deriving DecidableEq

namespace Url

/-- The written form of credentials in front of a host. -/
def Credentials.render (c : Credentials) : String :=
  if c.isEmpty then "" else c.user ++ (c.password.elim "" (":" ++ ·)) ++ "@"

def Authority.render (a : Authority) : String :=
  a.credentials.render ++ String.ofList a.host.render
    ++ a.port.elim "" fun port => ":" ++ String.ofList (Text.decimal port)

/-- What stands between scheme and path. Without an authority a path that begins with two slashes is
marked by a dot segment, since it would be read as an authority. -/
def authorityText (u : Url) : String :=
  match u.authority, u.path with
  | some a, _ => "//" ++ a.render
  | none, .segments ("" :: _ :: _) => "/."
  | none, _ => ""

def render (u : Url) : String :=
  u.scheme ++ ":" ++ u.authorityText ++ u.path.render
    ++ u.query.elim "" ("?" ++ ·) ++ u.fragment.elim "" ("#" ++ ·)

/-- The schemes with an authority and a hierarchical path, other than that of files. -/
def isNetworkScheme (scheme : String) : Bool :=
  ["http", "https", "ws", "wss", "ftp"].contains scheme

def isSpecialScheme (scheme : String) : Bool := isNetworkScheme scheme || scheme == "file"

def usualPort? (scheme : String) : Option Nat :=
  if scheme = "http" ∨ scheme = "ws" then some 80
  else if scheme = "https" ∨ scheme = "wss" then some 443
  else if scheme = "ftp" then some 21
  else none

/-- The same URL with its path made to end in a slash. Plain text that would begin with a slash
begins with an encoded one. -/
def withFinalSlash (u : Url) : Url :=
  if u.path.endsWithSlash then u
  else match u.path with
    | .segments names => { u with path := .segments (names ++ [""]) }
    | .plain text => { u with path := .plain (if text = "" then "%2F" else text ++ "/") }

def withPairs (u : Url) (pairs : List (String × String)) : Url :=
  let added := String.ofList (Form.encodePairs pairs)
  match u.query with
  | some query => { u with query := some (if query = "" then added else query ++ "&" ++ added) }
  | none => { u with query := some added }

end Url

end Pinning
