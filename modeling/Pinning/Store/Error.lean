import Pinning.Text.Quoted
/-!
Why a store path is not found in a binary cache.
-/

set_option autoImplicit false
set_option relaxedAutoImplicit false

namespace Pinning.Store

inductive Error
  | miss (hash : String)
  | status (code : Nat) (hash : String)
  | malformedNarinfo (hash : String)
  | invalidPath (path hash : String)
  | transport (problem : String)
  | cancelled
  deriving DecidableEq

def Error.message : Error → String
  | .miss hash => hash ++ " is not in the binary cache"
  | .status code hash => "binary cache returned status " ++ toString code ++ " for " ++ hash
  | .malformedNarinfo hash => "narinfo for " ++ hash ++ " has no StorePath"
  | .invalidPath path hash =>
    Text.quoted path ++ " is not a valid store path for hash " ++ hash
  | .transport problem => "request failed: " ++ problem
  | .cancelled => "lookup cancelled"

end Pinning.Store
