import Pinning.Text.Quoted
/-!
Why a reference to a released binary is not pinned.
-/

set_option autoImplicit false
set_option relaxedAutoImplicit false

namespace Pinning.RunX

inductive Error
  | invalidReference (written : String)
  | releaseNotFound (owner repo version : String)
  | status (code : Nat)
  | transport (problem : String)
  | cancelled
  deriving DecidableEq

def Error.message : Error → String
  | .invalidReference written =>
    "invalid runx reference " ++ Text.quoted written ++ ", expected runx:owner/repo@version"
  | .releaseNotFound owner repo version =>
    "no release " ++ version ++ " found for " ++ owner ++ "/" ++ repo
  | .status code => "release API returned status " ++ toString code
  | .transport problem => "request failed: " ++ problem
  | .cancelled => "request cancelled"

end Pinning.RunX
