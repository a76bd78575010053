import Pinning.RunX.Error
import Pinning.Search.Error
import Pinning.Text.Quoted
/-!
Why a resolution, or the program as a whole, fails. Every cause has one message and one exit code: 1
for what the user can mend, 2 for everything else.
-/

set_option autoImplicit false
set_option relaxedAutoImplicit false

namespace Pinning

inductive Error
  | missingVersion (name : String)
  | invalidSpec (written : String)
  | packageNotFound (name version : String)
  | noSystemsAvailable
  | noAttrPaths (name : String)
  | search (cause : Search.Error)
  | runX (cause : RunX.Error)
  | cancelled
  | fanout (problem : String)
  | config (problem : String)
  | io (problem : String)
  | json (problem : String)
  | toml (problem : String)
  | http (problem : String)
  deriving DecidableEq

namespace Error

def message : Error → String
  | .missingVersion name => "No version specified for " ++ Text.quoted name ++ "."
  | .invalidSpec written => "Invalid package spec: " ++ written
  | .packageNotFound name version => name ++ "@" ++ version ++ ": package not found"
  | .noSystemsAvailable => "no systems found"
  | .noAttrPaths name => "no attr paths found for package " ++ Text.quoted name
  | .search cause => "Search service error: " ++ cause.message
  | .runX cause => "runx resolution error: " ++ cause.message
  | .cancelled => "resolution was cancelled"
  | .fanout problem => "store path fan-out failed: " ++ problem
  | .config problem => "Configuration error: " ++ problem
  | .io problem => "IO error: " ++ problem
  | .json problem => "JSON error: " ++ problem
  | .toml problem => "TOML parse error: " ++ problem
  | .http problem => "HTTP client error: " ++ problem

/-- The exit code that a cause ends the program with. -/
def exitCode : Error → Nat
  | .missingVersion _ | .invalidSpec _ | .packageNotFound _ _ | .config _ => 1
  | _ => 2

end Error

end Pinning
