/-!
Why the search service gives no record.
-/

set_option autoImplicit false
set_option relaxedAutoImplicit false

namespace Pinning.Search

inductive Error
  | notFound
  | status (code : Nat) (url : String)
  | transport (problem : String)
  | decode (problem : String)
  | cancelled
  deriving DecidableEq

def Error.message : Error → String
  | .notFound => "package not found"
  | .status code url => "search service returned status " ++ toString code ++ " for " ++ url
  | .transport problem => "request failed: " ++ problem
  | .decode problem => "malformed search response: " ++ problem
  | .cancelled => "request cancelled"

end Pinning.Search
