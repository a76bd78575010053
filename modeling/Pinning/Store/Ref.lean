/-!
Build outputs as the search service reports them: a hash and a name, either of which may be missing.
-/

set_option autoImplicit false
set_option relaxedAutoImplicit false

namespace Pinning.Store

/-- The hash and the name of a build output. -/
structure Ref where
  hash : String
  name : String
  deriving DecidableEq

/-- Both halves are known; only then is the output looked up. -/
def Ref.isComplete (ref : Ref) : Bool := ref.hash != "" && ref.name != ""

end Pinning.Store
