import Pinning.Error
import Pinning.Spec
import Pinning.Strategy
/-!
The one question that a resolution asks first. The spec and the strategy decide it: a released
binary is asked of the release service, everything else of the search service, and a spec without a
version of nobody.
-/

set_option autoImplicit false
set_option relaxedAutoImplicit false

namespace Pinning

inductive Inquiry
  | legacy (name version : String) (storePaths : Bool)
  | enriched (name version : String)
  | release (written : String)
  deriving DecidableEq

def Inquiry.search (strategy : Strategy) (name version : String) : Inquiry :=
  match strategy.protocol with
  | .legacy => legacy name version strategy.storePaths
  | .enriched => enriched name version

def Inquiry.ofSpec (strategy : Strategy) (spec : Spec) : Except Error Inquiry :=
  match spec.version with
  | none => .error (.missingVersion spec.name)
  | some version =>
    .ok (if spec.isRelease then release spec.raw else search strategy spec.name version)

end Pinning
