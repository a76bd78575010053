import Pinning.Json.Record
import Pinning.Text.Name
/-!
How a resolution runs: which protocol the search service is asked in, and whether store paths are
looked up in the binary cache.
-/

set_option autoImplicit false
set_option relaxedAutoImplicit false

namespace Pinning

inductive Protocol
  | legacy
  | enriched
  deriving DecidableEq

namespace Protocol

def name : Protocol → String
  | .legacy => "legacy"
  | .enriched => "enriched"

def named? (written : String) : Option Protocol :=
  [legacy, enriched].find? fun protocol => protocol.name == written

/-- The protocol that a name in any case, or a version of the service, means. -/
def meant? (written : String) : Option Protocol :=
  if Text.means written "legacy" || Text.means written "v1" then some .legacy
  else if Text.means written "enriched" || Text.means written "v2" then some .enriched
  else none

def toJson (protocol : Protocol) : Json := .text protocol.name

end Protocol

structure Strategy where
  protocol : Protocol
  storePaths : Bool
  deriving DecidableEq

end Pinning
