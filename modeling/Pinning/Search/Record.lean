import Pinning.Flake
import Pinning.PlatformMap
import Pinning.Store.Ref
import Pinning.Timestamp
/-!
Records of the search service. The legacy protocol answers with a commit, attribute paths and the
hash of the build for each platform; the enriched protocol answers with an installable and the
outputs of the build, each with its store path.
-/

set_option autoImplicit false
set_option relaxedAutoImplicit false

namespace Pinning.Search

/-- What the legacy protocol knows about one platform. -/
structure LegacyEntry where
  attrPaths : List String
  commitHash : String
  /-- Seconds since 1970; zero and less mean that no time is known. -/
  lastUpdated : Int64
  version : String
  storeHash : String
  storeName : String
  storeVersion : String
  deriving DecidableEq

/-- The build output that the binary cache is asked for. -/
def LegacyEntry.storeRef (entry : LegacyEntry) : Store.Ref :=
  { hash := entry.storeHash, name := entry.storeName }

/-- An answer of the legacy protocol. -/
structure LegacyRecord where
  name : String
  version : String
  summary : String
  systems : PlatformMap LegacyEntry
  deriving DecidableEq

structure Output where
  name : String
  path : String
  isDefault : Bool
  deriving DecidableEq

/-- What the enriched protocol knows about one platform. -/
structure EnrichedEntry where
  installable : Flake.Installable
  lastUpdated : Timestamp
  outputs : List Output
  deriving DecidableEq

/-- An answer of the enriched protocol. -/
structure EnrichedRecord where
  name : String
  version : String
  summary : String
  systems : PlatformMap EnrichedEntry
  deriving DecidableEq

end Pinning.Search
