import Pinning.Config
import Pinning.RunX.Client
import Pinning.Search.Client
import Pinning.Store.Client
/-!
The services that a resolution asks: the search service by either protocol, the release service, and
a binary cache. A service is whatever answers these calls; `Services.ofConfig` answers them over a
network.
-/

set_option autoImplicit false
set_option relaxedAutoImplicit false

namespace Pinning

/-- The calls that a resolution makes. -/
structure Services where
  single : String → String → Activity (Except Search.Error Search.LegacyRecord)
  versioned : String → String → Activity (Except Search.Error Search.EnrichedRecord)
  /-- The pinned form of a reference to a released binary. -/
  pin : String → Activity (Except RunX.Error RunX.Reference)
  /-- The store path of a build output in the binary cache at a URL. -/
  lookup : Store.Ref → String → Activity (Except Store.Error String)

namespace Services

def ofClients (http : Http.Client) (search : Search.Client) (releases : RunX.Client)
    (network : Http.Network) : Services where
  single := search.single network
  versioned := search.versioned network
  pin := releases.pin network
  lookup := fun ref cacheUrl => Store.lookup http network ref.hash (some ref.name) cacheUrl

/-- The services that a configuration names. -/
def ofConfig (config : Config) (network : Http.Network) : Except Error Services := do
  let http ← Http.Client.withAgent config.http.userAgent
  let search ← Search.Client.of http config.search.url
  let releases ← RunX.Client.of http config.releases.apiUrl
  pure (ofClients http search releases network)

end Services

end Pinning
