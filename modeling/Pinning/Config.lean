import Pinning.Platform
import Pinning.Strategy
/-!
The configuration of the program: which services it asks and how, and which platform counts as the
host. Every field has a value when it is not configured.
-/

set_option autoImplicit false
set_option relaxedAutoImplicit false

namespace Pinning.Config

/-- The search service, and how it is asked. -/
structure Search where
  url : String := "https://search.devbox.sh"
  protocol : Protocol := .legacy
  storePaths : Bool := false
  deriving DecidableEq

/-- The binary cache that store paths are looked up in. -/
structure Cache where
  url : String := "https://cache.nixos.org"
  deriving DecidableEq

/-- The service that lists the releases of binaries. -/
structure Releases where
  apiUrl : String := "https://api.github.com"
  deriving DecidableEq

/-- What all requests have in common. -/
structure Http where
  /-- Seconds after which a request is given up; none means never. -/
  timeoutSecs : Option UInt64 := none
  userAgent : String := "pkgresolve/0.1.0"
  deriving DecidableEq

end Pinning.Config

namespace Pinning

structure Config where
  search : Config.Search := {}
  cache : Config.Cache := {}
  releases : Config.Releases := {}
  http : Config.Http := {}
  hostSystem : Option String := none
  deriving DecidableEq

namespace Config

def fileName : String := ".pkgresolve.toml"

def strategy (c : Config) : Strategy :=
  { protocol := c.search.protocol, storePaths := c.search.storePaths }

def hostPlatform (c : Config) : String := c.hostSystem.getD Platform.host

/-- The lines of a configuration file to start from. It spells out the defaults. -/
def starterLines : List String := [
  "# pkgresolve configuration",
  "",
  "# Treat this platform as the host when picking a representative system.",
  "# host_system = \"aarch64-darwin\"",
  "",
  "[search]",
  "# Search service base URL.",
  "url = \"https://search.devbox.sh\"",
  "",
  "# Resolution protocol: \"legacy\" (/v1/resolve) or \"enriched\" (/v2/resolve).",
  "protocol = \"legacy\"",
  "",
  "# Legacy only: verify per-platform store paths against the binary cache.",
  "store_paths = false",
  "",
  "[cache]",
  "url = \"https://cache.nixos.org\"",
  "",
  "[runx]",
  "api_url = \"https://api.github.com\"",
  "",
  "[http]",
  "# Per-request timeout in seconds. Unset means no timeout.",
  "# timeout_secs = 30"]

def starterText : String := String.join (starterLines.map (· ++ "\n"))

end Config

end Pinning
