import Pinning.Draft
import Pinning.Fanout
import Pinning.Inquiry
/-!
Resolving a spec: one question to a service yields a draft, and a fan-out completes the draft if
store paths are wanted. Every question is given up when the caller cancels.
-/

set_option autoImplicit false
set_option relaxedAutoImplicit false

namespace Pinning

/-- The services that are asked, the binary cache that store paths are looked up in, and the
platform whose entry of a record is preferred. -/
structure Resolver where
  services : Services
  cacheUrl : String := ({} : Config.Cache).url
  host : String := Platform.host

namespace Resolver

/-- The resolver that a configuration describes. -/
def ofConfig (config : Config) (network : Http.Network) : Except Error Resolver := do
  pure {
    services := ← Services.ofConfig config network
    cacheUrl := config.cache.url
    host := config.hostPlatform }

def describe (r : Resolver) : String :=
  "PackageResolver \x7b fanout: " ++ Fanout.describe r.cacheUrl
    ++ ", selector: SystemSelector \x7b host: " ++ Text.quoted r.host ++ " \x7d, .. \x7d"

def fanout (r : Resolver) : Fanout := { lookup := r.services.lookup, cacheUrl := r.cacheUrl }

def ask (r : Resolver) : Inquiry → Activity (Except Error Draft)
  | .legacy name version storePaths => do
    let answer ← Activity.unlessCancelled do
      Activity.note (.search .legacy name version)
      r.services.single name version
    match answer with
    | none => pure (.error .cancelled)
    | some answer => pure (Draft.ofLegacy r.host name version storePaths answer)
  | .enriched name version => do
    Activity.note (.search .enriched name version)
    pure (Draft.ofEnriched r.host name version (← r.services.versioned name version))
  | .release written => do
    Activity.note (.pin written)
    pure (Draft.ofRelease (← r.services.pin written))

def draft (r : Resolver) (strategy : Strategy) (written : String) :
    Activity (Except Error Draft) :=
  match Inquiry.ofSpec strategy (Spec.parse written) with
  | .error cause => pure (.error cause)
  | .ok inquiry => r.ask inquiry

/-- The package of a draft, given what a fan-out yields. -/
def finish (draft : Draft) (paths : Except Error (SortedMap String)) : Except Error Package :=
  paths.map draft.complete

def complete (r : Resolver) (draft : Draft) : Activity (Except Error Package) :=
  match draft.refs with
  | none => pure (.ok draft.package)
  | some refs => do pure (finish draft (← r.fanout.resolve refs))

def resolve (r : Resolver) (strategy : Strategy) (written : String) :
    Activity (Except Error Package) := do
  match ← r.draft strategy written with
  | .error cause => pure (.error cause)
  | .ok draft => r.complete draft

end Resolver

end Pinning
