import Pinning.Package
import Pinning.Platform
import Pinning.RunX.Reference
import Pinning.Search.Error
import Pinning.Search.Record
/-!
Packages as the answer of a service gives them. The representative platform decides what the package
is pinned to and when that was published. An enriched record brings its store paths along; those of
a legacy record are still to be looked up, if they are wanted.
-/

set_option autoImplicit false
set_option relaxedAutoImplicit false

namespace Pinning

/-- A package whose store paths may still be missing. -/
structure Draft where
  package : Package
  /-- The build outputs whose store paths are to be looked up; none if there is nothing to look up.
  -/
  refs : Option (List (String × Store.Ref))
  deriving DecidableEq

namespace Draft

def complete (draft : Draft) (paths : SortedMap String) : Package :=
  { draft.package with systems := paths }

def firstFilled (texts : List String) : String := (texts.find? (· != "")).getD ""

def packageOfLegacy (host name version : String) (record : Search.LegacyRecord) :
    Except Error Package := do
  let (_, entry) ← Platform.select host record.systems
  match entry.attrPaths with
  | [] => .error (.noAttrPaths name)
  | attrPath :: _ =>
    .ok {
      version := firstFilled [entry.version, record.version, version]
      resolved := Flake.Installable.render ⟨.nixpkgs entry.commitHash, attrPath⟩
      lastModified := Timestamp.unixText? entry.lastUpdated.toInt
      source := some .remoteSearch
      systems := ∅ }

def refsOfLegacy (record : Search.LegacyRecord) : List (String × Store.Ref) :=
  record.systems.entries.map fun entry => (entry.1, entry.2.storeRef)

/-- The draft of an answer by the legacy protocol. Whatever the problem with the service is, the
package counts as not found. -/
def ofLegacy (host name version : String) (storePaths : Bool) :
    Except Search.Error Search.LegacyRecord → Except Error Draft
  | .error _ => .error (.packageNotFound name version)
  | .ok record => do
    let package ← packageOfLegacy host name version record
    .ok { package, refs := if storePaths then some (refsOfLegacy record) else none }

def firstPath? (entry : String × Search.EnrichedEntry) : Option (String × String) :=
  entry.2.outputs.head?.map fun output => (entry.1, output.path)

def packageOfEnriched (host version : String) (record : Search.EnrichedRecord) :
    Except Error Package := do
  let (_, entry) ← Platform.select host record.systems
  .ok {
    version := firstFilled [record.version, version]
    resolved := entry.installable.render
    lastModified := some entry.lastUpdated.renderSeconds
    source := some .remoteSearch
    systems := SortedMap.ofList (record.systems.entries.filterMap firstPath?) }

def ofEnriched (host name version : String) :
    Except Search.Error Search.EnrichedRecord → Except Error Draft
  | .error .notFound => .error (.packageNotFound name version)
  | .error .cancelled => .error .cancelled
  | .error cause => .error (.search cause)
  | .ok record => do .ok { package := ← packageOfEnriched host version record, refs := none }

def ofRelease : Except RunX.Error RunX.Reference → Except Error Draft
  | .error (.invalidReference written) => .error (.invalidSpec written)
  | .error .cancelled => .error .cancelled
  | .error cause => .error (.runX cause)
  | .ok pinned => .ok {
      package := {
        version := pinned.version, resolved := pinned.render, lastModified := none, source := none,
        systems := ∅ }
      refs := none }

end Draft

end Pinning
