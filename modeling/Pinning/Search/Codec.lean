import Pinning.Flake.Codec
import Pinning.Search.Record
import Pinning.Timestamp.Reader
/-!
Records of the search service as JSON. Writing puts every field down; reading supplies the fields
that have a value of their own, and of several entries for a platform the last counts.
-/

set_option autoImplicit false
set_option relaxedAutoImplicit false

namespace Pinning.Search

def platformsToJson {α : Type} (write : α → Json) (m : PlatformMap α) : Json :=
  .object (m.map write).entries

def platforms? {α : Type} (read : Json → Option α) (j : Json) : Option (PlatformMap α) :=
  (j.members? read).map PlatformMap.ofList

/-- An entry of the legacy protocol as JSON. -/
def LegacyEntry.toJson (e : LegacyEntry) : Json :=
  .object [
    ("attr_paths", .array (e.attrPaths.map .text)), ("commit_hash", .text e.commitHash),
    ("last_updated", .integer e.lastUpdated.toInt), ("version", .text e.version),
    ("store_hash", .text e.storeHash), ("store_name", .text e.storeName),
    ("store_version", .text e.storeVersion)]

/-- Read an entry of the legacy protocol. -/
def LegacyEntry.ofJson? (j : Json) : Option LegacyEntry := do
  let fields ← j.fields? Json.strict
    ["attr_paths", "commit_hash", "last_updated", "version", "store_hash", "store_name",
      "store_version"]
  let attrPaths ← fields.withDefault "attr_paths" (Json.list? Json.text?) []
  let commitHash ← fields.required "commit_hash" Json.text?
  let lastUpdated ← fields.withDefault "last_updated" Json.int64? 0
  let version ← fields.withDefault "version" Json.text? ""
  let storeHash ← fields.withDefault "store_hash" Json.text? ""
  let storeName ← fields.withDefault "store_name" Json.text? ""
  let storeVersion ← fields.withDefault "store_version" Json.text? ""
  some { attrPaths, commitHash, lastUpdated, version, storeHash, storeName, storeVersion }

def recordFieldNames : List String := ["name", "version", "summary", "systems"]

/-- A record of the legacy protocol as JSON. -/
def LegacyRecord.toJson (r : LegacyRecord) : Json :=
  .object [
    ("name", .text r.name), ("version", .text r.version), ("summary", .text r.summary),
    ("systems", platformsToJson LegacyEntry.toJson r.systems)]

/-- Read a record of the legacy protocol. -/
def LegacyRecord.ofJson? (j : Json) : Option LegacyRecord := do
  let fields ← j.fields? Json.strict recordFieldNames
  let name ← fields.withDefault "name" Json.text? ""
  let version ← fields.required "version" Json.text?
  let summary ← fields.withDefault "summary" Json.text? ""
  let systems ← fields.withDefault "systems" (platforms? LegacyEntry.ofJson?) ∅
  some { name, version, summary, systems }

def Output.toJson (o : Output) : Json :=
  .object [("name", .text o.name), ("path", .text o.path), ("default", .bool o.isDefault)]

def Output.ofJson? (j : Json) : Option Output := do
  let fields ← j.fields? Json.strict ["name", "path", "default"]
  let name ← fields.withDefault "name" Json.text? ""
  let path ← fields.required "path" Json.text?
  let isDefault ← fields.withDefault "default" Json.bool? false
  some { name, path, isDefault }

/-- An entry of the enriched protocol as JSON. -/
def EnrichedEntry.toJson (e : EnrichedEntry) : Json :=
  .object [
    ("flake_installable", e.installable.toJson), ("last_updated", .text e.lastUpdated.render),
    ("outputs", .array (e.outputs.map Output.toJson))]

def timestamp? (j : Json) : Option Timestamp := j.text?.bind Timestamp.parse?

/-- Read an entry of the enriched protocol. -/
def EnrichedEntry.ofJson? (j : Json) : Option EnrichedEntry := do
  let fields ← j.fields? Json.strict ["flake_installable", "last_updated", "outputs"]
  let installable ← fields.required "flake_installable" Flake.Installable.ofJson?
  let lastUpdated ← fields.required "last_updated" timestamp?
  let outputs ← fields.withDefault "outputs" (Json.list? Output.ofJson?) []
  some { installable, lastUpdated, outputs }

/-- A record of the enriched protocol as JSON. -/
def EnrichedRecord.toJson (r : EnrichedRecord) : Json :=
  .object [
    ("name", .text r.name), ("version", .text r.version), ("summary", .text r.summary),
    ("systems", platformsToJson EnrichedEntry.toJson r.systems)]

/-- Read a record of the enriched protocol. -/
def EnrichedRecord.ofJson? (j : Json) : Option EnrichedRecord := do
  let fields ← j.fields? Json.strict recordFieldNames
  let name ← fields.withDefault "name" Json.text? ""
  let version ← fields.required "version" Json.text?
  let summary ← fields.withDefault "summary" Json.text? ""
  let systems ← fields.withDefault "systems" (platforms? EnrichedEntry.ofJson?) ∅
  some { name, version, summary, systems }

end Pinning.Search
