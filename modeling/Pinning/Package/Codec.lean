import Pinning.Json.Record
import Pinning.Package
/-!
Pinned packages as JSON. Absent fields and an empty platform map are left out.
-/

set_option autoImplicit false
set_option relaxedAutoImplicit false

namespace Pinning

def Source.named? (name : String) : Option Source :=
  if name = Source.remoteSearch.name then some .remoteSearch else none

def Source.toJson (s : Source) : Json := .text s.name

def Source.ofJson? (j : Json) : Option Source := j.choice? Json.strict Source.named?

namespace Package

def systemToJson (storePath : String) : Json := .object [("store_path", .text storePath)]

def system? (j : Json) : Option String := do
  let fields ← j.fields? Json.strict ["store_path"]
  fields.required "store_path" Json.text?

def toJson (p : Package) : Json :=
  .object (
    [("version", .text p.version), ("resolved", .text p.resolved)]
    ++ (p.lastModified.map fun text => ("last_modified", Json.text text)).toList
    ++ (p.source.map fun source => ("source", source.toJson)).toList
    ++ if p.systems.isEmpty then []
      else [("systems", .object (p.systems.map systemToJson).entries)])

def ofJson? (j : Json) : Option Package := do
  let fields ← j.fields? Json.strict
    ["version", "resolved", "last_modified", "source", "systems"]
  let version ← fields.required "version" Json.text?
  let resolved ← fields.required "resolved" Json.text?
  let lastModified ← fields.withDefault "last_modified" (Json.nullable? Json.text?) none
  let source ← fields.withDefault "source" (Json.nullable? Source.ofJson?) none
  let systems ← fields.withDefault "systems" (Json.members? system?) []
  some { version, resolved, lastModified, source, systems := SortedMap.ofList systems }

end Package

end Pinning
