import Pinning.Config
/-!
Configurations as JSON values. The reader takes the dialect of the document format, because a
configuration is written in more than one.
-/

set_option autoImplicit false
set_option relaxedAutoImplicit false

namespace Pinning

namespace Config

def search? (dialect : Json.Dialect) (j : Json) : Option Search := do
  let unset : Search := {}
  let fields ← j.fields? dialect ["url", "protocol", "store_paths"]
  let url ← fields.withDefault "url" Json.text? unset.url
  let protocol ← fields.withDefault "protocol" (Json.choice? dialect Protocol.named?) unset.protocol
  let storePaths ← fields.withDefault "store_paths" Json.bool? unset.storePaths
  some { url, protocol, storePaths }

def cache? (dialect : Json.Dialect) (j : Json) : Option Cache := do
  let unset : Cache := {}
  let fields ← j.fields? dialect ["url"]
  let url ← fields.withDefault "url" Json.text? unset.url
  some { url }

def releases? (dialect : Json.Dialect) (j : Json) : Option Releases := do
  let unset : Releases := {}
  let fields ← j.fields? dialect ["api_url"]
  let apiUrl ← fields.withDefault "api_url" Json.text? unset.apiUrl
  some { apiUrl }

def http? (dialect : Json.Dialect) (j : Json) : Option Http := do
  let unset : Http := {}
  let fields ← j.fields? dialect ["timeout_secs", "user_agent"]
  let timeoutSecs ← fields.withDefault "timeout_secs" (Json.nullable? Json.uint64?)
    unset.timeoutSecs
  let userAgent ← fields.withDefault "user_agent" Json.text? unset.userAgent
  some { timeoutSecs, userAgent }

def ofJson? (dialect : Json.Dialect) (j : Json) : Option Config := do
  let fields ← j.fields? dialect ["search", "cache", "runx", "http", "host_system"]
  let search ← fields.withDefault "search" (search? dialect) {}
  let cache ← fields.withDefault "cache" (cache? dialect) {}
  let releases ← fields.withDefault "runx" (releases? dialect) {}
  let http ← fields.withDefault "http" (http? dialect) {}
  let hostSystem ← fields.withDefault "host_system" (Json.nullable? Json.text?) none
  some { search, cache, releases, http, hostSystem }

def nullOr {α : Type} (write : α → Json) (value : Option α) : Json := value.elim .null write

def toJson (c : Config) : Json :=
  .object [
    ("search", .object [
      ("url", .text c.search.url), ("protocol", c.search.protocol.toJson),
      ("store_paths", .bool c.search.storePaths)]),
    ("cache", .object [("url", .text c.cache.url)]),
    ("runx", .object [("api_url", .text c.releases.apiUrl)]),
    ("http", .object [
      ("timeout_secs", nullOr (fun secs => .integer secs.toNat) c.http.timeoutSecs),
      ("user_agent", .text c.http.userAgent)]),
    ("host_system", nullOr .text c.hostSystem)]

end Config

end Pinning
