import Pinning.Proofs.Fanout.Whole
import Pinning.Proofs.Resolver.Execution
import Pinning.Proofs.Resolver.Origin
import Pinning.Proofs.Resolver.Settles
import Pinning.Proofs.Store.Lookup
import Pinning.Proofs.Store.Path
/-!
Store paths from a binary cache that is not trusted. The record of the search service already fixes
the store path of every platform; all that is left to the cache, and to the network in between, is
to leave a platform out.
-/

set_option autoImplicit false
set_option relaxedAutoImplicit false

namespace Pinning

/-- The services with a binary cache behind a network as the store. -/
def Services.withCache (services : Services) (client : Http.Client) (network : Http.Network) :
    Services :=
  { services with
    lookup := fun ref cacheUrl => Store.lookup client network ref.hash (some ref.name) cacheUrl }

namespace Resolver

variable {r : Resolver} {strategy : Strategy} {written : String} {package : Package}

theorem Settles.lookup_of_systems {token : Bool}
    (h : r.Settles ⟨.legacy, true⟩ written token (.ok package)) {platform path : String}
    (hpath : package.systems.get? platform = some path) :
    ∃ version record entry before, (Spec.parse written).version = some version
      ∧ ((r.services.single (Spec.parse written).name version).course false).outcome
        = .returned (.ok record)
      ∧ record.systems.get? platform = some entry
      ∧ ((r.services.lookup entry.storeRef r.cacheUrl).course before).outcome
        = .returned (.ok path) := by
  generalize hsettled : (Except.ok package : Except Error Package) = result at h
  cases h with
  | refused _ _ => cases hsettled
  | drafted _ hdraft hrefs =>
    obtain rfl := Except.ok.inj hsettled
    obtain ⟨version, -, horigin⟩ := origin_of_draft hdraft
    cases horigin with
    | legacy _ _ _ _ hlegacy =>
      rw [hrefs] at hlegacy
      cases hlegacy
    | enriched _ hprotocol _ _ _ => cases hprotocol
    | release _ _ hreference =>
      obtain rfl := Except.ok.inj hreference
      cases hpath
  | @fetched _ _ draft refs s paths _ hdraft hrefs hrun hresult _ =>
    obtain ⟨version, hversion, horigin⟩ := origin_of_draft hdraft
    cases horigin with
    | @legacy record _ _ hanswer _ hlegacy =>
      obtain rfl := Option.some.inj (hrefs.symm.trans hlegacy)
      cases paths with
      | error cause => cases hsettled
      | ok m =>
        obtain rfl := Except.ok.inj hsettled
        obtain ⟨ref, before, after, hmem, hlookup⟩ :=
          Fanout.lookup_of_result (Draft.nodup_refsOfLegacy record) hrun hresult hpath
        obtain ⟨⟨p, entry⟩, hentry, hsame⟩ := List.mem_map.1 hmem
        obtain ⟨rfl, rfl⟩ := Prod.mk.inj hsame
        exact ⟨version, record, entry, before, hversion, hanswer,
          (PlatformMap.get?_eq_some_iff _).2 hentry, hlookup.2⟩
    | enriched _ hprotocol _ _ _ => cases hprotocol
    | release _ _ hreference =>
      obtain rfl := Except.ok.inj hreference
      cases hrefs

/-- Every store path of the package is the one that the record of the spec fixes for its platform:
the record has an entry for the platform, whose hash and name obey the grammar, and the path is put
together from the two. -/
def Vouched (r : Resolver) (written : String) (package : Package) : Prop :=
  ∀ platform path, package.systems.get? platform = some path →
    ∃ version record entry, (Spec.parse written).version = some version
      ∧ ((r.services.single (Spec.parse written).name version).course false).outcome
        = .returned (.ok record)
      ∧ record.systems.get? platform = some entry
      ∧ path = "/nix/store/" ++ entry.storeHash ++ "-" ++ entry.storeName
      ∧ (entry.storeHash.length = 32 ∧ ∀ c ∈ entry.storeHash.toList, c ∈ Store.base32Digits)
      ∧ entry.storeName ≠ "" ∧ ∀ c ∈ entry.storeName.toList, c ∈ Store.nameCharacters

theorem Settles.vouched {services : Services} {client : Http.Client} {network : Http.Network}
    {cacheUrl host : String} {token : Bool}
    (h : Settles { services := services.withCache client network, cacheUrl, host } ⟨.legacy, true⟩
      written token (.ok package)) :
    Vouched { services := services.withCache client network, cacheUrl, host } written package := by
  intro platform path hpath
  obtain ⟨version, record, entry, before, hversion, hanswer, hentry, hlookup⟩ :=
    h.lookup_of_systems hpath
  obtain ⟨-, hverify⟩ := Store.verify_of_lookup hlookup
  exact ⟨version, record, entry, hversion, hanswer, hentry, Store.eq_of_verify hverify⟩

/-- A binary cache can leave store paths out but not change them. Whatever the network replies,
whatever the search service answers and whenever the caller cancels, the store paths of a package
resolved by the legacy protocol are those that the record fixes, both when the spec is resolved
alone and when it takes its steps in any order beside others. -/
theorem cache_only_omits (services : Services) (client : Http.Client) (network : Http.Network)
    (cacheUrl host written : String) (package : Package) :
    let r : Resolver := { services := services.withCache client network, cacheUrl, host }
    (∀ cancelled,
        ((r.resolve ⟨.legacy, true⟩ written).course cancelled).outcome = .returned (.ok package) →
      r.Vouched written package)
    ∧ ∀ specs cancelled batch, r.Reaches ⟨.legacy, true⟩ (.start specs cancelled) batch →
        (written, .settled (.ok package)) ∈ batch.specs → r.Vouched written package := by
  intro r
  have hkeeps : r.fanout.KeepsToken := fun ref url =>
    Store.keepsToken_lookup client network ref.hash (some ref.name) url
  constructor
  · intro cancelled hresolve
    exact (settles_of_resolve hkeeps hresolve).vouched
  · intro specs cancelled batch hrun hspec
    exact (settles_of_reaches hrun hspec).vouched

/-- A record of two platforms with one and the same name of the build output. -/
def twoPlatforms : Search.LegacyRecord where
  name := "hello"
  version := "2.12"
  summary := ""
  systems :=
    { entries :=
        [("x86_64-linux", ⟨["hello"], "c0ffee", 1688055638, "2.12",
            "0c4ivwz36f5ya9k8bvb7m1d2f0pq9pdh", "hello-2.12", ""⟩),
          ("aarch64-linux", ⟨["hello"], "c0ffee", 1688055638, "2.12",
            "1c4ivwz36f5ya9k8bvb7m1d2f0pq9pdh", "hello-2.12", ""⟩)]
      distinct := by decide }

def forgedNarinfo : List Char :=
  "StorePath: /nix/store/0c4ivwz36f5ya9k8bvb7m1d2f0pq9pdh-hello-2.12".toList

/-- A network that replies with this document, whatever it is asked for. -/
def forgingNetwork : Http.Network := fun _ =>
  .replied (.response { status := 200, body := { bytes := Text.utf8Bytes forgedNarinfo } })

def twoPlatformServices : Services where
  single := fun _ _ => pure (.ok twoPlatforms)
  versioned := fun _ _ => pure (.error .notFound)
  pin := fun _ => pure (.error .cancelled)
  lookup := fun _ _ => pure (.error .cancelled)

def onePathPackage : Package where
  version := "2.12"
  resolved := "github:NixOS/nixpkgs/c0ffee#hello"
  lastModified := some "2023-06-29T16:20:38Z"
  source := some .remoteSearch
  systems :=
    SortedMap.ofList
      [("x86_64-linux", "/nix/store/0c4ivwz36f5ya9k8bvb7m1d2f0pq9pdh-hello-2.12")]

/-- A document that is served for both platforms counts for the one whose path it names, in a batch
of its own as well. -/
theorem cache_only_omits_forged :
    let r : Resolver := { services := twoPlatformServices.withCache {} forgingNetwork }
    ((r.resolve ⟨.legacy, true⟩ "hello@2.12").course false).outcome
        = .returned (.ok onePathPackage)
      ∧ r.Vouched "hello@2.12" onePathPackage
      ∧ ∃ batch, r.Reaches ⟨.legacy, true⟩ (.start ["hello@2.12"] false) batch
        ∧ batch.Settled [("hello@2.12", .ok onePathPackage)]
        ∧ r.Vouched "hello@2.12" onePathPackage := by
  intro r
  have hresolve : ((r.resolve ⟨.legacy, true⟩ "hello@2.12").course false).outcome
      = .returned (.ok onePathPackage) := by decide +kernel
  have hkeeps : r.KeepsToken := {
    asking := fun inquiry => by
      cases inquiry with
      | legacy _ _ _ =>
        exact (Activity.keepsToken_unlessCancelled _).bind fun answer => by
          cases answer <;> exact Activity.keepsToken_pure _
      | enriched _ _ => rfl
      | release _ => rfl
    fetching := fun ref url =>
      Store.keepsToken_lookup {} forgingNetwork ref.hash (some ref.name) url }
  obtain ⟨alone, together⟩ := cache_only_omits twoPlatformServices {} forgingNetwork r.cacheUrl
    r.host "hello@2.12" onePathPackage
  obtain ⟨batch, hrun, hsettled⟩ := reaches_of_resolve hkeeps hresolve
  have hspec : ("hello@2.12", .settled (.ok onePathPackage)) ∈ batch.specs := by
    rw [hsettled]
    exact List.mem_cons_self
  exact ⟨hresolve, alone false hresolve, batch, hrun, hsettled,
    together ["hello@2.12"] false batch hrun hspec⟩

end Resolver

end Pinning
