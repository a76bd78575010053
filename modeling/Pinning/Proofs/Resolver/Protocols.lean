import Pinning.Proofs.Draft
import Pinning.Proofs.Fanout.Order
import Pinning.Proofs.Platform
import Pinning.Proofs.Resolver.Alone
import Pinning.Proofs.Timestamp
/-!
The two protocols of the search service on the same data. What the legacy protocol leaves to the
binary cache the enriched protocol brings along; if it is the same, so is the package.
-/

set_option autoImplicit false
set_option relaxedAutoImplicit false

namespace Pinning

namespace Search

/-- A legacy record that offers the host's or the fallback platform and leaves nothing out that an
enriched record has to say. -/
structure LegacyRecord.IsFull (legacy : LegacyRecord) (host : String) : Prop where
  offered : (legacy.systems.get? host).isSome ∨ (legacy.systems.get? "x86_64-linux").isSome
  version : legacy.version ≠ ""
  versions : ∀ platform entry, legacy.systems.get? platform = some entry →
    entry.version = legacy.version
  attrPaths : ∀ platform entry, legacy.systems.get? platform = some entry → entry.attrPaths ≠ []
  instants : ∀ platform entry, legacy.systems.get? platform = some entry →
    0 < entry.lastUpdated.toInt ∧ (Timestamp.ofUnix? entry.lastUpdated.toInt).isSome

section

variable (answer : Store.Ref → String → Except Store.Error String) (cacheUrl : String)

/-- The store path that a store gives for a build output; one that lacks a half is not looked up. -/
def givenPath? (ref : Store.Ref) : Option String :=
  if ref.isComplete then (answer ref cacheUrl).toOption else none

/-- The enriched entry has the data of the legacy entry, and the store path for its build output. -/
structure SameEntry (legacy : LegacyEntry) (enriched : EnrichedEntry) : Prop where
  installable : ∃ attrPath rest, legacy.attrPaths = attrPath :: rest
    ∧ enriched.installable = ⟨.nixpkgs legacy.commitHash, attrPath⟩
  seconds : enriched.lastUpdated.toUnix = legacy.lastUpdated.toInt
  fraction : enriched.lastUpdated.nano = 0
  outputs : enriched.outputs.map Output.path = (givenPath? answer cacheUrl legacy.storeRef).toList

/-- The enriched record has the data of the legacy record, in any order. -/
structure SameRecord (legacy : LegacyRecord) (enriched : EnrichedRecord) : Prop where
  version : enriched.version = legacy.version
  systems : ∀ platform, Option.Rel (SameEntry answer cacheUrl) (legacy.systems.get? platform)
    (enriched.systems.get? platform)

/-- What an enriched record says about a platform of a full legacy record. -/
def enrichedEntry (legacy : LegacyEntry) : EnrichedEntry where
  installable := ⟨.nixpkgs legacy.commitHash, legacy.attrPaths.headD ""⟩
  lastUpdated := (Timestamp.ofUnix? legacy.lastUpdated.toInt).getD Timestamp.epoch
  outputs := (givenPath? answer cacheUrl legacy.storeRef).toList.map fun path =>
    { name := "out", path, isDefault := true }

def enrichedRecord (legacy : LegacyRecord) : EnrichedRecord where
  name := legacy.name
  version := legacy.version
  summary := legacy.summary
  systems := legacy.systems.map (enrichedEntry answer cacheUrl)

theorem sameRecord_enrichedRecord {legacy : LegacyRecord} {host : String}
    (hfull : legacy.IsFull host) :
    SameRecord answer cacheUrl legacy (enrichedRecord answer cacheUrl legacy) where
  version := rfl
  systems platform := by
    rw [enrichedRecord, PlatformMap.get?_map]
    cases hentry : legacy.systems.get? platform with
    | none => exact .none
    | some entry =>
      obtain ⟨-, hsome⟩ := hfull.instants platform entry hentry
      obtain ⟨t, ht⟩ := Option.isSome_iff_exists.1 hsome
      obtain ⟨hseconds, hfraction⟩ := Timestamp.ofUnix?_eq_some_iff.1 ht
      have htime : (enrichedEntry answer cacheUrl entry).lastUpdated = t := by
        rw [enrichedEntry, ht]
        rfl
      refine .some ⟨?_, htime ▸ hseconds, htime ▸ hfraction, ?_⟩
      · cases hattrPaths : entry.attrPaths with
        | nil => exact absurd hattrPaths (hfull.attrPaths platform entry hentry)
        | cons attrPath rest => exact ⟨attrPath, rest, rfl, by simp [enrichedEntry, hattrPaths]⟩
      · simp [enrichedEntry, Function.comp_def]

end

end Search

namespace Resolver

open Search

variable {answer : Store.Ref → String → Except Store.Error String} {cacheUrl host : String}
  {legacy : LegacyRecord} {enriched : EnrichedRecord}

theorem get?_found_refsOfLegacy (platform path : String) :
    (Fanout.found (Fanout.answeredEndings answer cacheUrl
        (Fanout.wanted (Draft.refsOfLegacy legacy)))).get? platform = some path
      ↔ ∃ entry, legacy.systems.get? platform = some entry
        ∧ givenPath? answer cacheUrl entry.storeRef = some path := by
  rw [Fanout.get?_found (Fanout.nodup_wanted (Draft.nodup_refsOfLegacy legacy))]
  simp only [PlatformMap.get?_eq_some_iff, givenPath?]
  constructor
  · rintro ⟨ref, hwanted, hanswer⟩
    obtain ⟨hmem, hcomplete⟩ := List.mem_filter.1 hwanted
    obtain ⟨⟨p, entry⟩, hentry, hsame⟩ := List.mem_map.1 hmem
    obtain ⟨rfl, rfl⟩ := Prod.mk.inj hsame
    exact ⟨entry, hentry, by rw [if_pos hcomplete, hanswer]; rfl⟩
  · rintro ⟨entry, hentry, hpath⟩
    split at hpath
    · next hcomplete =>
      refine ⟨entry.storeRef, List.mem_filter.2 ⟨List.mem_map.2 ⟨_, hentry, rfl⟩, hcomplete⟩, ?_⟩
      cases hanswer : answer entry.storeRef cacheUrl with
      | ok found => rw [hanswer] at hpath; exact congrArg Except.ok (Option.some.inj hpath)
      | error cause => rw [hanswer] at hpath; cases hpath
    · cases hpath

theorem systems_agree (h : SameRecord answer cacheUrl legacy enriched) :
    Fanout.found (Fanout.answeredEndings answer cacheUrl
        (Fanout.wanted (Draft.refsOfLegacy legacy)))
      = SortedMap.ofList (enriched.systems.entries.filterMap Draft.firstPath?) := by
  refine SortedMap.ext_get? fun platform => Option.ext fun path => ?_
  rw [get?_found_refsOfLegacy, Draft.get?_firstPaths]
  have hentries := h.systems platform
  cases hl : legacy.systems.get? platform with
  | none =>
    rw [hl] at hentries
    cases he : enriched.systems.get? platform with
    | none => simp
    | some e => exact absurd (he ▸ hentries) nofun
  | some l =>
    rw [hl] at hentries
    cases he : enriched.systems.get? platform with
    | none => exact absurd (he ▸ hentries) nofun
    | some e =>
      rw [he] at hentries
      cases hentries with
      | some hsame =>
        have hpath : e.outputs.head?.map Output.path = givenPath? answer cacheUrl l.storeRef := by
          rw [← List.head?_map, hsame.outputs]
          cases givenPath? answer cacheUrl l.storeRef <;> rfl
        simp only [Option.some.injEq, exists_eq_left', hpath]

theorem packages_agree (hfull : legacy.IsFull host) (h : SameRecord answer cacheUrl legacy enriched)
    (name version : String) :
    ∃ package, Draft.packageOfLegacy host name version legacy = .ok package
      ∧ Draft.packageOfEnriched host version enriched = .ok { package with
          systems := SortedMap.ofList (enriched.systems.entries.filterMap Draft.firstPath?) } := by
  obtain ⟨platform, l, e, hl, he, hentry, hsame⟩ := Platform.select_rel h.systems hfull.offered
  obtain ⟨attrPath, rest, hattrPaths, hinstallable⟩ := hsame.installable
  obtain ⟨hpos, -⟩ := hfull.instants platform l hentry
  have htime : Timestamp.unixText? l.lastUpdated.toInt = some e.lastUpdated.renderSeconds :=
    Timestamp.unixText?_of_toUnix hpos hsame.seconds hsame.fraction
  have hfilled : (legacy.version != "") = true := bne_iff_ne.2 hfull.version
  have hlegacy : Draft.firstFilled [l.version, legacy.version, version] = legacy.version := by
    simp [Draft.firstFilled, hfull.versions platform l hentry, hfilled]
  have henriched : Draft.firstFilled [enriched.version, version] = legacy.version := by
    simp [Draft.firstFilled, h.version, hfilled]
  refine ⟨{
    version := legacy.version
    resolved := e.installable.render
    lastModified := some e.lastUpdated.renderSeconds
    source := some .remoteSearch
    systems := ∅ }, ?_, ?_⟩
  · rw [Draft.packageOfLegacy, hl]
    simp only [bind, Except.bind, hattrPaths, hlegacy, htime, hinstallable]
  · rw [Draft.packageOfEnriched, he]
    simp only [bind, Except.bind, henriched]

section

variable {r : Resolver} {written version : String}

theorem returns_draft_answered {storePaths : Bool} {answered : Except Search.Error LegacyRecord}
    (hversion : (Spec.parse written).version = some version)
    (hrelease : (Spec.parse written).isRelease = false)
    (hlegacy : (r.services.single (Spec.parse written).name version).Returns answered) :
    (r.draft ⟨.legacy, storePaths⟩ written).Returns
      (Draft.ofLegacy r.host (Spec.parse written).name version storePaths answered) := by
  rw [Resolver.draft, Inquiry.ofSpec, hversion]
  simp only [hrelease, Inquiry.search]
  exact ((Activity.returns_note _).bind hlegacy).unlessCancelled.bind (Activity.returns_pure _)

theorem returns_draft_legacy {draft : Draft}
    (hversion : (Spec.parse written).version = some version)
    (hrelease : (Spec.parse written).isRelease = false)
    (hlegacy : (r.services.single (Spec.parse written).name version).Returns (.ok legacy))
    (hdraft : Draft.ofLegacy r.host (Spec.parse written).name version true (.ok legacy)
      = .ok draft) : (r.draft ⟨.legacy, true⟩ written).Returns (.ok draft) := by
  rw [← hdraft]
  exact returns_draft_answered hversion hrelease hlegacy

theorem returns_draft_published {storePaths : Bool} {answered : Except Search.Error EnrichedRecord}
    (hversion : (Spec.parse written).version = some version)
    (hrelease : (Spec.parse written).isRelease = false)
    (henriched : (r.services.versioned (Spec.parse written).name version).Returns answered) :
    (r.draft ⟨.enriched, storePaths⟩ written).Returns
      (Draft.ofEnriched r.host (Spec.parse written).name version answered) := by
  rw [Resolver.draft, Inquiry.ofSpec, hversion]
  simp only [hrelease, Inquiry.search]
  exact (Activity.returns_note _).bind (henriched.bind (Activity.returns_pure _))

theorem returns_draft_enriched {draft : Draft} {storePaths : Bool}
    (hversion : (Spec.parse written).version = some version)
    (hrelease : (Spec.parse written).isRelease = false)
    (henriched : (r.services.versioned (Spec.parse written).name version).Returns (.ok enriched))
    (hdraft : Draft.ofEnriched r.host (Spec.parse written).name version (.ok enriched)
      = .ok draft) : (r.draft ⟨.enriched, storePaths⟩ written).Returns (.ok draft) := by
  rw [← hdraft]
  exact returns_draft_published hversion hrelease henriched

/-- The two protocols agree on the same data. If the service answers either with the data of one
full legacy record, and the store gives the paths that the enriched record has, then a spec resolves
to the same package by both, alone and in any order beside others. -/
theorem protocols_agree (r : Resolver) (hstore : r.fanout.Answers answer)
    (hversion : (Spec.parse written).version = some version)
    (hrelease : (Spec.parse written).isRelease = false)
    (hlegacy : (r.services.single (Spec.parse written).name version).Returns (.ok legacy))
    (henriched : (r.services.versioned (Spec.parse written).name version).Returns (.ok enriched))
    (hfull : legacy.IsFull r.host) (hsame : SameRecord answer r.cacheUrl legacy enriched)
    (storePaths : Bool) :
    ∃ package, (r.resolve ⟨.legacy, true⟩ written).Returns (.ok package)
      ∧ (r.resolve ⟨.enriched, storePaths⟩ written).Returns (.ok package)
      ∧ ∀ strategy, strategy = ⟨.legacy, true⟩ ∨ strategy = ⟨.enriched, storePaths⟩ →
        ∀ specs batch, r.Reaches strategy (.start specs false) batch → batch.cancelled = false →
          ∀ result, (written, .settled result) ∈ batch.specs → result = .ok package := by
  obtain ⟨package, hofLegacy, hofEnriched⟩ :=
    packages_agree hfull hsame (Spec.parse written).name version
  have hresolveLegacy : (r.resolve ⟨.legacy, true⟩ written).Returns (.ok { package with
      systems := SortedMap.ofList (enriched.systems.entries.filterMap Draft.firstPath?) }) := by
    have hdraft : Draft.ofLegacy r.host (Spec.parse written).name version true (.ok legacy)
        = .ok ⟨package, some (Draft.refsOfLegacy legacy)⟩ :=
      Draft.ofLegacy_eq_ok.2 ⟨legacy, rfl, hofLegacy, rfl⟩
    refine (returns_draft_legacy hversion hrelease hlegacy hdraft).bind ?_
    rw [← systems_agree hsame]
    exact (Fanout.returns_resolve hstore _).bind (Activity.returns_pure _)
  have hresolveEnriched : (r.resolve ⟨.enriched, storePaths⟩ written).Returns (.ok { package with
      systems := SortedMap.ofList (enriched.systems.entries.filterMap Draft.firstPath?) }) := by
    have hdraft : Draft.ofEnriched r.host (Spec.parse written).name version (.ok enriched)
        = .ok ⟨_, none⟩ := Draft.ofEnriched_eq_ok.2 ⟨enriched, rfl, hofEnriched, rfl⟩
    exact (returns_draft_enriched hversion hrelease henriched hdraft).bind (Activity.returns_pure _)
  refine ⟨_, hresolveLegacy, hresolveEnriched, ?_⟩
  intro strategy hstrategy specs batch hrun hcalm result hspec
  have hsettles := settles_of_reaches hrun hspec
  rw [hcalm] at hsettles
  rcases hstrategy with rfl | rfl
  · exact hsettles.eq_of_resolve hstore hresolveLegacy
  · exact hsettles.eq_of_resolve hstore hresolveEnriched

end

/-- A record of three platforms, whose build outputs are those of `Fanout.threeRefs`. -/
def threePlatforms : LegacyRecord where
  name := "n"
  version := "1"
  summary := ""
  systems := Fanout.threeRefs.map fun ref =>
    ⟨["n"], "c0ffee", 1688055638, "1", ref.hash, ref.name, ""⟩

/-- A resolver that both protocols answer about the three platforms, with the small cache as the
store. -/
def smallResolver : Resolver where
  services := {
    single := fun _ _ => pure (.ok threePlatforms)
    versioned := fun _ _ =>
      pure (.ok (enrichedRecord Fanout.smallAnswer Fanout.smallCache.cacheUrl threePlatforms))
    pin := fun _ => pure (.error .cancelled)
    lookup := Fanout.smallCache.lookup }
  cacheUrl := Fanout.smallCache.cacheUrl

def smallPackage : Package where
  version := "1"
  resolved := "github:NixOS/nixpkgs/c0ffee#n"
  lastModified := some "2023-06-29T16:20:38Z"
  source := some .remoteSearch
  systems := SortedMap.ofList [("x86_64-linux", "/nix/store/a-n")]

/-- A cache that knows one of three platforms leads both protocols to the same package. -/
theorem protocols_agree_smallResolver :
    (smallResolver.resolve ⟨.legacy, true⟩ "n@1").Returns (.ok smallPackage)
      ∧ (smallResolver.resolve ⟨.enriched, false⟩ "n@1").Returns (.ok smallPackage) := by
  have hentries : ∀ entry ∈ threePlatforms.systems.entries, entry.2.version = threePlatforms.version
      ∧ entry.2.attrPaths ≠ [] ∧ 0 < entry.2.lastUpdated.toInt
      ∧ (Timestamp.ofUnix? entry.2.lastUpdated.toInt).isSome := by decide +kernel
  have hentry : ∀ platform entry, threePlatforms.systems.get? platform = some entry → _ :=
    fun platform entry h => hentries (platform, entry) ((PlatformMap.get?_eq_some_iff _).1 h)
  have hfull : threePlatforms.IsFull smallResolver.host := {
    offered := .inl (by decide +kernel)
    version := by decide
    versions := fun platform entry h => (hentry platform entry h).1
    attrPaths := fun platform entry h => (hentry platform entry h).2.1
    instants := fun platform entry h => (hentry platform entry h).2.2 }
  have hstore : smallResolver.fanout.Answers Fanout.smallAnswer :=
    fun _ _ => Activity.returns_pure _
  have hversion : (Spec.parse "n@1").version = some "1" := by decide +kernel
  have hrelease : (Spec.parse "n@1").isRelease = false := by decide +kernel
  obtain ⟨package, hlegacy, henriched, -⟩ := protocols_agree smallResolver hstore hversion hrelease
    (Activity.returns_pure _) (Activity.returns_pure _) hfull
    (sameRecord_enrichedRecord Fanout.smallAnswer smallResolver.cacheUrl hfull) false
  have hvalue : ((smallResolver.resolve ⟨.legacy, true⟩ "n@1").course false).outcome
      = .returned (.ok smallPackage) := by decide +kernel
  obtain rfl : package = smallPackage :=
    Except.ok.inj (Outcome.returned.inj (hlegacy.outcome.symm.trans hvalue))
  exact ⟨hlegacy, henriched⟩

end Resolver

end Pinning
