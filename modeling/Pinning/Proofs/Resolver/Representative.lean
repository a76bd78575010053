import Pinning.Proofs.Resolver.TwoStores
/-!
Two records beside one another. Without store paths a spec comes to what the representative entry of
a record says, by either protocol; the entries of other platforms, their number and their order
change nothing.
-/

set_option autoImplicit false
set_option relaxedAutoImplicit false

namespace Pinning

namespace Search

/-- A record of the search service, by either protocol. -/
inductive AnyRecord
  | legacy (record : LegacyRecord)
  | enriched (record : EnrichedRecord)

namespace AnyRecord

def protocol : AnyRecord → Protocol
  | legacy _ => .legacy
  | enriched _ => .enriched

def platforms : AnyRecord → List String
  | legacy record => record.systems.entries.map Prod.fst
  | enriched record => record.systems.entries.map Prod.fst

/-- The records are of one protocol, have one version and share the entry that is chosen for the
host. -/
inductive SharesChoice (host : String) : AnyRecord → AnyRecord → Prop
  | legacy {first second : LegacyRecord} (hversion : first.version = second.version)
      (hchoice : Platform.SharesChoice host first.systems second.systems) :
      SharesChoice host (.legacy first) (.legacy second)
  | enriched {first second : EnrichedRecord} (hversion : first.version = second.version)
      (hchoice : Platform.SharesChoice host first.systems second.systems) :
      SharesChoice host (.enriched first) (.enriched second)

end AnyRecord

end Search

/-- The results are one error, or packages that are the same but for their store paths. -/
inductive SamePin : Except Error Package → Except Error Package → Prop
  | failed (cause : Error) : SamePin (.error cause) (.error cause)
  | pinned {p q : Package} (hversion : p.version = q.version) (hresolved : p.resolved = q.resolved)
      (hlastModified : p.lastModified = q.lastModified) (hsource : p.source = q.source) :
      SamePin (.ok p) (.ok q)

namespace SamePin

theorem refl (result : Except Error Package) : SamePin result result := by
  cases result with
  | error cause => exact .failed cause
  | ok package => exact .pinned rfl rfl rfl rfl

end SamePin

namespace Draft

open Search (AnyRecord)

/-- The package of a record, without store paths if the record has none. -/
def packageOf (host name version : String) : AnyRecord → Except Error Package
  | .legacy record => packageOfLegacy host name version record
  | .enriched record => packageOfEnriched host version record

variable {host name version : String} {first second : AnyRecord}

/-- Where nothing but the choice of a platform complains of missing platforms, the complaint says
that none is listed. -/
private theorem bind_select_eq_error_iff {α : Type} {m : PlatformMap α}
    {f : String × α → Except Error Package} (hf : ∀ chosen, f chosen ≠ .error .noSystemsAvailable) :
    (Platform.select host m >>= f) = .error .noSystemsAvailable ↔ m.entries.map Prod.fst = [] := by
  rw [List.map_eq_nil_iff, ← @Platform.select_eq_error_iff α host m]
  cases Platform.select host m with
  | error cause => simp [bind, Except.bind]
  | ok chosen =>
    constructor
    · intro h
      exact absurd h (hf chosen)
    · intro h
      cases h

theorem packageOf_eq_error_iff {record : AnyRecord} :
    packageOf host name version record = .error .noSystemsAvailable ↔ record.platforms = [] := by
  cases record with
  | legacy record =>
    apply bind_select_eq_error_iff
    rintro ⟨platform, entry⟩ h
    cases hattrPaths : entry.attrPaths <;> simp [hattrPaths] at h
  | enriched record =>
    apply bind_select_eq_error_iff
    rintro chosen h
    cases h

theorem samePin_packageOf (h : first.SharesChoice host second) :
    SamePin (packageOf host name version first) (packageOf host name version second) := by
  cases h with
  | @legacy first second hversion hchoice =>
    have hpackage : packageOfLegacy host name version first
        = packageOfLegacy host name version second := by
      rw [packageOfLegacy, packageOfLegacy, hchoice.select_eq, hversion]
    rw [packageOf, packageOf, hpackage]
    exact SamePin.refl _
  | @enriched first second hversion hchoice =>
    rw [packageOf, packageOf, packageOfEnriched, packageOfEnriched, hchoice.select_eq, hversion]
    cases Platform.select host second.systems with
    | error cause => exact .failed cause
    | ok chosen => exact .pinned rfl rfl rfl rfl

end Draft

namespace Resolver

open Search (AnyRecord)

variable {r s : Resolver} {written version : String} {first second : AnyRecord}

/-- Unless the caller cancels, the search service answers with this record for a name and a version.
-/
def Receives (r : Resolver) (name version : String) : AnyRecord → Prop
  | .legacy record => (r.services.single name version).Returns (.ok record)
  | .enriched record => (r.services.versioned name version).Returns (.ok record)

theorem resolvesTo_packageOf {record : AnyRecord}
    (hversion : (Spec.parse written).version = some version)
    (hrelease : (Spec.parse written).isRelease = false)
    (h : r.Receives (Spec.parse written).name version record) :
    r.ResolvesTo ⟨record.protocol, false⟩ written
      (Draft.packageOf r.host (Spec.parse written).name version record) := by
  cases record with
  | legacy record => exact resolvesTo_bare hversion hrelease h
  | enriched record =>
    have hdraft : (r.draft ⟨.enriched, false⟩ written).Returns
        (Draft.ofEnriched r.host (Spec.parse written).name version (.ok record)) :=
      returns_draft_published hversion hrelease h
    rw [Draft.ofEnriched_ok] at hdraft
    show r.ResolvesTo ⟨.enriched, false⟩ written (Draft.packageOfEnriched r.host version record)
    cases hpackage : Draft.packageOfEnriched r.host version record with
    | error cause =>
      rw [hpackage] at hdraft
      exact resolvesTo_of_draft hdraft fun draft hdrafted => by cases hdrafted
    | ok package =>
      rw [hpackage] at hdraft
      exact resolvesTo_of_draft hdraft fun draft hdrafted => Except.ok.inj hdrafted ▸ rfl

/-- The representative platform alone decides what a spec is pinned to. Whatever record either of
two resolvers for one host receives, and by whichever protocol, a spec comes to one result for each
of them, alone and in every order of steps beside others. If the records have one version and share
the entry of the host, or list no host and share the entry of the fallback platform, the results are
one error or packages that are the same but for their store paths. That no platform is available is
the result exactly if the record lists none. -/
theorem representative_decides (hhost : r.host = s.host)
    (hversion : (Spec.parse written).version = some version)
    (hrelease : (Spec.parse written).isRelease = false)
    (hfirst : r.Receives (Spec.parse written).name version first)
    (hsecond : s.Receives (Spec.parse written).name version second) :
    ∃ result other, r.ResolvesTo ⟨first.protocol, false⟩ written result
      ∧ s.ResolvesTo ⟨second.protocol, false⟩ written other
      ∧ (first.SharesChoice r.host second → SamePin result other)
      ∧ (result = .error .noSystemsAvailable ↔ first.platforms = [])
      ∧ (other = .error .noSystemsAvailable ↔ second.platforms = []) := by
  refine ⟨_, _, resolvesTo_packageOf hversion hrelease hfirst,
    resolvesTo_packageOf hversion hrelease hsecond, ?_, Draft.packageOf_eq_error_iff,
    Draft.packageOf_eq_error_iff⟩
  intro hchoice
  rw [← hhost]
  exact Draft.samePin_packageOf hchoice

/-- A record that shares one entry with that of three platforms, behind an entry without attribute
paths. -/
def brokenNeighbour : Search.LegacyRecord where
  name := "other"
  version := "1"
  summary := "says more"
  systems :=
    { entries :=
        [("i686-linux", ⟨[], "", 0, "", "", "", ""⟩),
          ("x86_64-linux", ⟨["n"], "c0ffee", 1688055638, "1", "a", "n", ""⟩)]
      distinct := by decide }

/-- The resolver for a host that no record knows, with a search service that knows one record. -/
def foreignHost (record : Search.LegacyRecord) : Resolver where
  services := {
    single := fun _ _ => pure (.ok record)
    versioned := fun _ _ => pure (.error .notFound)
    pin := fun _ => pure (.error .cancelled)
    lookup := Fanout.smallCache.lookup }
  host := "riscv64-linux"

private theorem outcome_foreignHost :
    ((foreignHost threePlatforms).resolve ⟨.legacy, false⟩ "n@1" |>.course false).outcome
      = .returned (.ok { smallPackage with systems := ∅ }) := by
  decide +kernel

/-- For a host that neither record knows, two records that share the fallback platform lead to one
package. -/
theorem representative_decides_foreignHost :
    (foreignHost threePlatforms).ResolvesTo ⟨.legacy, false⟩ "n@1"
      (.ok { smallPackage with systems := ∅ })
      ∧ ∃ package, (foreignHost brokenNeighbour).ResolvesTo ⟨.legacy, false⟩ "n@1" (.ok package)
        ∧ package.resolved = "github:NixOS/nixpkgs/c0ffee#n" ∧ package.version = "1" := by
  have hversion : (Spec.parse "n@1").version = some "1" := by decide +kernel
  have hrelease : (Spec.parse "n@1").isRelease = false := by decide +kernel
  have hentry : threePlatforms.systems.get? "x86_64-linux"
      = some ⟨["n"], "c0ffee", 1688055638, "1", "a", "n", ""⟩ := by
    decide +kernel
  have hchoice : (AnyRecord.legacy threePlatforms).SharesChoice "riscv64-linux"
      (.legacy brokenNeighbour) :=
    .legacy rfl (.fallback (by decide +kernel) (by decide +kernel) hentry (by decide +kernel))
  have hhost : (foreignHost threePlatforms).host = (foreignHost brokenNeighbour).host := rfl
  have hfirst : (foreignHost threePlatforms).Receives (Spec.parse "n@1").name "1"
      (.legacy threePlatforms) :=
    Activity.returns_pure _
  have hsecond : (foreignHost brokenNeighbour).Receives (Spec.parse "n@1").name "1"
      (.legacy brokenNeighbour) :=
    Activity.returns_pure _
  obtain ⟨result, other, hresult, hother, hsame, -, -⟩ :=
    representative_decides hhost hversion hrelease hfirst hsecond
  obtain rfl := Outcome.returned.inj (hresult.alone.outcome.symm.trans outcome_foreignHost)
  refine ⟨hresult, ?_⟩
  cases hsame hchoice with
  | pinned hsameVersion hresolved _ _ => exact ⟨_, hother, hresolved.symm, hsameVersion.symm⟩

end Resolver

end Pinning
