import Pinning.Proofs.Resolver.Protocols
/-!
One record beside two stores. Without store paths no store is asked; with them a store decides about
nothing but the store paths of the package, and what it answers for one platform about nothing but
the store path of that platform.
-/

set_option autoImplicit false
set_option relaxedAutoImplicit false

namespace Pinning.Resolver

open Search (LegacyRecord givenPath?)

variable {r : Resolver} {strategy : Strategy} {written version : String}
  {answer : Store.Ref → String → Except Store.Error String}

def withStore (r : Resolver) (store : Fanout) : Resolver where
  services := { r.services with lookup := store.lookup }
  cacheUrl := store.cacheUrl
  host := r.host

/-- The spec comes to this result: alone, and in every order of steps beside other specs, as long as
nobody cancels. -/
structure ResolvesTo (r : Resolver) (strategy : Strategy) (written : String)
    (result : Except Error Package) :
    Prop where
  alone : (r.resolve strategy written).Returns result
  beside : ∀ specs batch, r.Reaches strategy (.start specs false) batch → batch.cancelled = false →
    ∀ other, (written, .settled other) ∈ batch.specs → other = result

theorem resolvesTo_of_returns {result : Except Error Package} (hstore : r.fanout.Answers answer)
    (halone : (r.resolve strategy written).Returns result) :
    r.ResolvesTo strategy written result where
  alone := halone
  beside specs batch hrun hcalm other hspec := by
    have hsettles := settles_of_reaches hrun hspec
    rw [hcalm] at hsettles
    exact hsettles.eq_of_resolve hstore halone

theorem resolvesTo_of_draft {drafted : Except Error Draft}
    (hdraft : (r.draft strategy written).Returns drafted)
    (hrefs : ∀ draft, drafted = .ok draft → draft.refs = none) :
    r.ResolvesTo strategy written (drafted.map Draft.package) := by
  have halone : (r.resolve strategy written).Returns (drafted.map Draft.package) := by
    refine hdraft.bind ?_
    cases drafted with
    | error cause => exact Activity.returns_pure _
    | ok draft =>
      simp only [complete, hrefs draft rfl]
      exact Activity.returns_pure _
  refine ⟨halone, ?_⟩
  intro specs batch hrun hcalm other hspec
  have hsettles := settles_of_reaches hrun hspec
  rw [hcalm] at hsettles
  rcases hsettles.alone_or_fetched hdraft.quiet with
    hother | ⟨draft, refs, _, _, hfetched, hsome, -⟩
  · exact hother.unique halone
  · -- There is one draft of the spec, and nothing to look up for it.
    have hnone := hrefs draft (hdraft.unique hfetched)
    cases hnone.symm.trans hsome

/-- The store paths that a store gives for the build outputs of a record. -/
def storePathsOf (answer : Store.Ref → String → Except Store.Error String) (cacheUrl : String)
    (record : LegacyRecord) : SortedMap String :=
  Fanout.found (Fanout.answeredEndings answer cacheUrl (Fanout.wanted (Draft.refsOfLegacy record)))

theorem get?_storePathsOf (cacheUrl : String) (record : LegacyRecord) (platform : String) :
    (storePathsOf answer cacheUrl record).get? platform
      = (record.systems.get? platform).bind fun entry =>
        givenPath? answer cacheUrl entry.storeRef := by
  refine Option.ext fun path => ?_
  rw [storePathsOf, get?_found_refsOfLegacy, Option.bind_eq_some_iff]

section Record

variable {record : LegacyRecord} (hversion : (Spec.parse written).version = some version)
  (hrelease : (Spec.parse written).isRelease = false)
  (hanswer : (r.services.single (Spec.parse written).name version).Returns (.ok record))
include hversion hrelease hanswer

theorem resolvesTo_bare :
    r.ResolvesTo ⟨.legacy, false⟩ written
      (Draft.packageOfLegacy r.host (Spec.parse written).name version record) := by
  have hdraft : (r.draft ⟨.legacy, false⟩ written).Returns
      (Draft.ofLegacy r.host (Spec.parse written).name version false (.ok record)) :=
    returns_draft_answered hversion hrelease hanswer
  rw [Draft.ofLegacy_ok] at hdraft
  cases hpackage : Draft.packageOfLegacy r.host (Spec.parse written).name version record with
  | error cause =>
    rw [hpackage] at hdraft
    exact resolvesTo_of_draft hdraft fun draft hdrafted => by cases hdrafted
  | ok package =>
    rw [hpackage] at hdraft
    exact resolvesTo_of_draft hdraft fun draft hdrafted => Except.ok.inj hdrafted ▸ rfl

theorem resolvesTo_withStore {store : Fanout} (hstore : store.Answers answer) :
    (r.withStore store).ResolvesTo ⟨.legacy, true⟩ written
      ((Draft.packageOfLegacy r.host (Spec.parse written).name version record).map fun package =>
        { package with systems := storePathsOf answer store.cacheUrl record }) := by
  have hdraft : ((r.withStore store).draft ⟨.legacy, true⟩ written).Returns
      (Draft.ofLegacy r.host (Spec.parse written).name version true (.ok record)) :=
    returns_draft_answered hversion hrelease hanswer
  have hpaths : ((r.withStore store).fanout.resolve (Draft.refsOfLegacy record)).Returns
      (.ok (storePathsOf answer store.cacheUrl record)) := Fanout.returns_resolve hstore _
  rw [Draft.ofLegacy_ok] at hdraft
  cases hpackage : Draft.packageOfLegacy r.host (Spec.parse written).name version record with
  | error cause =>
    rw [hpackage] at hdraft
    exact resolvesTo_of_returns hstore (hdraft.bind (Activity.returns_pure _))
  | ok package =>
    rw [hpackage] at hdraft
    exact resolvesTo_of_returns hstore (hdraft.bind (returns_complete rfl hpaths))

end Record

/-- Store paths touch nothing but the store paths of the package. For every legacy record there is
one result without store paths, and beside every store that answers the spec comes to that result,
with store paths put in if it is a package: so it fails beside all stores or none, and always for
the same cause. The store path of a platform is the same beside any two stores that give the same
for the build output of this platform. -/
theorem stores_touch_only_systems (r : Resolver) {record : LegacyRecord}
    (hversion : (Spec.parse written).version = some version)
    (hrelease : (Spec.parse written).isRelease = false)
    (hanswer : (r.services.single (Spec.parse written).name version).Returns (.ok record)) :
    ∃ bare : Except Error Package, r.ResolvesTo ⟨.legacy, false⟩ written bare
      ∧ (∀ package, bare = .ok package → package.systems = ∅)
      ∧ ∀ (store₁ store₂ : Fanout)
          (answer₁ answer₂ : Store.Ref → String → Except Store.Error String),
        store₁.Answers answer₁ → store₂.Answers answer₂ →
        ∃ found₁ found₂ : SortedMap String,
          (r.withStore store₁).ResolvesTo ⟨.legacy, true⟩ written
            (bare.map fun package => { package with systems := found₁ })
          ∧ (r.withStore store₂).ResolvesTo ⟨.legacy, true⟩ written
            (bare.map fun package => { package with systems := found₂ })
          ∧ ∀ platform, (∀ entry, record.systems.get? platform = some entry →
              givenPath? answer₁ store₁.cacheUrl entry.storeRef
                = givenPath? answer₂ store₂.cacheUrl entry.storeRef) →
            found₁.get? platform = found₂.get? platform := by
  refine ⟨Draft.packageOfLegacy r.host (Spec.parse written).name version record,
    resolvesTo_bare hversion hrelease hanswer, ?_, ?_⟩
  · intro package hpackage
    obtain ⟨_, _, _, _, -, -, hfields⟩ := Draft.packageOfLegacy_eq_ok.1 hpackage
    exact congrArg Package.systems hfields
  · intro store₁ store₂ answer₁ answer₂ hstore₁ hstore₂
    refine ⟨_, _, resolvesTo_withStore hversion hrelease hanswer hstore₁,
      resolvesTo_withStore hversion hrelease hanswer hstore₂, ?_⟩
    intro platform hagree
    rw [get?_storePathsOf, get?_storePathsOf]
    exact Option.bind_congr fun entry hentry => hagree entry hentry

def largerAnswer (ref : Store.Ref) (_ : String) : Except Store.Error String :=
  if ref.hash = "a" ∨ ref.hash = "b" then .ok ("/nix/store/" ++ ref.hash ++ "-n")
  else .error (.miss ref.hash)

def largerCache : Fanout where
  lookup := fun ref cacheUrl => pure (largerAnswer ref cacheUrl)
  cacheUrl := "https://larger.example"

private theorem outcome_twoCaches :
    ((smallResolver.resolve ⟨.legacy, false⟩ "n@1").course false).outcome
        = .returned (.ok { smallPackage with systems := ∅ })
      ∧ (((smallResolver.withStore Fanout.smallCache).resolve
          ⟨.legacy, true⟩ "n@1").course false).outcome
        = .returned (.ok smallPackage)
      ∧ (((smallResolver.withStore largerCache).resolve ⟨.legacy, true⟩ "n@1").course false).outcome
        = .returned (.ok { smallPackage with
          systems := SortedMap.ofList
            [("aarch64-linux", "/nix/store/b-n"), ("x86_64-linux", "/nix/store/a-n")] }) := by
  decide +kernel

/-- Two caches that agree on one build output of three, and not on another. -/
theorem stores_touch_only_systems_largerCache :
    ∃ found₁ found₂ : SortedMap String,
      smallResolver.ResolvesTo ⟨.legacy, false⟩ "n@1" (.ok { smallPackage with systems := ∅ })
      ∧ (smallResolver.withStore Fanout.smallCache).ResolvesTo ⟨.legacy, true⟩ "n@1"
        (.ok { smallPackage with systems := found₁ })
      ∧ (smallResolver.withStore largerCache).ResolvesTo ⟨.legacy, true⟩ "n@1"
        (.ok { smallPackage with systems := found₂ })
      ∧ found₁.get? "x86_64-linux" = found₂.get? "x86_64-linux"
      ∧ found₁.get? "aarch64-linux" ≠ found₂.get? "aarch64-linux" := by
  have hversion : (Spec.parse "n@1").version = some "1" := by decide +kernel
  have hrelease : (Spec.parse "n@1").isRelease = false := by decide +kernel
  have hanswer : (smallResolver.services.single (Spec.parse "n@1").name "1").Returns
      (.ok threePlatforms) :=
    Activity.returns_pure _
  obtain ⟨bare, hoff, -, hstores⟩ :=
    stores_touch_only_systems smallResolver hversion hrelease hanswer
  obtain ⟨found₁, found₂, hfirst, hsecond, hagree⟩ :=
    hstores Fanout.smallCache largerCache Fanout.smallAnswer
    largerAnswer (fun _ _ => Activity.returns_pure _) (fun _ _ => Activity.returns_pure _)
  obtain ⟨hbare, hsmall, hlarger⟩ := outcome_twoCaches
  obtain rfl := Outcome.returned.inj (hoff.alone.outcome.symm.trans hbare)
  refine ⟨found₁, found₂, hoff, hfirst, hsecond, ?_, ?_⟩
  · refine hagree "x86_64-linux" ?_
    intro entry hentry
    have hshown : threePlatforms.systems.get? "x86_64-linux"
        = some ⟨["n"], "c0ffee", 1688055638, "1", "a", "n", ""⟩ := by decide +kernel
    obtain rfl := Option.some.inj (hentry.symm.trans hshown)
    decide +kernel
  · have hfound₁ := Outcome.returned.inj (hfirst.alone.outcome.symm.trans hsmall)
    have hfound₂ := Outcome.returned.inj (hsecond.alone.outcome.symm.trans hlarger)
    obtain rfl : found₁ = _ := congrArg Package.systems (Except.ok.inj hfound₁)
    obtain rfl : found₂ = _ := congrArg Package.systems (Except.ok.inj hfound₂)
    decide +kernel

end Pinning.Resolver
