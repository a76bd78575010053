import Pinning.Proofs.Resolver.Advance
import Pinning.Proofs.Resolver.Representative
import Pinning.Resolver.Listing
/-!
Specs that are resolved together while every answer lists its platforms in an order of its own. Each
spec goes through what it would go through alone with some order. A spec has one result in all
orders if the entries that may stand for its record are the same, as they are when it offers the
host or the fallback platform.
-/

set_option autoImplicit false
set_option relaxedAutoImplicit false

namespace Pinning

open Activity (returns_pure)

namespace Search

/-- All entries that may stand for the record are the same. -/
def AnyRecord.IsDecided (host : String) : AnyRecord → Prop
  | .legacy record => Platform.IsDecided host record.systems
  | .enriched record => Platform.IsDecided host record.systems

end Search

namespace Draft

open Search (LegacyRecord EnrichedRecord Listing)

variable {host name version : String} (order : Listing)

theorem packageOfLegacy_listing {record : LegacyRecord}
    (h : Platform.IsDecided host record.systems) :
    packageOfLegacy host name version (order.ofLegacy record)
      = packageOfLegacy host name version record := by
  rcases h.select_cases (order.perm_legacy record.systems) with
    ⟨hlisted, hgiven⟩ | ⟨_, _, entry, hlisted, hgiven⟩
  · simp only [packageOfLegacy, Listing.ofLegacy, hlisted, hgiven]
  · simp only [packageOfLegacy, Listing.ofLegacy, hlisted, hgiven]
    rfl

theorem packageOfEnriched_listing {record : EnrichedRecord}
    (h : Platform.IsDecided host record.systems) :
    packageOfEnriched host version (order.ofEnriched record)
      = packageOfEnriched host version record := by
  have hpaths : SortedMap.ofList ((order.ofEnriched record).systems.entries.filterMap firstPath?)
      = SortedMap.ofList (record.systems.entries.filterMap firstPath?) := by
    refine SortedMap.ext_get? fun platform => Option.ext fun path => ?_
    rw [get?_firstPaths, get?_firstPaths]
    simp only [Listing.ofEnriched, PlatformMap.get?_eq_of_perm (order.perm_enriched record.systems)]
  rw [packageOfEnriched, packageOfEnriched, hpaths]
  rcases h.select_cases (order.perm_enriched record.systems) with
    ⟨hlisted, hgiven⟩ | ⟨_, _, entry, hlisted, hgiven⟩
  · simp only [Listing.ofEnriched, hlisted, hgiven]
  · simp only [Listing.ofEnriched, hlisted, hgiven]
    rfl

/-- The drafts are one error, or are made of one package and of the same build outputs in some
order. -/
inductive Permuted : Except Error Draft → Except Error Draft → Prop
  | failed (cause : Error) : Permuted (.error cause) (.error cause)
  | plain (package : Package) : Permuted (.ok ⟨package, none⟩) (.ok ⟨package, none⟩)
  | listed (package : Package) {refs others : Fanout.Refs} (hnodup : (refs.map Prod.fst).Nodup)
      (hperm : refs.Perm others) : Permuted (.ok ⟨package, some refs⟩) (.ok ⟨package, some others⟩)

theorem permuted_ofLegacy {record : LegacyRecord} (h : Platform.IsDecided host record.systems)
    (storePaths : Bool) :
    Permuted (ofLegacy host name version storePaths (.ok record))
      (ofLegacy host name version storePaths (.ok (order.ofLegacy record))) := by
  rw [ofLegacy_ok, ofLegacy_ok, packageOfLegacy_listing order h]
  cases packageOfLegacy host name version record with
  | error cause => exact .failed cause
  | ok package =>
    cases storePaths with
    | false => exact .plain package
    | true =>
      have hperm : (refsOfLegacy (order.ofLegacy record)).Perm (refsOfLegacy record) :=
        (order.perm_legacy record.systems).map _
      exact .listed package (nodup_refsOfLegacy record) hperm.symm

theorem permuted_ofEnriched {record : EnrichedRecord} (h : Platform.IsDecided host record.systems) :
    Permuted (ofEnriched host name version (.ok record))
      (ofEnriched host name version (.ok (order.ofEnriched record))) := by
  rw [ofEnriched_ok, ofEnriched_ok, packageOfEnriched_listing order h]
  cases packageOfEnriched host version record with
  | error cause => exact .failed cause
  | ok package => exact .plain package

end Draft

namespace Resolver

open Search (AnyRecord Listing)

variable {r : Resolver} {strategy : Strategy} {written : String} {order : Listing}

theorem returns_single_listing {name version : String}
    {answer : Except Search.Error Search.LegacyRecord}
    (h : (r.services.single name version).Returns answer) :
    ((r.listing order).services.single name version).Returns (answer.map order.ofLegacy) :=
  h.bind (returns_pure _)

theorem returns_versioned_listing {name version : String}
    {answer : Except Search.Error Search.EnrichedRecord}
    (h : (r.services.versioned name version).Returns answer) :
    ((r.listing order).services.versioned name version).Returns (answer.map order.ofEnriched) :=
  h.bind (returns_pure _)

theorem Dependable.listing (h : r.Dependable) (order : Listing) : (r.listing order).Dependable where
  single name version := by
    obtain ⟨answer, hanswer⟩ := h.single name version
    exact ⟨_, returns_single_listing hanswer⟩
  versioned name version := by
    obtain ⟨answer, hanswer⟩ := h.versioned name version
    exact ⟨_, returns_versioned_listing hanswer⟩
  pin := h.pin
  quiet := h.quiet
  ends := h.ends

section Runs

variable {batch next : Batch} {specs : List String} {cancelled : Bool}

theorem FreelyReaches.texts (hrun : FreelyReaches r strategy (.start specs cancelled) batch) :
    batch.specs.map Prod.fst = specs := by
  induction hrun with
  | refl => simp [Batch.start, Function.comp_def]
  | tail _ hstep ih =>
    obtain ⟨order, hstep⟩ := hstep
    exact hstep.texts.trans ih

/-- The resolvers that differ in the order of platforms alone. -/
def Listed (r s : Resolver) : Prop := ∃ order, s = r.listing order

theorem allTracedBy_listed (hrun : FreelyReaches r strategy (.start specs cancelled) batch) :
    AllTracedBy r.Listed strategy batch := by
  induction hrun with
  | refl =>
    intro entry hentry
    obtain ⟨written, -, rfl⟩ := List.mem_map.1 hentry
    exact ⟨_, ⟨.asGiven, rfl⟩, trivial⟩
  | tail _ hstep ih =>
    obtain ⟨order, hstep⟩ := hstep
    refine ih.step (f := r.fanout) ?_ ⟨order, rfl⟩ hstep
    rintro _ ⟨other, rfl⟩
    rfl

/-- Beside others, and in whatever orders of platforms, a spec comes to what it comes to alone in
some order. -/
theorem Dependable.exists_alone (h : r.Dependable)
    (hrun : FreelyReaches r strategy (.start specs false) batch) (hcalm : batch.cancelled = false)
    {result : Except Error Package} (hspec : (written, .settled result) ∈ batch.specs) :
    ∃ order alone, ((r.listing order).resolve strategy written).Returns alone
      ∧ Alike result alone := by
  obtain ⟨_, ⟨order, rfl⟩, hsettles⟩ := allTracedBy_listed hrun _ hspec
  change (r.listing order).Settles strategy written batch.cancelled result at hsettles
  rw [hcalm] at hsettles
  obtain ⟨alone, halone, halike, -⟩ :=
    hsettles.exists_alone ((h.listing order).steady_draft strategy written).quiet h.quiet
  exact ⟨order, alone, halone, halike⟩

/-- An advance with the platforms in some order. -/
def FreelyAdvances (r : Resolver) (strategy : Strategy) (batch next : Batch) : Prop :=
  ∃ order, Advances (r.listing order) strategy batch next

theorem FreelyAdvances.reaches (h : FreelyAdvances r strategy batch next) :
    FreelyReaches r strategy batch next := by
  obtain ⟨order, h⟩ := h
  exact Relation.ReflTransGen.mono (fun _ _ hstep => ⟨order, hstep⟩) _ _ h.reaches

theorem Dependable.freely_inevitable (h : r.Dependable) (strategy : Strategy)
    (htoken : batch.cancelled = false) :
    Inevitable (FreelyAdvances r strategy)
      (fun last => (FreelyReaches r strategy batch last ∧ last.cancelled = false)
        ∧ ∃ results, last.Settled results) batch := by
  refine inevitable_settled ?_ ?_ ⟨.refl, htoken⟩
  · rintro last next ⟨hrun, -⟩ hadvances
    have hnext := hrun.trans hadvances.reaches
    obtain ⟨order, hadvances⟩ := hadvances
    exact ⟨⟨hnext, hadvances.after⟩, hadvances.nearer⟩
  · rintro last ⟨-, hlast⟩ i written progress hspec hopen
    obtain ⟨next, hadvances⟩ := (h.listing .asGiven).exists_advances strategy hlast hspec hopen
    exact ⟨next, .asGiven, hadvances⟩

end Runs

section Decided

/-- The record that the search service has for a spec is decided for the host. -/
def Decides (r : Resolver) (strategy : Strategy) (written : String) : Prop :=
  ∀ version record, (Spec.parse written).version = some version →
    (Spec.parse written).isRelease = false →
    record.protocol = strategy.protocol → r.Receives (Spec.parse written).name version record →
    record.IsDecided r.host

theorem returns_resolve_of_permuted {s : Resolver} (hfanout : s.fanout = r.fanout)
    (hquiet : r.fanout.Quiet) (hends : r.fanout.Ends) {drafted other : Except Error Draft}
    (hdrafted : Draft.Permuted drafted other) (hdraft : (r.draft strategy written).Returns drafted)
    (hother : (s.draft strategy written).Returns other) {alone : Except Error Package}
    (halone : (r.resolve strategy written).Returns alone) :
    (s.resolve strategy written).Returns alone := by
  cases hdrafted with
  | failed cause =>
    have hresolve : (r.resolve strategy written).Returns (.error cause) :=
      hdraft.bind (returns_pure _)
    rw [halone.unique hresolve]
    exact hother.bind (returns_pure _)
  | plain package =>
    have hresolve : (r.resolve strategy written).Returns (.ok package) :=
      hdraft.bind (returns_pure _)
    rw [halone.unique hresolve]
    exact hother.bind (returns_pure _)
  | @listed package refs others hnodup hperm =>
    obtain ⟨paths, hpaths⟩ := Fanout.exists_returns_resolve hquiet hends refs
    have hresolve : (r.resolve strategy written).Returns (finish ⟨package, some refs⟩ paths) :=
      hdraft.bind (returns_complete rfl hpaths)
    have hsame : (s.fanout.resolve others).Returns paths := by
      rw [hfanout]
      exact Fanout.returns_resolve_of_perm hquiet hnodup hperm hpaths
    rw [halone.unique hresolve]
    exact hother.bind (returns_complete rfl hsame)

private theorem returns_listing_of_draft
    (hdraft : (r.listing order).draft strategy written = r.draft strategy written)
    {alone : Except Error Package} (halone : (r.resolve strategy written).Returns alone) :
    ((r.listing order).resolve strategy written).Returns alone := by
  rw [resolve, hdraft]
  exact halone

theorem Decides.returns_listing (hdecides : r.Decides strategy written) (h : r.Dependable)
    (order : Listing) {alone : Except Error Package}
    (halone : (r.resolve strategy written).Returns alone) :
    ((r.listing order).resolve strategy written).Returns alone := by
  obtain ⟨protocol, storePaths⟩ := strategy
  have hfanout : (r.listing order).fanout = r.fanout := rfl
  cases hversion : (Spec.parse written).version with
  | none =>
    refine returns_listing_of_draft ?_ halone
    rw [draft, draft, Inquiry.ofSpec, hversion]
  | some version =>
    cases hrelease : (Spec.parse written).isRelease with
    | true =>
      refine returns_listing_of_draft ?_ halone
      rw [draft, draft, Inquiry.ofSpec_of_release hversion hrelease]
      rfl
    | false =>
      cases protocol with
      | legacy =>
        obtain ⟨answer, hanswer⟩ := h.single (Spec.parse written).name version
        have hdraft : (r.draft ⟨.legacy, storePaths⟩ written).Returns _ :=
          returns_draft_answered hversion hrelease hanswer
        have hother : ((r.listing order).draft ⟨.legacy, storePaths⟩ written).Returns _ :=
          returns_draft_answered hversion hrelease (returns_single_listing hanswer)
        refine returns_resolve_of_permuted hfanout h.quiet h.ends ?_ hdraft hother halone
        cases answer with
        | error cause => exact .failed _
        | ok record =>
          exact Draft.permuted_ofLegacy order
            (hdecides version (.legacy record) hversion hrelease rfl hanswer) _
      | enriched =>
        obtain ⟨answer, hanswer⟩ := h.versioned (Spec.parse written).name version
        have hdraft : (r.draft ⟨.enriched, storePaths⟩ written).Returns _ :=
          returns_draft_published hversion hrelease hanswer
        have hother : ((r.listing order).draft ⟨.enriched, storePaths⟩ written).Returns _ :=
          returns_draft_published hversion hrelease (returns_versioned_listing hanswer)
        refine returns_resolve_of_permuted hfanout h.quiet h.ends ?_ hdraft hother halone
        cases answer with
        | error cause => cases cause <;> exact .failed _
        | ok record =>
          exact Draft.permuted_ofEnriched order
            (hdecides version (.enriched record) hversion hrelease rfl hanswer)

end Decided

end Resolver

end Pinning
