import Pinning.Proofs.Resolver.Listing
/-!
Resolving several specs together, in whatever order they take their steps, is resolving each alone.
None of them depends on the others, be they resolved, failed or broken down. What a spec comes to
depends on the order in which its record lists platforms only if different entries may stand for the
record.
-/

set_option autoImplicit false
set_option relaxedAutoImplicit false

namespace Pinning.Resolver

variable {r : Resolver} {strategy : Strategy} {written : String}

/-- Resolving specs together is resolving each alone. If the services answer every question, each
spec has a result of its own, and the specs together come to the list of them, in the given order.
So they do in every order of steps in which nobody cancels, while every answer lists its platforms
in an order of its own: whichever way the specs advance, all of them come to results, each beside
its own text. What a spec comes to beside others it comes to alone with some order of platforms, up
to the text of a breakdown; and if its record is decided, with every order. -/
theorem together_as_alone (r : Resolver) (h : r.Dependable) (strategy : Strategy)
    (specs : List String) :
    ∃ alone : String → Except Error Package,
      (∀ written, (r.resolve strategy written).Returns (alone written))
      ∧ (r.resolveAll strategy specs).Returns (specs.map fun written => (written, alone written))
      ∧ (∀ written, r.Decides strategy written → ∀ order,
        ((r.listing order).resolve strategy written).Returns (alone written))
      ∧ ∀ batch, FreelyReaches r strategy (.start specs false) batch → batch.cancelled = false →
        (∀ (i : Nat) written result, batch.specs[i]? = some (written, .settled result) →
          specs[i]? = some written
          ∧ (∃ order own, ((r.listing order).resolve strategy written).Returns own
              ∧ Alike result own)
          ∧ (r.Decides strategy written → Alike result (alone written)))
        ∧ Inevitable (FreelyAdvances r strategy) (fun last => ∃ results, last.Settled results
          ∧ results.map Prod.fst = specs
          ∧ ∀ entry ∈ results, r.Decides strategy entry.1 → Alike entry.2 (alone entry.1))
            batch := by
  obtain ⟨alone, halone, hall⟩ := h.returns_resolveAll strategy specs
  have hsame : ∀ written, r.Decides strategy written → ∀ order,
      ((r.listing order).resolve strategy written).Returns (alone written) :=
    fun written hdecides order => hdecides.returns_listing h order (halone written)
  have halike : ∀ batch, FreelyReaches r strategy (.start specs false) batch →
      batch.cancelled = false →
      ∀ written result, (written, .settled result) ∈ batch.specs → r.Decides strategy written →
      Alike result (alone written) := by
    intro batch hrun hcalm written result hspec hdecides
    obtain ⟨order, own, hown, hlike⟩ := h.exists_alone hrun hcalm hspec
    rw [(hsame written hdecides order).unique hown]
    exact hlike
  refine ⟨alone, halone, hall, hsame, fun batch hrun hcalm => ⟨?_, ?_⟩⟩
  · intro i written result hspec
    have hmem := List.mem_of_getElem? hspec
    refine ⟨?_, h.exists_alone hrun hcalm hmem, halike batch hrun hcalm written result hmem⟩
    rw [← hrun.texts, List.getElem?_map, hspec]
    rfl
  · refine (h.freely_inevitable strategy hcalm).mono fun last hlast => ?_
    obtain ⟨⟨hrest, htoken⟩, results, hsettled⟩ := hlast
    have hwhole : FreelyReaches r strategy (.start specs false) last := hrun.trans hrest
    refine ⟨results, hsettled, hsettled.texts.trans hwhole.texts, fun entry hentry => ?_⟩
    exact halike last hwhole htoken entry.1 entry.2 (hsettled.mem hentry)

/-- The record of the three platforms with build outputs whose lookups panic. -/
def brittlePlatforms : Search.LegacyRecord where
  name := "brittle"
  version := "1"
  summary := ""
  systems := Fanout.threeRefs.map fun ref =>
    ⟨["brittle"], "c0ffee", 1688055638, "1", "panic", ref.name, ""⟩

/-- A resolver that knows two packages. The lookups of one of them panic. -/
def unevenResolver : Resolver where
  services := {
    single := fun name _ => pure (
      if name = "n" then .ok threePlatforms
      else if name = "brittle" then .ok brittlePlatforms
      else .error .notFound)
    versioned := fun _ _ => pure (.error .notFound)
    pin := fun _ => pure (.error .cancelled)
    lookup := fun ref cacheUrl =>
      if ref.hash = "panic" then Activity.ended .panicked
      else Fanout.smallCache.lookup ref cacheUrl }
  cacheUrl := Fanout.smallCache.cacheUrl

/-- Specs of which one has a lookup that panics, one is not known, one has no version and one is
given twice. -/
def unevenSpecs : List String := ["n@1", "brittle@1", "lost@1", "n", "n@1"]

private theorem decides_unevenResolver : unevenResolver.Decides ⟨.legacy, true⟩ "n@1" := by
  have hname : (Spec.parse "n@1").name = "n" := by decide +kernel
  have hoffered : (threePlatforms.systems.get? unevenResolver.host).isSome := by decide +kernel
  intro version record _ _ hprotocol hreceives
  cases record with
  | enriched record => cases hprotocol
  | legacy record =>
    have hknown : (unevenResolver.services.single (Spec.parse "n@1").name version).Returns
        (.ok threePlatforms) := by
      rw [hname]
      exact Activity.returns_pure _
    obtain rfl := Except.ok.inj (hknown.unique hreceives)
    exact Platform.isDecided_of_offered (.inl hoffered)

/-- The spec that is given twice resolves both times, in every order, whatever becomes of the
others. -/
theorem together_as_alone_unevenSpecs :
    unevenResolver.Dependable ∧ unevenResolver.Decides ⟨.legacy, true⟩ "n@1"
      ∧ (unevenResolver.resolveAll ⟨.legacy, true⟩ unevenSpecs).Returns
        [("n@1", .ok smallPackage), ("brittle@1", .error (.fanout "task panicked")),
          ("lost@1", .error (.packageNotFound "lost" "1")), ("n", .error (.missingVersion "n")),
          ("n@1", .ok smallPackage)]
      ∧ Inevitable (FreelyAdvances unevenResolver ⟨.legacy, true⟩)
        (fun last => ∃ results, last.Settled results
          ∧ results.map Prod.fst = unevenSpecs
          ∧ ∀ entry ∈ results, entry.1 = "n@1" → entry.2 = .ok smallPackage)
        (.start unevenSpecs false) := by
  have hdependable : unevenResolver.Dependable := {
    single := fun _ _ => ⟨_, Activity.returns_pure _⟩
    versioned := fun _ _ => ⟨_, Activity.returns_pure _⟩
    pin := fun _ => ⟨_, Activity.returns_pure _⟩
    quiet := by
      intro ref cacheUrl
      simp only [fanout, unevenResolver]
      split <;> rfl
    ends := by
      intro ref cacheUrl
      simp only [fanout, unevenResolver]
      split
      · intro hwait
        cases hwait
      · intro hwait
        cases hwait }
  obtain ⟨alone, halone, hall, -, hruns⟩ :=
    together_as_alone unevenResolver hdependable ⟨.legacy, true⟩ unevenSpecs
  have hvalue : ∀ {written : String} {result : Except Error Package},
      ((unevenResolver.resolve ⟨.legacy, true⟩ written).course false).outcome = .returned result →
        alone written = result :=
    fun hresult => Outcome.returned.inj ((halone _).outcome.symm.trans hresult)
  have hsmall : alone "n@1" = .ok smallPackage := hvalue (by decide +kernel)
  have hbrittle : alone "brittle@1" = .error (.fanout "task panicked") := hvalue (by decide +kernel)
  have hlost : alone "lost@1" = .error (.packageNotFound "lost" "1") := hvalue (by decide +kernel)
  have hbare : alone "n" = .error (.missingVersion "n") := hvalue (by decide +kernel)
  refine ⟨hdependable, decides_unevenResolver, ?_, ?_⟩
  · rw [unevenSpecs] at hall
    simp only [List.map_cons, List.map_nil, hsmall, hbrittle, hlost, hbare] at hall
    exact hall
  · refine (hruns _ .refl rfl).2.mono fun last hlast => ?_
    obtain ⟨results, hsettled, htexts, halike⟩ := hlast
    refine ⟨results, hsettled, htexts, fun entry hentry hwritten => ?_⟩
    have hlike := halike entry hentry (hwritten ▸ decides_unevenResolver)
    rw [hwritten, hsmall] at hlike
    exact hlike.eq_ok

/-- A record of two platforms, each at a revision of its own. -/
def twoRevisions : Search.LegacyRecord where
  name := "n"
  version := "1"
  summary := ""
  systems :=
    { entries :=
        [("aarch64-linux", ⟨["n"], "beef", 0, "1", "", "", ""⟩),
          ("aarch64-darwin", ⟨["n"], "c0ffee", 0, "1", "", "", ""⟩)]
      distinct := by decide }

def backwards : Search.Listing where
  legacy m := ⟨m.entries.reverse, by rw [List.map_reverse, List.nodup_reverse]; exact m.distinct⟩
  enriched m := ⟨m.entries.reverse, by rw [List.map_reverse, List.nodup_reverse]; exact m.distinct⟩
  perm_legacy m := m.entries.reverse_perm
  perm_enriched m := m.entries.reverse_perm

/-- The package at a revision, without a time or store paths. -/
def packageFrom (revision : String) : Package where
  version := "1"
  resolved := "github:NixOS/nixpkgs/" ++ revision ++ "#n"
  lastModified := none
  source := some .remoteSearch
  systems := ∅

/-- A record that offers neither the host nor the fallback platform may be answered in another order
the second time: a spec that is given twice then comes to two results. -/
theorem repeated_spec_differs :
    ((foreignHost twoRevisions).resolve ⟨.legacy, false⟩ "n@1").Returns (.ok (packageFrom "beef"))
      ∧ packageFrom "beef" ≠ packageFrom "c0ffee"
      ∧ ∃ batch, FreelyReaches (foreignHost twoRevisions) ⟨.legacy, false⟩
        (.start ["n@1", "n@1"] false) batch
        ∧ batch.cancelled = false
        ∧ batch.Settled [("n@1", .ok (packageFrom "beef")),
            ("n@1", .ok (packageFrom "c0ffee"))] := by
  let r := foreignHost twoRevisions
  let inquiry : Inquiry := .legacy "n" "1" false
  have hasking : Progress.ofSpec ⟨.legacy, false⟩ "n@1" = .asking inquiry := by
    have hspec : Inquiry.ofSpec ⟨.legacy, false⟩ (Spec.parse "n@1") = .ok inquiry := by
      decide +kernel
    rw [Progress.ofSpec, hspec]
  have halone : ((r.resolve ⟨.legacy, false⟩ "n@1").course false).outcome
      = .returned (.ok (packageFrom "beef")) := by decide +kernel
  have hgiven : (((r.listing .asGiven).ask inquiry).course false).outcome
      = .returned (.ok ⟨packageFrom "beef", none⟩) := by decide +kernel
  have hturned : (((r.listing backwards).ask inquiry).course false).outcome
      = .returned (.ok ⟨packageFrom "c0ffee", none⟩) := by decide +kernel
  -- Both specs ask, and are answered one after the other.
  let start : Batch := .start ["n@1", "n@1"] false
  let first := start.withProgress 0 "n@1" (.ofSpec ⟨.legacy, false⟩ "n@1") false
  let asked := first.withProgress 1 "n@1" (.ofSpec ⟨.legacy, false⟩ "n@1") false
  let answered := asked.withProgress 0 "n@1" (.ofDraft r.cacheUrl (.ok ⟨packageFrom "beef", none⟩))
    false
  let settled := answered.withProgress 1 "n@1"
    (.ofDraft r.cacheUrl (.ok ⟨packageFrom "c0ffee", none⟩)) false
  have hspecs : asked.specs = [("n@1", .asking inquiry), ("n@1", .asking inquiry)] := by
    rw [← hasking]
    rfl
  have hfirst : FreeStep r ⟨.legacy, false⟩ start first := ⟨.asGiven, .start (i := 0) rfl⟩
  have hasked : FreeStep r ⟨.legacy, false⟩ first asked := ⟨.asGiven, .start (i := 1) rfl⟩
  have hanswered : FreeStep r ⟨.legacy, false⟩ asked answered :=
    ⟨.asGiven, .answer (i := 0) (by rw [hspecs]; rfl) hgiven⟩
  have hopen : answered.specs[1]? = some ("n@1", .asking inquiry) := by
    simp only [answered, Batch.withProgress, hspecs]
    rfl
  have hsettled : FreeStep r ⟨.legacy, false⟩ answered settled :=
    ⟨backwards, .answer (i := 1) hopen hturned⟩
  have hrun := (((Relation.ReflTransGen.single hfirst).tail hasked).tail hanswered).tail hsettled
  refine ⟨⟨rfl, halone⟩, by decide +kernel, settled, hrun, rfl, ?_⟩
  simp only [settled, answered, Batch.Settled, Batch.withProgress, hspecs]
  rfl

end Pinning.Resolver
