import Pinning.Proofs.Activity
import Pinning.Resolver
/-!
Where drafts come from. Each of the three questions has its own kind of draft; the record or the
reference that was answered says all about it.
-/

set_option autoImplicit false
set_option relaxedAutoImplicit false

namespace Pinning

theorem Draft.nodup_refsOfLegacy (record : Search.LegacyRecord) :
    ((refsOfLegacy record).map Prod.fst).Nodup := by
  simpa [refsOfLegacy, Function.comp_def] using record.systems.distinct

theorem Draft.ofLegacy_eq_ok {host name version : String} {storePaths : Bool}
    {answer : Except Search.Error Search.LegacyRecord} {draft : Draft} :
    ofLegacy host name version storePaths answer = .ok draft
      ↔ ∃ record, answer = .ok record ∧ packageOfLegacy host name version record = .ok draft.package
        ∧ draft.refs = if storePaths then some (refsOfLegacy record) else none := by
  cases answer with
  | error cause => simp [ofLegacy]
  | ok record =>
    cases hpackage : packageOfLegacy host name version record with
    | error cause => simp [ofLegacy, hpackage, bind, Except.bind]
    | ok package =>
      obtain ⟨drafted, refs⟩ := draft
      simp [ofLegacy, hpackage, bind, Except.bind, eq_comm]

theorem Draft.ofEnriched_eq_ok {host name version : String}
    {answer : Except Search.Error Search.EnrichedRecord} {draft : Draft} :
    ofEnriched host name version answer = .ok draft
      ↔ ∃ record, answer = .ok record ∧ packageOfEnriched host version record = .ok draft.package
        ∧ draft.refs = none := by
  cases answer with
  | error cause => cases cause <;> simp [ofEnriched]
  | ok record =>
    cases hpackage : packageOfEnriched host version record with
    | error cause => simp [ofEnriched, hpackage, bind, Except.bind]
    | ok package =>
      obtain ⟨drafted, refs⟩ := draft
      simp [ofEnriched, hpackage, bind, Except.bind, eq_comm]

section Inquiry

variable {strategy : Strategy} {spec : Spec} {version : String}

theorem Inquiry.ofSpec_of_release (hversion : spec.version = some version)
    (hrelease : spec.isRelease = true) : ofSpec strategy spec = .ok (.release spec.raw) := by
  rw [ofSpec, hversion]
  simp [hrelease]

theorem Inquiry.ofSpec_of_legacy (hversion : spec.version = some version)
    (hrelease : spec.isRelease = false) (hprotocol : strategy.protocol = .legacy) :
    ofSpec strategy spec = .ok (.legacy spec.name version strategy.storePaths) := by
  rw [ofSpec, hversion]
  simp [hrelease, search, hprotocol]

theorem Inquiry.ofSpec_of_enriched (hversion : spec.version = some version)
    (hrelease : spec.isRelease = false) (hprotocol : strategy.protocol = .enriched) :
    ofSpec strategy spec = .ok (.enriched spec.name version) := by
  rw [ofSpec, hversion]
  simp [hrelease, search, hprotocol]

theorem Inquiry.ofSpec_eq_error {cause : Error} (h : ofSpec strategy spec = .error cause) :
    spec.version = none ∧ cause = .missingVersion spec.name := by
  rw [ofSpec] at h
  split at h
  · next hversion => exact ⟨hversion, (Except.error.inj h).symm⟩
  · cases h

theorem Inquiry.ofSpec_eq_ok {inquiry : Inquiry} (h : ofSpec strategy spec = .ok inquiry) :
    ∃ version, spec.version = some version
      ∧ (spec.isRelease = true ∧ inquiry = .release spec.raw
        ∨ spec.isRelease = false ∧ strategy.protocol = .legacy
          ∧ inquiry = .legacy spec.name version strategy.storePaths
        ∨ spec.isRelease = false ∧ strategy.protocol = .enriched
          ∧ inquiry = .enriched spec.name version) := by
  cases hversion : spec.version with
  | none =>
    rw [ofSpec, hversion] at h
    cases h
  | some version =>
    refine ⟨version, rfl, ?_⟩
    cases hrelease : spec.isRelease with
    | true =>
      rw [ofSpec_of_release hversion hrelease] at h
      exact .inl ⟨rfl, (Except.ok.inj h).symm⟩
    | false =>
      cases hprotocol : strategy.protocol with
      | legacy =>
        rw [ofSpec_of_legacy hversion hrelease hprotocol] at h
        exact .inr (.inl ⟨rfl, rfl, (Except.ok.inj h).symm⟩)
      | enriched =>
        rw [ofSpec_of_enriched hversion hrelease hprotocol] at h
        exact .inr (.inr ⟨rfl, rfl, (Except.ok.inj h).symm⟩)

end Inquiry

namespace Resolver

open Activity (outcome_bind_eq_returned outcome_unlessCancelled_eq_some)

variable {r : Resolver} {strategy : Strategy} {written : String} {cancelled : Bool} {draft : Draft}

/-- The answer that a draft was made of. -/
inductive Origin (r : Resolver) (strategy : Strategy) (written version : String) (draft : Draft) :
    Prop
  | legacy {record : Search.LegacyRecord} (hrelease : (Spec.parse written).isRelease = false)
      (hprotocol : strategy.protocol = .legacy)
      (hanswer : ((r.services.single (Spec.parse written).name version).course false).outcome
        = .returned (.ok record))
      (hpackage : Draft.packageOfLegacy r.host (Spec.parse written).name version record
        = .ok draft.package)
      (hrefs : draft.refs = if strategy.storePaths then some (Draft.refsOfLegacy record) else none)
  | enriched {before : Bool} {record : Search.EnrichedRecord}
      (hrelease : (Spec.parse written).isRelease = false)
      (hprotocol : strategy.protocol = .enriched)
      (hanswer : ((r.services.versioned (Spec.parse written).name version).course before).outcome
        = .returned (.ok record))
      (hpackage : Draft.packageOfEnriched r.host version record = .ok draft.package)
      (hrefs : draft.refs = none)
  | release {before : Bool} {reference : RunX.Reference}
      (hrelease : (Spec.parse written).isRelease = true)
      (hanswer : ((r.services.pin (Spec.parse written).raw).course before).outcome
        = .returned (.ok reference))
      (hdraft : Draft.ofRelease (.ok reference) = .ok draft)

private theorem ask_legacy_eq_ok {name version : String} {storePaths : Bool}
    (h : ((r.ask (.legacy name version storePaths)).course cancelled).outcome
      = .returned (.ok draft)) :
    ∃ record, ((r.services.single name version).course false).outcome = .returned (.ok record)
      ∧ Draft.packageOfLegacy r.host name version record = .ok draft.package
      ∧ draft.refs = if storePaths then some (Draft.refsOfLegacy record) else none := by
  obtain ⟨answer, hanswer, hdraft⟩ := outcome_bind_eq_returned.1 h
  cases answer with
  | none => exact absurd (Outcome.returned.inj hdraft) (by simp)
  | some answer =>
    obtain ⟨-, hsingle⟩ := outcome_unlessCancelled_eq_some.1 hanswer
    obtain ⟨record, rfl, hpackage, hrefs⟩ := Draft.ofLegacy_eq_ok.1 (Outcome.returned.inj hdraft)
    exact ⟨record, hsingle, hpackage, hrefs⟩

private theorem ask_enriched_eq_ok {name version : String}
    (h : ((r.ask (.enriched name version)).course cancelled).outcome = .returned (.ok draft)) :
    ∃ record, ((r.services.versioned name version).course cancelled).outcome
        = .returned (.ok record)
      ∧ Draft.packageOfEnriched r.host version record = .ok draft.package ∧ draft.refs = none := by
  obtain ⟨_, hnote, hrest⟩ := outcome_bind_eq_returned.1 h
  obtain ⟨answer, hanswer, hdraft⟩ := outcome_bind_eq_returned.1 hrest
  obtain ⟨record, rfl, hpackage, hrefs⟩ := Draft.ofEnriched_eq_ok.1 (Outcome.returned.inj hdraft)
  exact ⟨record, hanswer, hpackage, hrefs⟩

private theorem ask_release_eq_ok {raw : String}
    (h : ((r.ask (.release raw)).course cancelled).outcome = .returned (.ok draft)) :
    ∃ reference, ((r.services.pin raw).course cancelled).outcome = .returned (.ok reference)
      ∧ Draft.ofRelease (.ok reference) = .ok draft := by
  obtain ⟨_, hnote, hrest⟩ := outcome_bind_eq_returned.1 h
  obtain ⟨answer, hanswer, hdraft⟩ := outcome_bind_eq_returned.1 hrest
  have hdraft := Outcome.returned.inj hdraft
  cases answer with
  | error cause => cases cause <;> simp [Draft.ofRelease] at hdraft
  | ok reference => exact ⟨reference, hanswer, hdraft⟩

theorem origin_of_draft
    (h : ((r.draft strategy written).course cancelled).outcome = .returned (.ok draft)) :
    ∃ version, (Spec.parse written).version = some version
      ∧ r.Origin strategy written version draft := by
  rw [Resolver.draft] at h
  cases hinquiry : Inquiry.ofSpec strategy (Spec.parse written) with
  | error cause =>
    simp only [hinquiry] at h
    cases Outcome.returned.inj h
  | ok inquiry =>
    simp only [hinquiry] at h
    obtain ⟨version, hversion, hcase⟩ := Inquiry.ofSpec_eq_ok hinquiry
    refine ⟨version, hversion, ?_⟩
    rcases hcase with ⟨hrelease, rfl⟩ | ⟨hrelease, hprotocol, rfl⟩ | ⟨hrelease, hprotocol, rfl⟩
    · obtain ⟨reference, hanswer, hdraft⟩ := ask_release_eq_ok h
      exact .release hrelease hanswer hdraft
    · obtain ⟨record, hanswer, hpackage, hrefs⟩ := ask_legacy_eq_ok h
      exact .legacy hrelease hprotocol hanswer hpackage hrefs
    · obtain ⟨record, hanswer, hpackage, hrefs⟩ := ask_enriched_eq_ok h
      exact .enriched hrelease hprotocol hanswer hpackage hrefs

theorem nodup_refs_of_draft
    (h : ((r.draft strategy written).course cancelled).outcome = .returned (.ok draft))
    {refs : Fanout.Refs} (hrefs : draft.refs = some refs) : (refs.map Prod.fst).Nodup := by
  obtain ⟨version, -, horigin⟩ := origin_of_draft h
  cases horigin with
  | @legacy record _ _ _ _ hlegacy =>
    rw [hlegacy] at hrefs
    split at hrefs
    · exact Option.some.inj hrefs ▸ Draft.nodup_refsOfLegacy record
    · cases hrefs
  | enriched _ _ _ _ hnone => cases hnone.symm.trans hrefs
  | release _ _ hreference =>
    obtain rfl := Except.ok.inj hreference
    cases hrefs

/-- Ask one question and complete the draft that its answer leads to. -/
def pursue (r : Resolver) (inquiry : Inquiry) : Activity (Except Error Package) := do
  match ← r.ask inquiry with
  | .error cause => pure (.error cause)
  | .ok draft => r.complete draft

theorem resolve_eq_pursue {inquiry : Inquiry}
    (h : Inquiry.ofSpec strategy (Spec.parse written) = .ok inquiry) :
    r.resolve strategy written = r.pursue inquiry := by
  rw [resolve, Resolver.draft, h]
  rfl

end Resolver

end Pinning
