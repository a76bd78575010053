import Pinning.Proofs.Resolver.Results
import Pinning.Proofs.Timestamp.Internet
/-!
When a package was published. The instant is that of the representative entry: a positive number of
seconds by the legacy protocol, a timestamp by the enriched one. Its text has the internet format
exactly if its year has four digits; before the year 0 and after the year 9999 the text starts with
a sign.
-/

set_option autoImplicit false
set_option relaxedAutoImplicit false

namespace Pinning.Resolver

open Timestamp (IsDateTime)

variable {r : Resolver} {strategy : Strategy} {written : String} {package : Package}

/-- The instant that the answer to a spec is dated at. Among the seconds of a legacy entry, zero,
the negative ones and those beyond the last instant stand for no date; a release has none. -/
inductive Dates (r : Resolver) (strategy : Strategy) (written : String) : Option Timestamp → Prop
  | legacy {version platform : String} {record : Search.LegacyRecord} {entry : Search.LegacyEntry}
      (hrelease : (Spec.parse written).isRelease = false) (hprotocol : strategy.protocol = .legacy)
      (hversion : (Spec.parse written).version = some version)
      (hanswer : ((r.services.single (Spec.parse written).name version).course false).outcome
        = .returned (.ok record))
      (hselect : Platform.select r.host record.systems = .ok (platform, entry)) :
      Dates r strategy written
        (if entry.lastUpdated.toInt ≤ 0 then none else Timestamp.ofUnix? entry.lastUpdated.toInt)
  | enriched {version platform : String} {before : Bool} {record : Search.EnrichedRecord}
      {entry : Search.EnrichedEntry} (hrelease : (Spec.parse written).isRelease = false)
      (hprotocol : strategy.protocol = .enriched)
      (hversion : (Spec.parse written).version = some version)
      (hanswer : ((r.services.versioned (Spec.parse written).name version).course before).outcome
        = .returned (.ok record))
      (hselect : Platform.select r.host record.systems = .ok (platform, entry)) :
      Dates r strategy written (some entry.lastUpdated)
  | release (hrelease : (Spec.parse written).isRelease = true) : Dates r strategy written none

private theorem unixText?_eq_map (seconds : Int) :
    Timestamp.unixText? seconds
      = (if seconds ≤ 0 then none else Timestamp.ofUnix? seconds).map Timestamp.renderSeconds := by
  rw [Timestamp.unixText?]
  split
  · rfl
  · rfl

theorem ComesTo.exists_dates (h : r.ComesTo strategy written (.ok package)) :
    ∃ moment, r.Dates strategy written moment
      ∧ package.lastModified = moment.map Timestamp.renderSeconds := by
  cases hrelease : (Spec.parse written).isRelease with
  | true =>
    obtain ⟨_, _, -, hpackage⟩ := h.of_release hrelease
    have hlast : package.lastModified = none := congrArg Package.lastModified hpackage
    exact ⟨none, .release hrelease, hlast⟩
  | false =>
    cases hprotocol : strategy.protocol with
    | legacy =>
      obtain ⟨_, _, _, entry, _, _, hversion, hanswer, hselect, -, hpackage, -⟩ :=
        h.of_legacy hrelease hprotocol
      have hlast : package.lastModified = Timestamp.unixText? entry.lastUpdated.toInt :=
        congrArg Package.lastModified hpackage
      exact ⟨_, .legacy hrelease hprotocol hversion hanswer hselect,
        hlast.trans (unixText?_eq_map _)⟩
    | enriched =>
      obtain ⟨_, _, _, _, entry, hversion, hanswer, hselect, hpackage⟩ :=
        h.of_enriched hrelease hprotocol
      have hlast : package.lastModified = some entry.lastUpdated.renderSeconds :=
        congrArg Package.lastModified hpackage
      exact ⟨_, .enriched hrelease hprotocol hversion hanswer hselect, hlast⟩

/-- The date of a package is absent or has the internet format exactly if the instant that the
service gave lies between the beginnings of the years 0 and 10000. -/
theorem lastModified_isDateTime_iff (hcomes : r.ComesTo strategy written (.ok package)) :
    ∃ moment, r.Dates strategy written moment
      ∧ package.lastModified = moment.map Timestamp.renderSeconds
      ∧ ((∀ text, package.lastModified = some text → IsDateTime text)
        ↔ ∀ t, moment = some t → -62167219200 ≤ t.toUnix ∧ t.toUnix < 253402300800) := by
  obtain ⟨moment, hdates, hlast⟩ := hcomes.exists_dates
  refine ⟨moment, hdates, hlast, ?_⟩
  rw [hlast]
  cases moment with
  | none => simp
  | some t => simp [Timestamp.isDateTime_renderSeconds_iff_toUnix]

/-- A network that answers with a legacy record of this date. -/
def updatedAt (seconds : String) : Http.Network :=
  serving ("\x7b\"version\":\"1\",\"systems\":\x7b\"x86_64-linux\":\x7b\"attr_paths\":[\"hello\"],"
    ++ "\"commit_hash\":\"c0ffee\",\"last_updated\":" ++ seconds ++ "\x7d\x7d\x7d")

/-- A network that answers with an enriched record of this date. -/
def publishedAt (text : String) : Http.Network :=
  serving ("\x7b\"version\":\"1\",\"systems\":\x7b\"x86_64-linux\":\x7b\"flake_installable\":"
    ++ "\x7b\"ref\":\x7b\"type\":\"indirect\",\"id\":\"n\"\x7d,\"attr_path\":\"hello\"\x7d,\"last_updated\":\"" ++ text
    ++ "\"\x7d\x7d\x7d")

def datedAt (resolved text : String) : Package where
  version := "1"
  resolved
  lastModified := some text
  source := some .remoteSearch
  systems := ∅

private theorem outcome_dated :
    (∀ run ∈ [("253402300799", "9999-12-31T23:59:59Z"), ("253402300800", "+10000-01-01T00:00:00Z")],
      outcomeOf {} (updatedAt run.1) ⟨.legacy, false⟩ "hello@1"
        = .ok (.returned (.ok (datedAt "github:NixOS/nixpkgs/c0ffee#hello" run.2))))
    ∧ outcomeOf {} (publishedAt "-0001-12-31T23:59:59Z") ⟨.enriched, false⟩ "hello@1"
      = .ok (.returned (.ok (datedAt "flake:n#hello" "-0001-12-31T23:59:59Z"))) := by decide +kernel

theorem lastModified_isDateTime_iff_lastSecond :
    ∃ r moment, ofConfig {} (updatedAt "253402300799") = .ok r
      ∧ r.ComesTo ⟨.legacy, false⟩ "hello@1"
        (.ok (datedAt "github:NixOS/nixpkgs/c0ffee#hello" "9999-12-31T23:59:59Z"))
      ∧ r.Dates ⟨.legacy, false⟩ "hello@1" moment
      ∧ some "9999-12-31T23:59:59Z" = moment.map Timestamp.renderSeconds
      ∧ ((∀ text, some "9999-12-31T23:59:59Z" = some text → IsDateTime text)
        ↔ ∀ t, moment = some t → -62167219200 ≤ t.toUnix ∧ t.toUnix < 253402300800) := by
  obtain ⟨r, hresolver, hresolve⟩ := exists_of_outcomeOf
    (outcome_dated.1 ("253402300799", "9999-12-31T23:59:59Z") (by simp))
  obtain ⟨moment, hdates, hlast, hformat⟩ := lastModified_isDateTime_iff (.alone hresolve)
  exact ⟨r, moment, hresolver, .alone hresolve, hdates, hlast, hformat⟩

/-- The first second after the year 9999 and the last one before the year 0 are no dates of the
internet format. -/
theorem lastModified_signedYears :
    (∃ r package text, ofConfig {} (updatedAt "253402300800") = .ok r
      ∧ ((r.resolve ⟨.legacy, false⟩ "hello@1").course false).outcome = .returned (.ok package)
      ∧ package.lastModified = some text ∧ ¬ IsDateTime text)
    ∧ ∃ r package text, ofConfig {} (publishedAt "-0001-12-31T23:59:59Z") = .ok r
      ∧ ((r.resolve ⟨.enriched, false⟩ "hello@1").course false).outcome = .returned (.ok package)
      ∧ package.lastModified = some text ∧ ¬ IsDateTime text := by
  constructor
  · obtain ⟨r, hresolver, hresolve⟩ := exists_of_outcomeOf
      (outcome_dated.1 ("253402300800", "+10000-01-01T00:00:00Z") (by simp))
    refine ⟨r, _, _, hresolver, hresolve, rfl, ?_⟩
    intro hformat
    have hdigit := hformat.isDigit_of_eq_cons (c := '+') rfl
    exact absurd hdigit (by decide)
  · obtain ⟨r, hresolver, hresolve⟩ := exists_of_outcomeOf outcome_dated.2
    refine ⟨r, _, _, hresolver, hresolve, rfl, ?_⟩
    intro hformat
    have hdigit := hformat.isDigit_of_eq_cons (c := '-') rfl
    exact absurd hdigit (by decide)

end Pinning.Resolver
