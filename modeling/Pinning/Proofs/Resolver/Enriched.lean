import Pinning.Proofs.Draft
import Pinning.Proofs.Resolver.Origin
import Pinning.Proofs.Search.Codec
import Pinning.Proofs.Timestamp.Truncated
/-!
What a resolution by the enriched protocol comes to, said without the resolver. Each answer of the
service has its own result: a package if it is a record with platforms, and otherwise an error that
tells why there is none. The reference leaves open which of the other platforms stands in for the
host and the fallback, as the order of a record does.
-/

set_option autoImplicit false
set_option relaxedAutoImplicit false

namespace Pinning

namespace Search

/-- The package holds what the record says. Each platform with an output has the path of its first
one; revision and time are those of one entry that may stand for the record, and the time is cut
down to whole seconds. -/
structure EnrichedRecord.Describes (record : EnrichedRecord) (host version : String)
    (package : Package) : Prop where
  systems : ∀ platform path, package.systems.get? platform = some path
    ↔ ∃ entry output rest, record.systems.get? platform = some entry
      ∧ entry.outputs = output :: rest
      ∧ output.path = path
  version : package.version = if record.version = "" then version else record.version
  pinned : ∃ entry, Platform.Represents host record.systems entry
    ∧ package.resolved = entry.installable.render
    ∧ package.lastModified = some entry.lastUpdated.truncated.render
  source : package.source = some .remoteSearch

/-- The result that an answer of the service is to lead to. -/
inductive IsResult (host name version : String) :
    Except Error EnrichedRecord → Except Pinning.Error Package → Prop
  | notFound :
      IsResult host name version (.error .notFound) (.error (.packageNotFound name version))
  | cancelled : IsResult host name version (.error .cancelled) (.error .cancelled)
  | failed {cause : Error} (hfound : cause ≠ .notFound) (hcalm : cause ≠ .cancelled) :
      IsResult host name version (.error cause) (.error (.search cause))
  | empty {record : EnrichedRecord} (hempty : ∀ platform, record.systems.get? platform = none) :
      IsResult host name version (.ok record) (.error .noSystemsAvailable)
  | described {record : EnrichedRecord} {package : Package}
      (h : record.Describes host version package) :
      IsResult host name version (.ok record) (.ok package)

/-- The answers are the same but for the order in which a record lists its platforms. -/
inductive Reordered : Except Error EnrichedRecord → Except Error EnrichedRecord → Prop
  | failed (cause : Error) : Reordered (.error cause) (.error cause)
  | answered {record : EnrichedRecord} {systems : PlatformMap EnrichedEntry}
      (hperm : systems.entries.Perm record.systems.entries) :
      Reordered (.ok record) (.ok { record with systems })

theorem Reordered.refl (answer : Except Error EnrichedRecord) : Reordered answer answer := by
  cases answer with
  | error cause => exact .failed cause
  | ok record => exact .answered (.refl _)

end Search

namespace Draft

open Search (EnrichedRecord IsResult Reordered)

variable {host name version : String} {answer : Except Search.Error EnrichedRecord}
  {record : EnrichedRecord} {package : Package} {result : Except Error Package}

def resultOf (host name version : String) (answer : Except Search.Error EnrichedRecord) :
    Except Error Package :=
  (ofEnriched host name version answer).map Draft.package

theorem resultOf_ok :
    resultOf host name version (.ok record) = packageOfEnriched host version record := by
  rw [resultOf, ofEnriched_ok]
  cases packageOfEnriched host version record <;> rfl

theorem firstFilled_pair (first second : String) :
    firstFilled [first, second] = if first = "" then second else first := by
  by_cases hfirst : first = ""
  · by_cases hsecond : second = "" <;> simp [firstFilled, hfirst, hsecond]
  · simp [firstFilled, hfirst]

theorem get?_firstPaths_iff_cons (record : EnrichedRecord) (platform path : String) :
    (SortedMap.ofList (record.systems.entries.filterMap firstPath?)).get? platform = some path
      ↔ ∃ entry output rest, record.systems.get? platform = some entry
        ∧ entry.outputs = output :: rest
        ∧ output.path = path := by
  rw [get?_firstPaths]
  apply exists_congr
  intro entry
  cases entry.outputs with
  | nil => simp
  | cons output rest => simp

theorem describes_iff : record.Describes host version package
    ↔ ∃ systems : PlatformMap Search.EnrichedEntry, systems.entries.Perm record.systems.entries
      ∧ packageOfEnriched host version { record with systems } = .ok package := by
  constructor
  · rintro ⟨hsystems, hversion, ⟨entry, hentry, hresolved, htime⟩, hsource⟩
    obtain ⟨systems, platform, hperm, hselect⟩ := Platform.exists_select_of_represents hentry
    refine ⟨systems, hperm, packageOfEnriched_eq_ok.2 ⟨platform, entry, hselect, ?_⟩⟩
    have hpaths : package.systems = SortedMap.ofList (systems.entries.filterMap firstPath?) := by
      apply SortedMap.ext_get?
      intro platform
      apply Option.ext
      intro path
      rw [hsystems, get?_firstPaths_iff_cons { record with systems },
        PlatformMap.get?_eq_of_perm hperm]
    cases package
    simp only at hversion hresolved htime hsource hpaths
    rw [hversion, hresolved, htime, hsource, hpaths, firstFilled_pair,
      Timestamp.renderSeconds_eq_render_truncated]
  · rintro ⟨systems, hperm, hpackage⟩
    obtain ⟨platform, entry, hselect, rfl⟩ := packageOfEnriched_eq_ok.1 hpackage
    have hentry : Platform.Represents host record.systems entry :=
      (Platform.represents_of_select hselect).of_perm hperm
    refine ⟨?_, firstFilled_pair _ _, ⟨entry, hentry, rfl, ?_⟩, rfl⟩
    · intro platform path
      rw [get?_firstPaths_iff_cons { record with systems }, PlatformMap.get?_eq_of_perm hperm]
    · rw [Timestamp.renderSeconds_eq_render_truncated]

theorem packageOfEnriched_eq_noSystems_iff :
    packageOfEnriched host version record = .error .noSystemsAvailable
    ↔ record.systems.entries = [] := by
  have hselected : Platform.select host record.systems = .error .noSystemsAvailable
      ↔ record.systems.entries = [] :=
    Platform.select_eq_error_iff
  rw [← hselected, packageOfEnriched]
  cases hselect : Platform.select host record.systems with
  | error cause => simp [bind, Except.bind]
  | ok chosen => simp [bind, Except.bind]

theorem isResult_resultOf (host name version : String)
    (answer : Except Search.Error EnrichedRecord) :
    IsResult host name version answer (resultOf host name version answer) := by
  cases answer with
  | error cause =>
    cases cause with
    | notFound => exact .notFound
    | cancelled => exact .cancelled
    | status _ _ | transport _ | decode _ => exact .failed (by simp) (by simp)
  | ok record =>
    rw [resultOf_ok]
    cases hpackage : packageOfEnriched host version record with
    | error cause =>
      obtain rfl := packageOfEnriched_eq_error hpackage
      refine .empty ?_
      intro platform
      rw [PlatformMap.get?, packageOfEnriched_eq_noSystems_iff.1 hpackage, List.lookup_nil]
    | ok package => exact .described (describes_iff.2 ⟨record.systems, .refl _, hpackage⟩)

theorem isResult_iff : IsResult host name version answer result
    ↔ ∃ listed, Reordered answer listed ∧ resultOf host name version listed = result := by
  constructor
  · intro h
    cases h with
    | notFound | cancelled => exact ⟨_, .failed _, rfl⟩
    | @failed cause hfound hcalm =>
      refine ⟨_, .failed cause, ?_⟩
      cases cause with
      | notFound => exact absurd rfl hfound
      | cancelled => exact absurd rfl hcalm
      | status _ _ | transport _ | decode _ => rfl
    | @empty record hempty =>
      refine ⟨_, .refl (.ok record), ?_⟩
      rw [resultOf_ok, packageOfEnriched_eq_noSystems_iff]
      apply List.eq_nil_iff_forall_not_mem.2
      intro entry hmem
      have hsome := record.systems.get?_eq_some_iff.2 hmem
      rw [hempty] at hsome
      cases hsome
    | @described record package h =>
      obtain ⟨systems, hperm, hpackage⟩ := describes_iff.1 h
      exact ⟨_, .answered hperm, resultOf_ok.trans hpackage⟩
  · rintro ⟨listed, hreordered, rfl⟩
    have hresult := isResult_resultOf host name version listed
    cases hreordered with
    | failed cause => exact hresult
    | @answered record systems hperm =>
      cases hresult' : resultOf host name version (.ok { record with systems }) with
      | error cause =>
        rw [hresult'] at hresult
        cases hresult with
        | empty hempty => exact .empty fun platform =>
          (PlatformMap.get?_eq_of_perm hperm platform) ▸ hempty platform
      | ok package =>
        exact .described (describes_iff.2 ⟨systems, hperm, resultOf_ok.symm.trans hresult'⟩)

end Draft

namespace Resolver

open Search (IsResult Reordered)

variable {r : Resolver} {name version : String} {cancelled : Bool}
  {answer : Except Search.Error Search.EnrichedRecord}

theorem course_ask_enriched
    (hanswer : ((r.services.versioned name version).course cancelled).outcome = .returned answer) :
    (r.ask (.enriched name version)).course cancelled
      = ⟨.search .enriched name version
          :: ((r.services.versioned name version).course cancelled).events,
          ((r.services.versioned name version).course cancelled).cancelled,
          .returned (Draft.ofEnriched r.host name version answer)⟩ := by
  have hnote : ((Activity.note (.search .enriched name version)).course cancelled).outcome
      = .returned () := rfl
  rw [ask, Activity.course_bind_of_returned hnote]
  have hservice : ((Activity.note (.search .enriched name version)).course cancelled).cancelled
      = cancelled := rfl
  rw [hservice, Activity.course_bind_of_returned hanswer]
  simp only [Activity.course_pure, List.append_nil]
  rfl

theorem course_pursue_enriched
    (hanswer : ((r.services.versioned name version).course cancelled).outcome = .returned answer) :
    (r.pursue (.enriched name version)).course cancelled
      = ⟨.search .enriched name version
          :: ((r.services.versioned name version).course cancelled).events,
          ((r.services.versioned name version).course cancelled).cancelled,
          .returned (Draft.resultOf r.host name version answer)⟩ := by
  have hask := course_ask_enriched hanswer
  have hdrafted := congrArg Course.outcome hask
  rw [pursue, Activity.course_bind_of_returned hdrafted, hask, Draft.resultOf]
  cases hdraft : Draft.ofEnriched r.host name version answer with
  | error cause => simp [Except.map]
  | ok draft =>
    obtain ⟨_, -, -, hrefs⟩ := Draft.ofEnriched_eq_ok.1 hdraft
    simp [complete, hrefs, Except.map]

/-- A resolution by the enriched protocol comes to a result of the service's answer, and to each of
its results if the service lists the platforms in a suitable order. Any spec of that name and
version is resolved so. -/
theorem enriched_as_specified
    (hanswer : ((r.services.versioned name version).course cancelled).outcome = .returned answer) :
    (∃ result, ((r.pursue (.enriched name version)).course cancelled).outcome = .returned result
      ∧ IsResult r.host name version answer result)
    ∧ (∀ result, IsResult r.host name version answer result → ∃ listed, Reordered answer listed
      ∧ ∀ (s : Resolver) (before : Bool), s.host = r.host →
        ((s.services.versioned name version).course before).outcome = .returned listed →
        ((s.pursue (.enriched name version)).course before).outcome = .returned result)
    ∧ ∀ (written : String) (storePaths : Bool), (Spec.parse written).name = name →
      (Spec.parse written).version = some version → (Spec.parse written).isRelease = false →
      r.resolve ⟨.enriched, storePaths⟩ written = r.pursue (.enriched name version) := by
  refine ⟨?_, ?_, ?_⟩
  · have hcourse := course_pursue_enriched hanswer
    exact ⟨_, congrArg Course.outcome hcourse, Draft.isResult_resultOf r.host name version answer⟩
  · intro result hresult
    obtain ⟨listed, hreordered, hlisted⟩ := Draft.isResult_iff.1 hresult
    refine ⟨listed, hreordered, ?_⟩
    intro s before hhost hlistedAnswer
    have hcourse := course_pursue_enriched hlistedAnswer
    rw [hcourse, hhost, hlisted]
  · intro written storePaths hname hversion hrelease
    have hinquiry : Inquiry.ofSpec ⟨.enriched, storePaths⟩ (Spec.parse written)
        = .ok (.enriched (Spec.parse written).name version) :=
      Inquiry.ofSpec_of_enriched hversion hrelease rfl
    rw [resolve_eq_pursue hinquiry, hname]

/-- A record without a version. Its second platform has no outputs and was published in a leap
second. -/
def withoutOutputs : Search.EnrichedRecord where
  name := "n"
  version := ""
  summary := ""
  systems :=
    { entries :=
        [("aarch64-linux", ⟨⟨.nixpkgs "beef", "n"⟩, Search.leapWall,
          [⟨"man", "/nix/store/a-n-man", false⟩, ⟨"out", "/nix/store/b-n", true⟩]⟩),
          ("x86_64-linux", ⟨⟨.nixpkgs "c0ffee", "n"⟩, Search.leapInstant, []⟩)]
      distinct := by decide }

/-- A resolver whose search service answers by the enriched protocol only. -/
def enrichedOnly (answer : Except Search.Error Search.EnrichedRecord) : Resolver where
  services := {
    single := fun _ _ => pure (.error .notFound)
    versioned := fun _ _ => pure answer
    pin := fun _ => pure (.error .cancelled)
    lookup := fun _ _ => pure (.error .cancelled) }
  host := "x86_64-linux"

/-- The host's platform decides the revision and the time although it has no store path itself. -/
theorem enriched_as_specified_withoutOutputs :
    ∃ package,
      (((enrichedOnly (.ok withoutOutputs)).resolve ⟨.enriched, true⟩ "n@1").course false).outcome
        = .returned (.ok package)
      ∧ package.version = "1" ∧ package.resolved = "github:NixOS/nixpkgs/c0ffee#n"
      ∧ package.lastModified = some "2016-12-31T23:59:60Z"
      ∧ package.systems.get? "x86_64-linux" = none
      ∧ package.systems.get? "aarch64-linux" = some "/nix/store/a-n-man" := by
  have hanswer :
      (((enrichedOnly (.ok withoutOutputs)).services.versioned "n" "1").course false).outcome
      = .returned (.ok withoutOutputs) := rfl
  obtain ⟨⟨result, hreturned, hresult⟩, -, hresolve⟩ := enriched_as_specified hanswer
  rw [← hresolve "n@1" true (by decide +kernel) (by decide +kernel)
    (by decide +kernel)] at hreturned
  have hhost : withoutOutputs.systems.get? "x86_64-linux"
      = some ⟨⟨.nixpkgs "c0ffee", "n"⟩, Search.leapInstant, []⟩ := by decide +kernel
  cases hresult with
  | empty hempty => cases hhost.symm.trans (hempty _)
  | @described _ package h =>
    obtain ⟨entry, hentry, hresolved, htime⟩ := h.pinned
    have hchosen : entry = ⟨⟨.nixpkgs "c0ffee", "n"⟩, Search.leapInstant, []⟩ := by
      cases hentry with
      | host h => exact Option.some.inj (h.symm.trans hhost)
      | fallback hnone _ | listed hnone _ _ => cases hhost.symm.trans hnone
    subst hchosen
    refine ⟨package, hreturned, h.version.trans rfl, ?_, ?_, ?_, ?_⟩
    · rw [hresolved]
      decide +kernel
    · rw [htime]
      decide +kernel
    · apply Option.eq_none_iff_forall_not_mem.2
      intro path hpath
      obtain ⟨entry, output, rest, hentry, houtputs, -⟩ := (h.systems _ _).1 hpath
      obtain rfl := Option.some.inj (hentry.symm.trans hhost)
      cases houtputs
    · exact (h.systems _ _).2 ⟨_, _, _, rfl, rfl, rfl⟩

end Resolver

end Pinning
