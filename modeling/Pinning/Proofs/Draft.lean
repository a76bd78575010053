import Pinning.Draft
import Pinning.Proofs.Maps
import Pinning.Proofs.Platform
/-!
What the package of a record is made of: its representative entry, and for the enriched protocol the
first output of every platform.
-/

set_option autoImplicit false
set_option relaxedAutoImplicit false

namespace Pinning.Draft

variable {host name version : String} {package : Package}

theorem firstFilled_ne_empty {texts : List String} (h : ∃ text ∈ texts, text ≠ "") :
    firstFilled texts ≠ "" := by
  obtain ⟨text, hmem, hfilled⟩ := h
  have hfound : (texts.find? (· != "")).isSome :=
    List.find?_isSome.2 ⟨text, hmem, bne_iff_ne.2 hfilled⟩
  obtain ⟨first, hfirst⟩ := Option.isSome_iff_exists.1 hfound
  have hne := List.find?_some hfirst
  rw [firstFilled, hfirst]
  exact bne_iff_ne.1 hne

theorem packageOfLegacy_eq_ok {record : Search.LegacyRecord} :
    packageOfLegacy host name version record = .ok package
      ↔ ∃ platform entry attrPath rest, Platform.select host record.systems = .ok (platform, entry)
        ∧ entry.attrPaths = attrPath :: rest
        ∧ package = {
          version := firstFilled [entry.version, record.version, version]
          resolved := Flake.Installable.render ⟨.nixpkgs entry.commitHash, attrPath⟩
          lastModified := Timestamp.unixText? entry.lastUpdated.toInt
          source := some .remoteSearch
          systems := ∅ } := by
  rw [packageOfLegacy]
  cases hselect : Platform.select host record.systems with
  | error cause => simp [bind, Except.bind]
  | ok chosen =>
    obtain ⟨platform, entry⟩ := chosen
    cases hattrPaths : entry.attrPaths with
    | nil => simp [bind, Except.bind, hattrPaths]
    | cons attrPath rest => simp [bind, Except.bind, hattrPaths, eq_comm]

theorem ofLegacy_ok (host name version : String) (storePaths : Bool)
    (record : Search.LegacyRecord) :
    ofLegacy host name version storePaths (.ok record)
      = (packageOfLegacy host name version record).map fun package =>
        ⟨package, if storePaths then some (refsOfLegacy record) else none⟩ := by
  rw [ofLegacy]
  cases packageOfLegacy host name version record with
  | error cause => rfl
  | ok package => rfl

theorem ofEnriched_ok (host name version : String) (record : Search.EnrichedRecord) :
    ofEnriched host name version (.ok record)
      = (packageOfEnriched host version record).map fun package => ⟨package, none⟩ := by
  rw [ofEnriched]
  cases packageOfEnriched host version record with
  | error cause => rfl
  | ok package => rfl

theorem packageOfEnriched_eq_ok {record : Search.EnrichedRecord} :
    packageOfEnriched host version record = .ok package
      ↔ ∃ platform entry, Platform.select host record.systems = .ok (platform, entry)
        ∧ package = {
          version := firstFilled [record.version, version]
          resolved := entry.installable.render
          lastModified := some entry.lastUpdated.renderSeconds
          source := some .remoteSearch
          systems := SortedMap.ofList (record.systems.entries.filterMap firstPath?) } := by
  rw [packageOfEnriched]
  cases hselect : Platform.select host record.systems with
  | error cause => simp [bind, Except.bind]
  | ok chosen =>
    obtain ⟨platform, entry⟩ := chosen
    simp [bind, Except.bind, eq_comm]

theorem packageOfLegacy_eq_error {record : Search.LegacyRecord} {cause : Error}
    (h : packageOfLegacy host name version record = .error cause) :
    cause = .noSystemsAvailable ∨ cause = .noAttrPaths name := by
  rw [packageOfLegacy] at h
  cases hselect : Platform.select host record.systems with
  | error problem =>
    rw [hselect] at h
    exact .inl (Except.error.inj h ▸ Platform.select_eq_error hselect)
  | ok chosen =>
    obtain ⟨platform, entry⟩ := chosen
    simp only [hselect, bind, Except.bind] at h
    split at h
    · exact .inr (Except.error.inj h).symm
    · cases h

theorem packageOfEnriched_eq_error {record : Search.EnrichedRecord} {cause : Error}
    (h : packageOfEnriched host version record = .error cause) : cause = .noSystemsAvailable := by
  rw [packageOfEnriched] at h
  cases hselect : Platform.select host record.systems with
  | error problem =>
    rw [hselect] at h
    exact Except.error.inj h ▸ Platform.select_eq_error hselect
  | ok chosen =>
    rw [hselect] at h
    cases h

theorem ofLegacy_eq_error {storePaths : Bool} {answered : Except Search.Error Search.LegacyRecord}
    {cause : Error} (h : ofLegacy host name version storePaths answered = .error cause) :
    (∃ problem, answered = .error problem) ∧ cause = .packageNotFound name version
      ∨ (∃ record, answered = .ok record)
        ∧ (cause = .noSystemsAvailable ∨ cause = .noAttrPaths name) := by
  cases answered with
  | error problem => exact .inl ⟨⟨problem, rfl⟩, (Except.error.inj h).symm⟩
  | ok record =>
    rw [ofLegacy_ok] at h
    cases hpackage : packageOfLegacy host name version record with
    | error problem =>
      rw [hpackage] at h
      exact .inr ⟨⟨record, rfl⟩, Except.error.inj h ▸ packageOfLegacy_eq_error hpackage⟩
    | ok package =>
      rw [hpackage] at h
      cases h

theorem ofEnriched_eq_error {answered : Except Search.Error Search.EnrichedRecord} {cause : Error}
    (h : ofEnriched host name version answered = .error cause) :
    answered = .error .notFound ∧ cause = .packageNotFound name version
      ∨ answered = .error .cancelled ∧ cause = .cancelled
      ∨ answered ≠ .error .notFound
        ∧ ((∃ problem, cause = .search problem) ∨ cause = .noSystemsAvailable) := by
  cases answered with
  | error problem =>
    cases problem with
    | notFound => exact .inl ⟨rfl, (Except.error.inj h).symm⟩
    | cancelled => exact .inr (.inl ⟨rfl, (Except.error.inj h).symm⟩)
    | status _ _ | transport _ | decode _ =>
      exact .inr (.inr ⟨by simp, .inl ⟨_, (Except.error.inj h).symm⟩⟩)
  | ok record =>
    refine .inr (.inr ⟨by simp, .inr ?_⟩)
    cases hpackage : packageOfEnriched host version record with
    | error problem =>
      simp only [ofEnriched, hpackage, bind, Except.bind] at h
      exact Except.error.inj h ▸ packageOfEnriched_eq_error hpackage
    | ok package =>
      simp only [ofEnriched, hpackage, bind, Except.bind] at h
      cases h

theorem get?_firstPaths (record : Search.EnrichedRecord) (platform path : String) :
    (SortedMap.ofList (record.systems.entries.filterMap firstPath?)).get? platform = some path
      ↔ ∃ entry, record.systems.get? platform = some entry
        ∧ entry.outputs.head?.map Search.Output.path = some path := by
  have hfirst : firstPath? = fun entry : String × Search.EnrichedEntry =>
      (entry.2.outputs.head?.map Search.Output.path).map fun path => (entry.1, path) := by
    funext entry
    rw [Option.map_map]
    rfl
  rw [hfirst, SortedMap.get?_ofList_filterMap record.systems.distinct fun entry =>
    entry.outputs.head?.map Search.Output.path]
  simp only [PlatformMap.get?_eq_some_iff]

end Pinning.Draft
