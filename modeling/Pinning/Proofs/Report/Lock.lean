import Pinning.Proofs.Json.Reader
import Pinning.Proofs.Json.Record
import Pinning.Report
/-!
The report for machines loses nothing. A package is read back from what is written for it, whichever
of its fields are absent, and the report holds the last package of every spec.
-/

set_option autoImplicit false
set_option relaxedAutoImplicit false

namespace Pinning

theorem Source.ofJson?_toJson (s : Source) : Source.ofJson? s.toJson = some s := by
  cases s
  rfl

namespace Package

theorem system?_systemToJson (storePath : String) :
    system? (systemToJson storePath) = some storePath := by
  simp [system?, systemToJson, Json.fields?, Json.Fields.required, Json.text?]

def slots (p : Package) : Json.Slots :=
  [("version", some (.text p.version)), ("resolved", some (.text p.resolved)),
    ("last_modified", p.lastModified.map .text), ("source", p.source.map Source.toJson),
    ("systems", if p.systems.isEmpty then none else some
      (.object (p.systems.map systemToJson).entries))]

theorem toJson_eq (p : Package) : p.toJson = .object p.slots.members := by
  obtain ⟨version, resolved, lastModified, source, systems⟩ := p
  rw [toJson, Json.Slots.members, slots]
  cases lastModified <;> cases source <;> cases systems.isEmpty <;> simp

theorem nodup_names_slots (p : Package) : p.slots.names.Nodup := by
  simp [slots, Json.Slots.names]

theorem systems?_written (systems : SortedMap String) :
    ((if systems.isEmpty then none else some (.object (systems.map systemToJson).entries) :
      Option Json).elim
      (some []) (Json.members? system?)).map SortedMap.ofList = some systems := by
  split
  · next hempty =>
    have hentries : systems.entries = [] := List.isEmpty_iff.1 hempty
    rw [← SortedMap.ofList_entries systems, hentries]
    rfl
  · have hread : Json.members? system? (.object (systems.map systemToJson).entries)
        = some systems.entries :=
      Json.members?_write fun entry _ => system?_systemToJson entry.2
    rw [Option.elim_some, hread, Option.map_some, SortedMap.ofList_entries]

theorem ofJson?_toJson (p : Package) : ofJson? p.toJson = some p := by
  have hnodup := p.nodup_names_slots
  have hfields : p.toJson.fields? Json.strict
      ["version", "resolved", "last_modified", "source", "systems"]
      = some p.slots.members := by
    rw [toJson_eq]
    exact Json.Slots.fields?_members hnodup
  have hversion : p.slots.members.required "version" Json.text? = some p.version :=
    Json.Slots.required_members hnodup 0 rfl
  have hresolved : p.slots.members.required "resolved" Json.text? = some p.resolved :=
    Json.Slots.required_members hnodup 1 rfl
  have hlastModified : p.slots.members.withDefault "last_modified" (Json.nullable? Json.text?) none
      = some p.lastModified := by
    rw [Json.Slots.withDefault_members hnodup 2 rfl]
    exact Json.nullable?_write .text (by simp) (fun _ => rfl) p.lastModified
  have hsource : p.slots.members.withDefault "source" (Json.nullable? Source.ofJson?) none
      = some p.source := by
    rw [Json.Slots.withDefault_members hnodup 3 rfl]
    exact Json.nullable?_write Source.toJson (by simp [Source.toJson]) Source.ofJson?_toJson
      p.source
  have hsystems :
      (p.slots.members.withDefault "systems" (Json.members? system?) []).map SortedMap.ofList
      = some p.systems := by
    rw [Json.Slots.withDefault_members hnodup 4 rfl]
    exact systems?_written p.systems
  obtain ⟨systems, hentries, hmap⟩ := Option.map_eq_some_iff.1 hsystems
  simp only [ofJson?, hfields, hversion, hresolved, hlastModified, hsource, hentries, hmap,
    Option.bind_eq_bind, Option.bind_some]

theorem isPlain_toJson (p : Package) : p.toJson.IsPlain := by
  have hsystems : (Json.object (p.systems.map systemToJson).entries).IsPlain :=
    Json.isPlain_entries systemToJson (fun _ => ⟨trivial, trivial⟩) p.systems.entries
  rw [toJson_eq]
  refine Json.Slots.isPlain_members fun slot hslot value hvalue => ?_
  simp only [slots, List.mem_cons, List.not_mem_nil, or_false] at hslot
  obtain rfl | rfl | rfl | rfl | rfl := hslot
  · obtain rfl := Option.some.inj hvalue
    trivial
  · obtain rfl := Option.some.inj hvalue
    trivial
  · obtain ⟨text, -, rfl⟩ := Option.map_eq_some_iff.1 hvalue
    trivial
  · obtain ⟨source, -, rfl⟩ := Option.map_eq_some_iff.1 hvalue
    trivial
  · rw [Option.ite_none_left_eq_some] at hvalue
    obtain rfl := Option.some.inj hvalue.2
    exact hsystems

end Package

namespace Report.Lock

theorem isPlain_toJson (resolutions : List Resolution) : (toJson resolutions).IsPlain :=
  ⟨Json.isPlain_entries Package.toJson Package.isPlain_toJson (packages resolutions).entries,
    trivial⟩

theorem get?_packages {resolutions : List Resolution} {spec : String} {package : Package} :
    (packages resolutions).get? spec = some package
      ↔ ∃ before after, resolutions = before ++ ⟨spec, package⟩ :: after
        ∧ ∀ r ∈ after, r.spec ≠ spec := by
  rw [packages, SortedMap.get?_ofList_eq_some_iff]
  constructor
  · rintro ⟨before, after, heq, hafter⟩
    obtain ⟨front, behind, rfl, -, hbehind⟩ := List.map_eq_append_iff.1 heq
    obtain ⟨⟨s, p⟩, rest, rfl, hentry, rfl⟩ := List.map_eq_cons_iff.1 hbehind
    obtain ⟨rfl, rfl⟩ := Prod.mk.inj hentry
    exact ⟨front, rest, rfl, fun r hr hspec => hafter (by simpa using ⟨r, hr, hspec⟩)⟩
  · rintro ⟨before, after, rfl, hafter⟩
    refine ⟨before.map fun r => (r.spec, r.package),
      after.map fun r => (r.spec, r.package), by simp, ?_⟩
    simpa using hafter

end Report.Lock

/-- The report for machines is JSON, and holds one entry for every spec, in the order of their
characters, from which the package of the last resolution of the spec is read back. -/
theorem Report.render_json_loses_nothing (resolutions : List Resolution) :
    ∃ entries : List (String × Json),
      (Json.object [("packages", .object entries)]).Spells (render .json resolutions).toList
      ∧ Json.parse? (render .json resolutions) = some (.object [("packages", .object entries)])
      ∧ entries.Pairwise (fun a b => a.1 < b.1)
      ∧ (∀ spec, spec ∈ entries.map Prod.fst ↔ spec ∈ resolutions.map Resolution.spec)
      ∧ ∀ spec entry, (spec, entry) ∈ entries →
        ∃ before package after, resolutions = before ++ ⟨spec, package⟩ :: after
          ∧ (∀ r ∈ after, r.spec ≠ spec)
          ∧ Package.ofJson? entry = some package := by
  let packages := Lock.packages resolutions
  have hspells : (Lock.toJson resolutions).Spells (render .json resolutions).toList := by
    rw [render, Lock.render, String.toList_ofList]
    exact Json.spells_pretty 0 _ (Lock.isPlain_toJson resolutions)
  refine ⟨(packages.map Package.toJson).entries, hspells, Json.parse?_of_spells hspells,
    (packages.map Package.toJson).ascending, fun spec => ?_, fun spec entry hentry => ?_⟩
  · have hkeys : (packages.map Package.toJson).entries.map Prod.fst = packages.keys := by
      simp [SortedMap.map, SortedMap.keys]
    rw [hkeys]
    refine SortedMap.mem_keys_ofList.trans ?_
    simp
  · obtain ⟨⟨key, package⟩, hpackage, heq⟩ := List.mem_map.1 hentry
    obtain ⟨rfl, rfl⟩ := Prod.mk.inj heq
    obtain ⟨before, after, hsplit, hafter⟩ :=
      Lock.get?_packages.1 ((packages.get?_eq_some_iff).2 hpackage)
    exact ⟨before, package, after, hsplit, hafter, package.ofJson?_toJson⟩

end Pinning
