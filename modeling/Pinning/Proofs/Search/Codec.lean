import Pinning.Proofs.Json.Reader
import Pinning.Proofs.Json.Record
import Pinning.Proofs.Timestamp.Moment
import Pinning.Search.Codec
/-!
The records of the search service are read back from what is written for them: fields that are left
out when they are empty, numbers, instants, lists, and maps in any order of their platforms.
-/

set_option autoImplicit false
set_option relaxedAutoImplicit false

namespace Pinning

namespace Flake

def textSlot (value : String) : Option Json := if value = "" then none else some (.text value)

theorem textMember_eq (name value : String) :
    textMember name value = ((textSlot value).map (name, ·)).toList := by
  rw [textMember, textSlot]
  split <;> rfl

theorem elim_textSlot (value : String) :
    (textSlot value).elim (some "") Json.text? = some value := by
  rw [textSlot]
  split
  · next hempty =>
    rw [hempty]
    rfl
  · rfl

def Ref.slots (r : Ref) : Json.Slots :=
  [("type", some (.text r.kind)), ("id", textSlot r.id), ("owner", textSlot r.owner),
    ("repo", textSlot r.repo), ("rev", textSlot r.rev), ("ref", textSlot r.gitRef),
    ("dir", textSlot r.dir), ("path", textSlot r.path), ("url", textSlot r.url)]

theorem Ref.toJson_eq (r : Ref) : r.toJson = .object r.slots.members := by
  simp [toJson, slots, Json.Slots.members, textMember_eq]

theorem Ref.ofJson?_toJson (r : Ref) : Ref.ofJson? r.toJson = some r := by
  have hnodup : r.slots.names.Nodup := by simp [slots, Json.Slots.names]
  have hfields : r.toJson.fields? Json.strict fieldNames = some r.slots.members := by
    rw [toJson_eq]
    exact Json.Slots.fields?_members hnodup
  have hkind : r.slots.members.required "type" Json.text? = some r.kind :=
    Json.Slots.required_members hnodup 0 rfl
  have htext : ∀ (i : Nat) (name value : String), r.slots[i]? = some (name, textSlot value) →
      r.slots.members.withDefault name Json.text? "" = some value := by
    intro i name value hslot
    rw [Json.Slots.withDefault_members hnodup i hslot, elim_textSlot]
  rw [ofJson?, hfields]
  simp only [Option.bind_eq_bind, Option.bind_some, hkind, htext 1 "id" r.id rfl,
    htext 2 "owner" r.owner rfl, htext 3 "repo" r.repo rfl, htext 4 "rev" r.rev rfl,
    htext 5 "ref" r.gitRef rfl, htext 6 "dir" r.dir rfl, htext 7 "path" r.path rfl,
    htext 8 "url" r.url rfl]

theorem Ref.isPlain_toJson (r : Ref) : r.toJson.IsPlain := by
  have htext : ∀ value json, textSlot value = some json → json.IsPlain := by
    intro value json h
    rw [textSlot, Option.ite_none_left_eq_some] at h
    obtain rfl := Option.some.inj h.2
    trivial
  rw [toJson_eq]
  refine Json.Slots.isPlain_members fun slot hslot value hvalue => ?_
  simp only [slots, List.mem_cons, List.not_mem_nil, or_false] at hslot
  obtain rfl | rfl | rfl | rfl | rfl | rfl | rfl | rfl | rfl := hslot
  · obtain rfl := Option.some.inj hvalue
    trivial
  all_goals exact htext _ _ hvalue

def Installable.slots (i : Installable) : Json.Slots :=
  [("ref", some i.ref.toJson), ("attr_path", some (.text i.attrPath))]

theorem Installable.ofJson?_toJson (i : Installable) : Installable.ofJson? i.toJson = some i := by
  have hnodup : i.slots.names.Nodup := by simp [slots, Json.Slots.names]
  have hfields : i.toJson.fields? Json.strict ["ref", "attr_path"] = some i.slots.members :=
    Json.Slots.fields?_members hnodup
  have href : i.slots.members.required "ref" Ref.ofJson? = some i.ref :=
    (Json.Slots.required_members hnodup 0 rfl).trans i.ref.ofJson?_toJson
  have hattrPath : i.slots.members.withDefault "attr_path" Json.text? "" = some i.attrPath :=
    Json.Slots.withDefault_members hnodup 1 rfl ""
  simp only [ofJson?, hfields, href, hattrPath, Option.bind_eq_bind, Option.bind_some]

theorem Installable.isPlain_toJson (i : Installable) : i.toJson.IsPlain :=
  ⟨i.ref.isPlain_toJson, trivial, trivial⟩

end Flake

namespace Search

section Entries

theorem int64?_toInt (n : Int64) : Json.int64? (.integer n.toInt) = some n := by
  rw [Json.int64?, Json.bounded?, if_pos ⟨n.minValue_le_toInt, n.toInt_le⟩, Option.map_some,
    Int64.ofInt_toInt]

theorem timestamp?_text (s : String) : timestamp? (.text s) = Timestamp.parse? s := rfl

def LegacyEntry.slots (e : LegacyEntry) : Json.Slots :=
  [("attr_paths", some (.array (e.attrPaths.map .text))),
    ("commit_hash", some (.text e.commitHash)),
    ("last_updated", some (.integer e.lastUpdated.toInt)), ("version", some (.text e.version)),
    ("store_hash", some (.text e.storeHash)), ("store_name", some (.text e.storeName)),
    ("store_version", some (.text e.storeVersion))]

theorem LegacyEntry.ofJson?_toJson (e : LegacyEntry) : LegacyEntry.ofJson? e.toJson = some e := by
  have hnodup : e.slots.names.Nodup := by simp [slots, Json.Slots.names]
  have hfields : e.toJson.fields? Json.strict
      ["attr_paths", "commit_hash", "last_updated", "version", "store_hash",
      "store_name", "store_version"] = some e.slots.members := Json.Slots.fields?_members hnodup
  have hattrPaths : e.slots.members.withDefault "attr_paths" (Json.list? Json.text?) []
      = some e.attrPaths :=
    (Json.Slots.withDefault_members hnodup 0 rfl []).trans (Json.list?_write fun _ _ => rfl)
  have hcommitHash : e.slots.members.required "commit_hash" Json.text? = some e.commitHash :=
    Json.Slots.required_members hnodup 1 rfl
  have hlastUpdated : e.slots.members.withDefault "last_updated" Json.int64? 0
      = some e.lastUpdated :=
    (Json.Slots.withDefault_members hnodup 2 rfl 0).trans (int64?_toInt e.lastUpdated)
  have htext : ∀ (i : Nat) (name value : String), e.slots[i]? = some (name, some (.text value)) →
      e.slots.members.withDefault name Json.text? "" = some value :=
    fun i name value hslot => Json.Slots.withDefault_members hnodup i hslot ""
  simp only [ofJson?, hfields, hattrPaths, hcommitHash, hlastUpdated,
    htext 3 "version" e.version rfl, htext 4 "store_hash" e.storeHash rfl,
    htext 5 "store_name" e.storeName rfl, htext 6 "store_version" e.storeVersion rfl,
    Option.bind_eq_bind, Option.bind_some]

theorem LegacyEntry.isPlain_toJson (e : LegacyEntry) : e.toJson.IsPlain :=
  ⟨Json.isPlain_array .text (fun _ => trivial) e.attrPaths, trivial, trivial, trivial, trivial,
    trivial, trivial, trivial⟩

def Output.slots (o : Output) : Json.Slots :=
  [("name", some (.text o.name)), ("path", some (.text o.path)),
    ("default", some (.bool o.isDefault))]

theorem Output.ofJson?_toJson (o : Output) : Output.ofJson? o.toJson = some o := by
  have hnodup : o.slots.names.Nodup := by simp [slots, Json.Slots.names]
  have hfields : o.toJson.fields? Json.strict ["name", "path", "default"] = some o.slots.members :=
    Json.Slots.fields?_members hnodup
  have hname : o.slots.members.withDefault "name" Json.text? "" = some o.name :=
    Json.Slots.withDefault_members hnodup 0 rfl ""
  have hpath : o.slots.members.required "path" Json.text? = some o.path :=
    Json.Slots.required_members hnodup 1 rfl
  have hdefault : o.slots.members.withDefault "default" Json.bool? false = some o.isDefault :=
    Json.Slots.withDefault_members hnodup 2 rfl false
  simp only [ofJson?, hfields, hname, hpath, hdefault, Option.bind_eq_bind, Option.bind_some]

def EnrichedEntry.slotsWith (e : EnrichedEntry) (stamp : String) : Json.Slots :=
  [("flake_installable", some e.installable.toJson), ("last_updated", some (.text stamp)),
    ("outputs", some (.array (e.outputs.map Output.toJson)))]

theorem EnrichedEntry.ofJson?_slotsWith {e : EnrichedEntry} {stamp : String}
    (h : Timestamp.parse? stamp = some e.lastUpdated) :
    EnrichedEntry.ofJson? (.object (e.slotsWith stamp).members) = some e := by
  have hnodup : (e.slotsWith stamp).names.Nodup := by simp [slotsWith, Json.Slots.names]
  have hfields : (Json.object (e.slotsWith stamp).members).fields? Json.strict
      ["flake_installable", "last_updated", "outputs"] = some (e.slotsWith stamp).members :=
    Json.Slots.fields?_members hnodup
  have hinstallable : (e.slotsWith stamp).members.required "flake_installable"
      Flake.Installable.ofJson?
      = some e.installable :=
    (Json.Slots.required_members hnodup 0 rfl).trans e.installable.ofJson?_toJson
  have hlastUpdated : (e.slotsWith stamp).members.required "last_updated" timestamp?
      = some e.lastUpdated :=
    (Json.Slots.required_members hnodup 1 rfl).trans ((timestamp?_text stamp).trans h)
  have houtputs : (e.slotsWith stamp).members.withDefault "outputs" (Json.list? Output.ofJson?) []
      = some e.outputs :=
    (Json.Slots.withDefault_members hnodup 2 rfl []).trans
      (Json.list?_write fun o _ => o.ofJson?_toJson)
  simp only [ofJson?, hfields, hinstallable, hlastUpdated, houtputs, Option.bind_eq_bind,
    Option.bind_some]

theorem EnrichedEntry.ofJson?_toJson (e : EnrichedEntry) :
    EnrichedEntry.ofJson? e.toJson = some e :=
  EnrichedEntry.ofJson?_slotsWith e.lastUpdated.parse?_render

theorem EnrichedEntry.isPlain_toJson (e : EnrichedEntry) : e.toJson.IsPlain :=
  ⟨e.installable.isPlain_toJson, trivial,
    Json.isPlain_array Output.toJson (fun _ => ⟨trivial, trivial, trivial, trivial⟩) e.outputs,
    trivial⟩

end Entries

section Records

variable {α : Type} {read : Json → Option α} {write : α → Json}

theorem platforms?_write (h : ∀ a, read (write a) = some a) (m : PlatformMap α) :
    platforms? read (platformsToJson write m) = some m := by
  have hentries : (platformsToJson write m).members? read = some m.entries :=
    Json.members?_write fun entry _ => h entry.2
  rw [platforms?, hentries, Option.map_some, PlatformMap.ofList_entries]

def recordSlots (name version summary : String) (systems : Json) : Json.Slots :=
  [("name", some (.text name)), ("version", some (.text version)),
    ("summary", some (.text summary)), ("systems", some systems)]

theorem record_fields (name version summary : String) {systems : Json} {m : PlatformMap α}
    (h : platforms? read systems = some m) :
    ∃ fields,
      (Json.object [("name", .text name), ("version", .text version), ("summary", .text summary),
        ("systems", systems)]).fields? Json.strict recordFieldNames = some fields
      ∧ fields.withDefault "name" Json.text? "" = some name
      ∧ fields.required "version" Json.text? = some version
      ∧ fields.withDefault "summary" Json.text? "" = some summary
      ∧ fields.withDefault "systems" (platforms? read) ∅ = some m := by
  have hnodup : (recordSlots name version summary systems).names.Nodup := by
    simp [recordSlots, Json.Slots.names]
  exact ⟨(recordSlots name version summary systems).members, Json.Slots.fields?_members hnodup,
    Json.Slots.withDefault_members hnodup 0 rfl "", Json.Slots.required_members hnodup 1 rfl,
    Json.Slots.withDefault_members hnodup 2 rfl "",
    (Json.Slots.withDefault_members hnodup 3 rfl ∅).trans h⟩

theorem LegacyRecord.ofJson?_toJson (r : LegacyRecord) :
    LegacyRecord.ofJson? r.toJson = some r := by
  obtain ⟨fields, hfields, hname, hversion, hsummary, hsystems⟩ :=
    record_fields r.name r.version r.summary (platforms?_write LegacyEntry.ofJson?_toJson r.systems)
  simp only [ofJson?, toJson, hfields, hname, hversion, hsummary, hsystems, Option.bind_eq_bind,
    Option.bind_some]

theorem EnrichedRecord.ofJson?_toJson (r : EnrichedRecord) :
    EnrichedRecord.ofJson? r.toJson = some r := by
  obtain ⟨fields, hfields, hname, hversion, hsummary, hsystems⟩ :=
    record_fields r.name r.version r.summary
      (platforms?_write EnrichedEntry.ofJson?_toJson r.systems)
  simp only [ofJson?, toJson, hfields, hname, hversion, hsummary, hsystems, Option.bind_eq_bind,
    Option.bind_some]

theorem LegacyRecord.isPlain_toJson (r : LegacyRecord) : r.toJson.IsPlain :=
  ⟨trivial, trivial, trivial,
    Json.isPlain_entries LegacyEntry.toJson LegacyEntry.isPlain_toJson r.systems.entries,
    trivial⟩

theorem EnrichedRecord.isPlain_toJson (r : EnrichedRecord) : r.toJson.IsPlain :=
  ⟨trivial, trivial, trivial,
    Json.isPlain_entries EnrichedEntry.toJson EnrichedEntry.isPlain_toJson r.systems.entries,
    trivial⟩

end Records

/-- The records are equal but for the order in which they list their platforms. -/
def LegacyRecord.Same (r s : LegacyRecord) : Prop :=
  r.name = s.name ∧ r.version = s.version ∧ r.summary = s.summary
    ∧ ∀ platform, r.systems.get? platform = s.systems.get? platform

/-- The records are equal but for the order in which they list their platforms. -/
def EnrichedRecord.Same (r s : EnrichedRecord) : Prop :=
  r.name = s.name ∧ r.version = s.version ∧ r.summary = s.summary
    ∧ ∀ platform, r.systems.get? platform = s.systems.get? platform

/-- What is written for a value is read back as the value, up to what carries no meaning. -/
structure RoundTrips {α : Type} (write : α → Json) (read : Json → Option α) (same : α → α → Prop) :
    Prop where
  /-- The text without blanks is one of the texts for a value. -/
  spells_compact : ∀ value, (write value).Spells (write value).compact
  read_back : ∀ {value written : α} {text : String}, same written value →
    (write written).Spells text.toList →
    ∃ back, (Json.parse? text).bind read = some back ∧ same back value
  /-- What was read from any text at all is written, and then read back, as it is. -/
  read_again : ∀ {value : α} {text again : String}, (Json.parse? text).bind read = some value →
    (write value).Spells again.toList → (Json.parse? again).bind read = some value

theorem roundTrips_of_read_write {α : Type} {write : α → Json} {read : Json → Option α}
    {same : α → α → Prop} (hread : ∀ value, read (write value) = some value)
    (hplain : ∀ value, (write value).IsPlain) :
    RoundTrips write read same where
  spells_compact value := Json.spells_compact _ (hplain value)
  read_back {value written text} hsame hspells := by
    refine ⟨written, ?_, hsame⟩
    rw [Json.parse?_of_spells hspells, Option.bind_some, hread]
  read_again {value text again} _ hspells := by
    rw [Json.parse?_of_spells hspells, Option.bind_some, hread]

/-- The records of both protocols are read back from every text for them, in any order of their
platforms, and an instant is read from its local time in any zone. Their instants are all moments
that can be read back at all: those that lie in no leap second but one after the last second of a
minute. -/
theorem records_round_trip :
    RoundTrips LegacyRecord.toJson LegacyRecord.ofJson? LegacyRecord.Same
    ∧ RoundTrips EnrichedRecord.toJson EnrichedRecord.ofJson? EnrichedRecord.Same
    ∧ (∀ (wall t : Timestamp) (minutes : Int), minutes.natAbs < 1440 →
      (timestamp? (.text (wall.zonedText minutes)) = some t
        ↔ t.toUnix = wall.toUnix - minutes * 60 ∧ t.nano = wall.nano))
    ∧ ∀ m : Moment, (∃ t, timestamp? (.text m.render) = some t ∧ t.toMoment = m) ↔ m.IsRegular := by
  refine ⟨roundTrips_of_read_write LegacyRecord.ofJson?_toJson LegacyRecord.isPlain_toJson,
    roundTrips_of_read_write EnrichedRecord.ofJson?_toJson EnrichedRecord.isPlain_toJson, ?_, ?_⟩
  · intro wall t minutes hminutes
    rw [timestamp?_text, Timestamp.parse?_zonedText hminutes]
  · intro m
    simp only [timestamp?_text]
    exact m.readBack_iff

def leapInstant : Timestamp :=
  ⟨17166, 86399, 1500000000, by decide, by decide, by decide, by decide, by decide⟩

def leapWall : Timestamp :=
  ⟨17167, 7199, 1500000000, by decide, by decide, by decide, by decide, by decide⟩

def twoPlatforms (first second : String) (h : first ≠ second) : EnrichedRecord where
  name := "hello"
  version := "2.12"
  summary := "says \"hi\""
  systems :=
    let entry : EnrichedEntry :=
      { installable := ⟨.nixpkgs "abc", "hello"⟩, lastUpdated := leapInstant,
        outputs := [⟨"out", "/p", true⟩] }
    ⟨[(first, entry), (second, entry)], by simpa using h⟩

theorem records_round_trip_leapSecond :
    (∃ back, (Json.parse? (String.ofList (twoPlatforms "b" "a" (by decide)).toJson.compact)).bind
        EnrichedRecord.ofJson? = some back ∧ back.Same (twoPlatforms "a" "b" (by decide)))
    ∧ (120 : Int).natAbs < 1440
    ∧ timestamp? (.text (leapWall.zonedText 120)) = some leapInstant := by
  have hsame : (twoPlatforms "b" "a" (by decide)).Same (twoPlatforms "a" "b" (by decide)) :=
    ⟨rfl, rfl, rfl, PlatformMap.get?_eq_of_perm (List.Perm.swap _ _ _)⟩
  have hspells := records_round_trip.2.1.spells_compact (twoPlatforms "b" "a" (by decide))
  refine ⟨records_round_trip.2.1.read_back hsame ?_, by decide, ?_⟩
  · rw [String.toList_ofList]
    exact hspells
  · exact (records_round_trip.2.2.1 leapWall leapInstant 120 (by decide)).2 (by decide)

/-- Half a second into a leap second one second too early. -/
def earlyLeap : Moment :=
  ⟨17166, 86398, 1500000000, by decide, by decide, by decide, by decide⟩

def entryAt (t : Timestamp) : EnrichedEntry :=
  { installable := ⟨.nixpkgs "abc", "hello"⟩, lastUpdated := t, outputs := [] }

/-- A record of one platform, with the entry that was written at a given instant. -/
def recordAt (t : Timestamp) : EnrichedRecord where
  name := "hello"
  version := "2.12"
  summary := ""
  systems := ⟨[("x86_64-linux", entryAt t)], by simp⟩

/-- What is written for the same record with a moment in place of the instant. -/
def recordAtMoment (m : Moment) : Json :=
  .object [("name", .text "hello"), ("version", .text "2.12"), ("summary", .text ""),
    ("systems", .object [("x86_64-linux", .object [
      ("flake_installable", (entryAt Timestamp.epoch).installable.toJson),
      ("last_updated", .text m.render), ("outputs", .array [])])])]

theorem recordAtMoment_toMoment (t : Timestamp) : recordAtMoment t.toMoment = (recordAt t).toJson :=
  rfl

/-- A leap second within a minute is not read back: the record is read with the second after it. -/
theorem earlyLeap_not_read_back :
    ∃ (back : EnrichedRecord) (entry : EnrichedEntry),
      (Json.parse? (String.ofList (recordAtMoment earlyLeap).compact)).bind EnrichedRecord.ofJson?
        = some back
      ∧ back.systems.get? "x86_64-linux" = some entry ∧ entry.lastUpdated.toMoment ≠ earlyLeap := by
  have htext : recordAtMoment earlyLeap = (recordAt earlyLeap.toInstant).toJson := by
    rw [← recordAtMoment_toMoment, recordAtMoment, recordAtMoment, Moment.render_toMoment,
      Moment.render_toInstant]
  refine ⟨recordAt earlyLeap.toInstant, entryAt earlyLeap.toInstant, ?_, rfl, ?_⟩
  · rw [htext, Json.parse?_of_spells ?_, Option.bind_some, EnrichedRecord.ofJson?_toJson]
    rw [String.toList_ofList]
    exact Json.spells_compact _ (EnrichedRecord.isPlain_toJson _)
  · rw [entryAt, Ne, Moment.toMoment_toInstant_iff]
    decide

end Search

end Pinning
