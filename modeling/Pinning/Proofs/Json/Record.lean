import Pinning.Json.Record
import Pinning.Proofs.Json.Reader
import Pinning.Proofs.Maps
/-!
Reading back what was written as a record, a list or a map. A record is described by its slots, one
for each field, with the value that is written there or with none; what a slot holds is what its
field is looked up as.
-/

set_option autoImplicit false
set_option relaxedAutoImplicit false

namespace Pinning.Json

/-- The fields of a record, each with the value that is written for it. -/
abbrev Slots := List (String × Option Json)

namespace Slots

def names (slots : Slots) : List String := slots.map Prod.fst

def members (slots : Slots) : Fields := slots.flatMap fun slot => (slot.2.map (slot.1, ·)).toList

variable {slots : Slots}

theorem mem_members {name : String} {value : Json} :
    (name, value) ∈ slots.members ↔ (name, some value) ∈ slots := by
  rw [members, List.mem_flatMap]
  constructor
  · rintro ⟨⟨n, v⟩, hslot, hmember⟩
    obtain ⟨w, hw, heq⟩ := Option.map_eq_some_iff.1 (Option.mem_toList.1 hmember)
    obtain ⟨rfl, rfl⟩ := Prod.mk.inj heq
    have hv : v = some w := hw
    rwa [← hv]
  · intro hslot
    exact ⟨_, hslot, by simp⟩

theorem names_members_sublist : (slots.members.map Prod.fst).Sublist slots.names := by
  induction slots with
  | nil => exact .slnil
  | cons slot rest ih =>
    obtain ⟨name, value⟩ := slot
    cases value with
    | none => exact ih.cons name
    | some value => exact ih.cons_cons name

theorem fields?_members (hnodup : slots.names.Nodup) :
    fields? strict slots.names (.object slots.members) = some slots.members := by
  have hknown : slots.members.filter (fun member => slots.names.contains member.1)
      = slots.members := by
    refine List.filter_eq_self.2 fun member hmember => ?_
    rw [List.contains_iff_mem]
    exact names_members_sublist.subset (List.mem_map_of_mem hmember)
  rw [fields?, hknown, if_pos (hnodup.sublist names_members_sublist)]

theorem lookup_members (hnodup : slots.names.Nodup) {name : String} {value : Option Json}
    (h : (name, value) ∈ slots) : slots.members.lookup name = value := by
  have hmembers : (slots.members.map Prod.fst).Nodup := hnodup.sublist names_members_sublist
  cases value with
  | some value => exact (lookup_eq_some_iff_mem hmembers).2 (mem_members.2 h)
  | none =>
    refine Option.eq_none_iff_forall_ne_some.2 fun value hvalue => ?_
    have hslot := mem_members.1 ((lookup_eq_some_iff_mem hmembers).1 hvalue)
    have hsame := List.inj_on_of_nodup_map hnodup h hslot rfl
    cases hsame

section Fields

variable {α : Type} {read : Json → Option α} {name : String}

theorem required_members (hnodup : slots.names.Nodup) (i : Nat) {value : Json}
    (h : slots[i]? = some (name, some value)) : slots.members.required name read = read value := by
  rw [Fields.required, lookup_members hnodup (List.mem_of_getElem? h)]
  rfl

theorem withDefault_members (hnodup : slots.names.Nodup) (i : Nat) {value : Option Json}
    (h : slots[i]? = some (name, value)) (default : α) :
    slots.members.withDefault name read default = value.elim (some default) read := by
  rw [Fields.withDefault, lookup_members hnodup (List.mem_of_getElem? h)]
  cases value <;> rfl

end Fields

end Slots

theorem nullable?_write {α : Type} {read : Json → Option α} (write : α → Json)
    (hnull : ∀ a, write a ≠ .null) (hread : ∀ a, read (write a) = some a) (value : Option α) :
    (value.map write).elim (some none) (nullable? read) = some value := by
  cases value with
  | none => rfl
  | some a =>
    show nullable? read (write a) = _
    rw [nullable?, hread]
    · rfl
    · exact hnull a

section Lists

variable {α : Type} {read : Json → Option α} {write : α → Json}

theorem list?_write {as : List α} (h : ∀ a ∈ as, read (write a) = some a) :
    list? read (.array (as.map write)) = some as := Reader.mapM_map_eq_some h

theorem members?_write {entries : List (String × α)}
    (h : ∀ entry ∈ entries, read (write entry.2) = some entry.2) :
    members? read (.object (entries.map fun entry => (entry.1, write entry.2))) = some entries := by
  refine Reader.mapM_map_eq_some fun entry hentry => ?_
  dsimp only
  rw [h entry hentry, Option.map_some]

end Lists

section Plain

theorem arePlain_iff {items : List Json} : ArePlain items ↔ ∀ item ∈ items, IsPlain item := by
  induction items with
  | nil => simp [ArePlain]
  | cons item rest ih => simp [ArePlain, ih]

theorem areMembersPlain_iff {members : List (String × Json)} :
    AreMembersPlain members ↔ ∀ member ∈ members, IsPlain member.2 := by
  induction members with
  | nil => simp [AreMembersPlain]
  | cons member rest ih =>
    obtain ⟨key, value⟩ := member
    simp [AreMembersPlain, ih]

theorem isPlain_array {α : Type} (write : α → Json) (h : ∀ a, (write a).IsPlain) (as : List α) :
    (Json.array (as.map write)).IsPlain := by
  refine arePlain_iff.2 fun item hitem => ?_
  obtain ⟨a, -, rfl⟩ := List.mem_map.1 hitem
  exact h a

theorem isPlain_entries {α : Type} (write : α → Json) (h : ∀ a, (write a).IsPlain)
    (entries : List (String × α)) :
    (Json.object (entries.map fun entry => (entry.1, write entry.2))).IsPlain := by
  refine areMembersPlain_iff.2 fun member hmember => ?_
  obtain ⟨entry, -, rfl⟩ := List.mem_map.1 hmember
  exact h entry.2

theorem Slots.isPlain_members {slots : Slots}
    (h : ∀ slot ∈ slots, ∀ value, slot.2 = some value → value.IsPlain) :
    (Json.object slots.members).IsPlain :=
  areMembersPlain_iff.2 fun _ hmember => h _ (mem_members.1 hmember) _ rfl

end Plain

end Pinning.Json
