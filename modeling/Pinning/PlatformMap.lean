/-!
Platform maps of service records: at most one entry for a platform, in the order in which the record
lists them. The order carries no meaning of its own; it only decides which entry is first.
-/

set_option autoImplicit false
set_option relaxedAutoImplicit false

namespace Pinning

/-- A list of entries with distinct platforms. -/
structure PlatformMap (α : Type) where
  entries : List (String × α)
  distinct : (entries.map Prod.fst).Nodup
  deriving DecidableEq

namespace PlatformMap

variable {α β : Type}

/-- Give a platform a value: at its place if it is listed, behind all others if not. -/
def setEntry (platform : String) (value : α) : List (String × α) → List (String × α)
  | [] => [(platform, value)]
  | entry :: rest =>
    if entry.1 = platform then (platform, value) :: rest else entry :: setEntry platform value rest

theorem mem_keys_setEntry {platform other : String} {value : α} {entries : List (String × α)} :
    other ∈ (setEntry platform value entries).map Prod.fst
      ↔ other = platform ∨ other ∈ entries.map Prod.fst := by
  induction entries with
  | nil => simp [setEntry]
  | cons first rest ih =>
    simp only [setEntry]
    split
    · next h => simp [← h]
    · simp only [List.map_cons, List.mem_cons, ih]
      exact or_left_comm

theorem nodup_setEntry (platform : String) (value : α) {entries : List (String × α)}
    (h : (entries.map Prod.fst).Nodup) :
    ((setEntry platform value entries).map Prod.fst).Nodup := by
  induction entries with
  | nil => simp [setEntry]
  | cons first rest ih =>
    simp only [List.map_cons, List.nodup_cons] at h
    simp only [setEntry]
    split
    · next heq => simpa [← heq] using h
    · next hne =>
      simp only [List.map_cons, List.nodup_cons, mem_keys_setEntry]
      exact ⟨fun hmem => hmem.elim hne h.1, ih h.2⟩

def empty : PlatformMap α := ⟨[], List.nodup_nil⟩

instance : EmptyCollection (PlatformMap α) := ⟨empty⟩
instance : Inhabited (PlatformMap α) := ⟨empty⟩

def insert (m : PlatformMap α) (platform : String) (value : α) : PlatformMap α :=
  ⟨setEntry platform value m.entries, nodup_setEntry platform value m.distinct⟩

/-- The map of a list of entries; of several entries for a platform the last counts. -/
def ofList (entries : List (String × α)) : PlatformMap α :=
  entries.foldl (fun m entry => m.insert entry.1 entry.2) empty

def get? (m : PlatformMap α) (platform : String) : Option α := m.entries.lookup platform

def first? (m : PlatformMap α) : Option (String × α) := m.entries.head?

/-- Change every value and keep platforms and order. -/
def map (f : α → β) (m : PlatformMap α) : PlatformMap β where
  entries := m.entries.map fun entry => (entry.1, f entry.2)
  distinct := by
    simpa [List.map_map, Function.comp_def] using m.distinct

end PlatformMap

end Pinning
