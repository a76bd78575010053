import Mathlib.Data.List.Induction
import Mathlib.Data.List.Nodup
import Pinning.PlatformMap
import Pinning.SortedMap
/-!
What look-ups say about maps with text keys: a key has the value that an entry gives it, and a
sorted map is determined by its look-ups.
-/

set_option autoImplicit false
set_option relaxedAutoImplicit false

namespace Pinning

variable {α : Type}

theorem lookup_eq_some_iff_mem {entries : List (String × α)}
    (hnodup : (entries.map Prod.fst).Nodup) {key : String} {value : α} :
    entries.lookup key = some value ↔ (key, value) ∈ entries := by
  induction entries with
  | nil => simp
  | cons first rest ih =>
    obtain ⟨k, v⟩ := first
    obtain ⟨hfirst, hrest⟩ := List.nodup_cons.1 hnodup
    rw [List.lookup_cons]
    by_cases hk : key = k
    · subst hk
      have hnot : (key, value) ∉ rest := fun hmem => hfirst (List.mem_map.2 ⟨_, hmem, rfl⟩)
      simp [hnot, eq_comm]
    · have hb : (key == k) = false := by simpa using hk
      simp [hb, ih hrest, hk]

namespace PlatformMap

theorem get?_eq_some_iff (m : PlatformMap α) {platform : String} {value : α} :
    m.get? platform = some value ↔ (platform, value) ∈ m.entries :=
  lookup_eq_some_iff_mem m.distinct

theorem get?_map {β : Type} (f : α → β) (m : PlatformMap α) (platform : String) :
    (m.map f).get? platform = (m.get? platform).map f := by
  show (m.entries.map fun entry => (entry.1, f entry.2)).lookup platform
    = (m.entries.lookup platform).map f
  induction m.entries with
  | nil => rfl
  | cons entry rest ih =>
    rw [List.map_cons, List.lookup_cons, List.lookup_cons]
    cases platform == entry.1 with
    | true => rfl
    | false => exact ih

theorem setEntry_of_notMem {platform : String} {value : α} {entries : List (String × α)}
    (h : platform ∉ entries.map Prod.fst) :
    setEntry platform value entries = entries ++ [(platform, value)] := by
  induction entries with
  | nil => rfl
  | cons first rest ih =>
    obtain ⟨hne, hrest⟩ := not_or.1 fun hmem => h (List.mem_cons.2 hmem)
    rw [setEntry, if_neg (Ne.symm hne), ih hrest]
    rfl

private theorem entries_foldl_insert {entries : List (String × α)} (m : PlatformMap α)
    (hnodup : ((m.entries ++ entries).map Prod.fst).Nodup) :
    (entries.foldl (fun m entry => m.insert entry.1 entry.2) m).entries = m.entries ++ entries := by
  induction entries generalizing m with
  | nil => simp
  | cons entry rest ih =>
    have hfresh : entry.1 ∉ m.entries.map Prod.fst := by
      simp only [List.map_append, List.map_cons, List.nodup_append, List.mem_cons] at hnodup
      exact fun hmem => hnodup.2.2 _ hmem _ (.inl rfl) rfl
    have hinsert : (m.insert entry.1 entry.2).entries = m.entries ++ [entry] :=
      setEntry_of_notMem hfresh
    rw [List.foldl_cons, ih _ (by rwa [hinsert, List.append_assoc, List.singleton_append]), hinsert,
      List.append_assoc, List.singleton_append]

theorem ofList_entries (m : PlatformMap α) : ofList m.entries = m := by
  have hentries : (ofList m.entries).entries = m.entries := entries_foldl_insert empty m.distinct
  generalize ofList m.entries = n at hentries
  cases m
  cases n
  cases hentries
  rfl

theorem get?_eq_of_perm {m n : PlatformMap α} (h : m.entries.Perm n.entries) (platform : String) :
    m.get? platform = n.get? platform := by
  refine Option.ext fun value => ?_
  rw [get?_eq_some_iff, get?_eq_some_iff, h.mem_iff]

end PlatformMap

namespace SortedMap

private theorem nodup_keys (m : SortedMap α) : (m.entries.map Prod.fst).Nodup := by
  refine List.pairwise_map.2 (m.ascending.imp fun {a b} hlt heq => ?_)
  rw [heq] at hlt
  exact String.lt_irrefl _ hlt

theorem get?_eq_some_iff (m : SortedMap α) {key : String} {value : α} :
    m.get? key = some value ↔ (key, value) ∈ m.entries :=
  lookup_eq_some_iff_mem m.nodup_keys

theorem ext_get? {m n : SortedMap α} (h : ∀ key, m.get? key = n.get? key) : m = n := by
  have hmem : ∀ entry, entry ∈ m.entries ↔ entry ∈ n.entries := by
    rintro ⟨key, value⟩
    rw [← get?_eq_some_iff, ← get?_eq_some_iff, h]
  have hperm : m.entries.Perm n.entries :=
    (List.perm_ext_iff_of_nodup m.nodup_keys.of_map n.nodup_keys.of_map).2 hmem
  have hentries : m.entries = n.entries := by
    refine hperm.eq_of_pairwise (fun a b _ _ hab hba => ?_) m.ascending n.ascending
    exact absurd (String.lt_trans hab hba) (String.lt_irrefl _)
  cases m
  cases n
  cases hentries
  rfl

@[simp] theorem get?_empty (key : String) : (∅ : SortedMap α).get? key = none := rfl

private theorem get?_foldl_insert {entries : List (String × α)}
    (hnodup : (entries.map Prod.fst).Nodup) (m : SortedMap α) {key : String} {value : α} :
    (entries.foldl (fun m entry => m.insert entry.1 entry.2) m).get? key = some value
      ↔ (key, value) ∈ entries ∨ key ∉ entries.map Prod.fst ∧ m.get? key = some value := by
  induction entries generalizing m with
  | nil => simp
  | cons first rest ih =>
    obtain ⟨k, v⟩ := first
    obtain ⟨hfirst, hrest⟩ := List.nodup_cons.1 hnodup
    rw [List.foldl_cons, ih hrest, get?_insert]
    by_cases hk : key = k
    · subst hk
      have hnot : (key, value) ∉ rest := fun hmem => hfirst (List.mem_map.2 ⟨_, hmem, rfl⟩)
      simpa [hnot, eq_comm] using fun _ => hfirst
    · simp [hk]

theorem get?_ofList {entries : List (String × α)} (hnodup : (entries.map Prod.fst).Nodup)
    {key : String} {value : α} :
    (ofList entries).get? key = some value ↔ (key, value) ∈ entries := by
  refine (get?_foldl_insert hnodup ∅).trans ?_
  simp

theorem ofList_entries (m : SortedMap α) : ofList m.entries = m := by
  refine ext_get? fun key => Option.ext fun value => ?_
  rw [get?_ofList m.nodup_keys, get?_eq_some_iff]

theorem ofList_append_singleton (entries : List (String × α)) (entry : String × α) :
    ofList (entries ++ [entry]) = (ofList entries).insert entry.1 entry.2 := by
  rw [ofList, List.foldl_append]
  rfl

theorem get?_ofList_eq_some_iff {entries : List (String × α)} {key : String} {value : α} :
    (ofList entries).get? key = some value
      ↔ ∃ before after, entries = before ++ (key, value) :: after ∧ key ∉ after.map Prod.fst := by
  induction entries using List.reverseRecOn with
  | nil => simp [ofList, empty, get?]
  | append_singleton entries entry ih =>
    rw [ofList_append_singleton, get?_insert]
    constructor
    · intro h
      split at h
      · next hkey =>
        refine ⟨entries, [], ?_, by simp⟩
        rw [hkey, ← Option.some.inj h]
      · next hkey =>
        obtain ⟨before, after, rfl, hafter⟩ := ih.1 h
        refine ⟨before, after ++ [entry], by simp, ?_⟩
        simpa [hkey] using hafter
    · rintro ⟨before, after, heq, hafter⟩
      rcases List.eq_nil_or_concat after with rfl | ⟨front, last, rfl⟩
      · obtain ⟨rfl, hentry⟩ := List.append_inj' heq rfl
        obtain rfl := List.singleton_inj.1 hentry
        exact if_pos rfl
      · have hsplit : entries ++ [entry] = (before ++ (key, value) :: front) ++ [last] := by
          simpa using heq
        obtain ⟨rfl, hentry⟩ := List.append_inj' hsplit rfl
        obtain rfl := List.singleton_inj.1 hentry
        simp only [List.concat_eq_append, List.map_append, List.mem_append, not_or] at hafter
        rw [if_neg (by simpa using hafter.2)]
        exact ih.2 ⟨before, front, rfl, hafter.1⟩

theorem mem_keys_iff (m : SortedMap α) {key : String} :
    key ∈ m.keys ↔ ∃ value, m.get? key = some value := by
  rw [keys, List.mem_map]
  constructor
  · rintro ⟨⟨k, value⟩, hmem, rfl⟩
    exact ⟨value, m.get?_eq_some_iff.2 hmem⟩
  · rintro ⟨value, hvalue⟩
    exact ⟨_, m.get?_eq_some_iff.1 hvalue, rfl⟩

theorem mem_keys_ofList {entries : List (String × α)} {key : String} :
    key ∈ (ofList entries).keys ↔ key ∈ entries.map Prod.fst := by
  rw [mem_keys_iff]
  induction entries using List.reverseRecOn with
  | nil => simp [ofList, empty, get?]
  | append_singleton entries entry ih =>
    simp only [ofList_append_singleton, get?_insert, List.map_append, List.mem_append, ← ih]
    by_cases hkey : key = entry.1 <;> simp [hkey]

theorem get?_ofList_filterMap {β : Type} {entries : List (String × α)}
    (hnodup : (entries.map Prod.fst).Nodup) (f : α → Option β) {key : String} {value : β} :
    (ofList (entries.filterMap fun entry => (f entry.2).map fun v => (entry.1, v))).get? key
        = some value
      ↔ ∃ a, (key, a) ∈ entries ∧ f a = some value := by
  have hkeys : ((entries.filterMap fun entry => (f entry.2).map fun v => (entry.1, v)).map
      Prod.fst).Sublist (entries.map Prod.fst) := by
    clear hnodup
    induction entries with
    | nil => exact List.Sublist.refl _
    | cons entry rest ih =>
      rw [List.filterMap_cons]
      cases f entry.2 with
      | none => exact ih.cons entry.1
      | some v => exact ih.cons_cons entry.1
  rw [get?_ofList (hnodup.sublist hkeys), List.mem_filterMap]
  constructor
  · rintro ⟨⟨k, a⟩, hmem, hvalue⟩
    obtain ⟨v, hv, hentry⟩ := Option.map_eq_some_iff.1 hvalue
    obtain ⟨rfl, rfl⟩ := Prod.mk.inj hentry
    exact ⟨a, hmem, hv⟩
  · rintro ⟨a, hmem, hvalue⟩
    exact ⟨(key, a), hmem, by simp [hvalue]⟩

end SortedMap

end Pinning
