import Pinning.Platform
import Pinning.Proofs.Maps
/-!
Which entry of a platform map is representative.
-/

set_option autoImplicit false
set_option relaxedAutoImplicit false

namespace Pinning.Platform

variable {α β : Type} {host : String}

/-- Maps that offer the host or the fallback and are related platform by platform have related
representatives, for the same platform. -/
theorem select_rel {R : α → β → Prop} {m : PlatformMap α} {n : PlatformMap β}
    (hrel : ∀ platform, Option.Rel R (m.get? platform) (n.get? platform))
    (hoffered : (m.get? host).isSome ∨ (m.get? fallback).isSome) :
    ∃ platform a b, select host m = .ok (platform, a) ∧ select host n = .ok (platform, b)
      ∧ m.get? platform = some a ∧ R a b := by
  have hhost := hrel host
  have hfallback := hrel fallback
  rw [select, select]
  cases hm : m.get? host with
  | some a =>
    rw [hm] at hhost
    cases hn : n.get? host with
    | none => exact absurd (hn ▸ hhost) nofun
    | some b =>
      rw [hn] at hhost
      cases hhost with
      | some hR => exact ⟨host, a, b, rfl, rfl, hm, hR⟩
  | none =>
    rw [hm] at hhost hoffered
    obtain ⟨a, ha⟩ := Option.isSome_iff_exists.1 (hoffered.resolve_left nofun)
    rw [ha] at hfallback
    cases hn : n.get? host with
    | some b => exact absurd (hn ▸ hhost) nofun
    | none =>
      cases hb : n.get? fallback with
      | none => exact absurd (hb ▸ hfallback) nofun
      | some b =>
        rw [hb] at hfallback
        cases hfallback with
        | some hR => exact ⟨fallback, a, b, by rw [ha], rfl, ha, hR⟩

/-- Both maps have one entry for the host, or neither has any and both have one entry for the
fallback platform. -/
inductive SharesChoice (host : String) (m n : PlatformMap α) : Prop
  | host {entry : α} (hm : m.get? host = some entry) (hn : n.get? host = some entry) :
      SharesChoice host m n
  | fallback {entry : α} (hm : m.get? host = none) (hn : n.get? host = none)
      (hm' : m.get? fallback = some entry)
      (hn' : n.get? fallback = some entry) : SharesChoice host m n

theorem select_of_host {m : PlatformMap α} {entry : α} (h : m.get? host = some entry) :
    select host m = .ok (host, entry) := by
  rw [select, h]

theorem select_of_fallback {m : PlatformMap α} {entry : α} (hhost : m.get? host = none)
    (h : m.get? fallback = some entry) : select host m = .ok (fallback, entry) := by
  simp only [select, hhost, h]

theorem SharesChoice.select_eq {m n : PlatformMap α} (h : SharesChoice host m n) :
    select host m = select host n := by
  cases h with
  | host hm hn => rw [select_of_host hm, select_of_host hn]
  | fallback hm hn hm' hn' => rw [select_of_fallback hm hm', select_of_fallback hn hn']

theorem select_eq_error {m : PlatformMap α} {cause : Error} (h : select host m = .error cause) :
    cause = .noSystemsAvailable := by
  rw [select] at h
  split at h
  · cases h
  · split at h
    · cases h
    · split at h
      · cases h
      · exact (Except.error.inj h).symm

theorem select_eq_error_iff {m : PlatformMap α} :
    select host m = .error .noSystemsAvailable ↔ m.entries = [] := by
  constructor
  · intro h
    cases hentries : m.entries with
    | nil => rfl
    | cons entry rest =>
      have hfirst : m.first? = some entry := by rw [PlatformMap.first?, hentries, List.head?_cons]
      rw [select] at h
      split at h
      · cases h
      · split at h
        · cases h
        · rw [hfirst] at h
          cases h
  · intro hentries
    have hnone : ∀ platform, m.get? platform = none := by
      intro platform
      rw [PlatformMap.get?, hentries, List.lookup_nil]
    simp only [select, hnone, PlatformMap.first?, hentries, List.head?_nil]

/-- The entry may stand for the map: it is the host's, else the one of the fallback platform, else
any that is listed. -/
inductive Represents (host : String) (m : PlatformMap α) (entry : α) : Prop
  | host (h : m.get? host = some entry) : Represents host m entry
  | fallback (hhost : m.get? host = none) (h : m.get? "x86_64-linux" = some entry) :
      Represents host m entry
  | listed {platform : String} (hhost : m.get? host = none)
      (hfallback : m.get? "x86_64-linux" = none)
      (h : m.get? platform = some entry) : Represents host m entry

theorem represents_of_select {m : PlatformMap α} {platform : String} {entry : α}
    (h : select host m = .ok (platform, entry)) : Represents host m entry := by
  rw [select] at h
  split at h
  · next value hhost =>
    obtain ⟨rfl, rfl⟩ := Prod.mk.inj (Except.ok.inj h)
    exact .host hhost
  · next hhost =>
    split at h
    · next value hfallback =>
      obtain ⟨rfl, rfl⟩ := Prod.mk.inj (Except.ok.inj h)
      exact .fallback hhost hfallback
    · next hfallback =>
      split at h
      · next first hfirst =>
        obtain rfl := Except.ok.inj h
        exact .listed hhost hfallback (m.get?_eq_some_iff.2 (List.mem_of_head? hfirst))
      · cases h

theorem Represents.of_perm {m n : PlatformMap α} {entry : α} (hperm : n.entries.Perm m.entries)
    (h : Represents host n entry) : Represents host m entry := by
  have hget : ∀ platform, n.get? platform = m.get? platform := PlatformMap.get?_eq_of_perm hperm
  cases h with
  | host h => exact .host (hget _ ▸ h)
  | fallback hhost h => exact .fallback (hget _ ▸ hhost) (hget _ ▸ h)
  | listed hhost hfallback h => exact .listed (hget _ ▸ hhost) (hget _ ▸ hfallback) (hget _ ▸ h)

theorem exists_select_of_represents [DecidableEq α] {m : PlatformMap α} {entry : α}
    (h : Represents host m entry) :
    ∃ (n : PlatformMap α) (platform : String), n.entries.Perm m.entries
      ∧ select host n = .ok (platform, entry) := by
  cases h with
  | host h => exact ⟨m, host, .refl _, select_of_host h⟩
  | fallback hhost h => exact ⟨m, fallback, .refl _, select_of_fallback hhost h⟩
  | @listed platform hhost hfallback h =>
    have hmem : (platform, entry) ∈ m.entries := m.get?_eq_some_iff.1 h
    have hperm : ((platform, entry) :: m.entries.erase (platform, entry)).Perm m.entries :=
      (List.perm_cons_erase hmem).symm
    let n : PlatformMap α := ⟨(platform, entry) :: m.entries.erase (platform, entry),
      (hperm.map Prod.fst).nodup_iff.2 m.distinct⟩
    have hget : ∀ platform, n.get? platform = m.get? platform := PlatformMap.get?_eq_of_perm hperm
    have hfallback' : n.get? fallback = none := (hget fallback).trans hfallback
    have hfirst : n.first? = some (platform, entry) := rfl
    refine ⟨n, platform, hperm, ?_⟩
    simp only [select, hget host, hhost, hfallback', hfirst]

/-- All entries that may stand for the map are the same. -/
def IsDecided (host : String) (m : PlatformMap α) : Prop :=
  ∀ first second, Represents host m first → Represents host m second → first = second

theorem isDecided_of_offered {m : PlatformMap α}
    (h : (m.get? host).isSome ∨ (m.get? "x86_64-linux").isSome) : IsDecided host m := by
  have hone : ∀ entry, Represents host m entry →
      entry ∈ (m.get? host).or (m.get? "x86_64-linux") := by
    intro entry hentry
    cases hentry with
    | host hhost => simp [hhost]
    | fallback hhost hfallback => simp [hhost, hfallback]
    | listed hhost hfallback _ => simp [hhost, hfallback] at h
  intro first second hfirst hsecond
  exact Option.mem_unique (hone first hfirst) (hone second hsecond)

theorem IsDecided.select_cases {m n : PlatformMap α} (h : IsDecided host m)
    (hperm : n.entries.Perm m.entries) :
    select host n = .error .noSystemsAvailable ∧ select host m = .error .noSystemsAvailable
      ∨ ∃ platform other entry, select host n = .ok (platform, entry)
        ∧ select host m = .ok (other, entry) := by
  have hnone : select host n = .error .noSystemsAvailable
      ↔ select host m = .error .noSystemsAvailable := by
    rw [select_eq_error_iff, select_eq_error_iff]
    exact ⟨fun hnil => List.perm_nil.1 (hnil ▸ hperm.symm),
      fun hnil => List.perm_nil.1 (hnil ▸ hperm)⟩
  cases hn : select host n with
  | error cause =>
    obtain rfl := select_eq_error hn
    exact .inl ⟨rfl, hnone.1 hn⟩
  | ok chosen =>
    cases hm : select host m with
    | error cause =>
      obtain rfl := select_eq_error hm
      cases hn.symm.trans (hnone.2 hm)
    | ok other =>
      have hsame : chosen.2 = other.2 :=
        h _ _ ((represents_of_select hn).of_perm hperm) (represents_of_select hm)
      exact .inr ⟨chosen.1, other.1, chosen.2, rfl, hsame ▸ rfl⟩

end Pinning.Platform
