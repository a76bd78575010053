import Pinning.Proofs.Text
import Pinning.Store.Path
/-!
The grammar of store paths, read off its alphabets: what makes a hash, a name, and a path that is
accepted for a hash and a name. A path can be split in one way only, so it is accepted for one hash
and one name.
-/

set_option autoImplicit false
set_option relaxedAutoImplicit false

namespace Pinning.Store

def base32Digits : List Char := "0123456789abcdfghijklmnpqrsvwxyz".toList

def nameCharacters : List Char :=
  "ABCDEFGHIJKLMNOPQRSTUVWXYZabcdefghijklmnopqrstuvwxyz0123456789+-._?=".toList

private theorem accepts_iff_mem {accepts : Char → Bool} {alphabet : List Char}
    (hwide : ∀ c, accepts c = true → c.toNat < 128)
    (hascii : ((List.range 128).all fun n =>
      accepts (Char.ofNat n) == alphabet.contains (Char.ofNat n)) = true)
    (halphabet : (alphabet.all fun c => decide (c.toNat < 128)) = true) (c : Char) :
    accepts c = true ↔ c ∈ alphabet := by
  have hsmall : c.toNat < 128 → (accepts c = true ↔ c ∈ alphabet) := by
    intro hlt
    have hc := List.all_eq_true.1 hascii c.toNat (List.mem_range.2 hlt)
    rw [Char.ofNat_toNat, beq_iff_eq] at hc
    rw [hc, List.contains_iff_mem]
  constructor
  · intro h
    exact (hsmall (hwide c h)).1 h
  · intro h
    exact (hsmall (of_decide_eq_true (List.all_eq_true.1 halphabet c h))).2 h

private theorem toNat_le_of_le {c d : Char} (h : c ≤ d) : c.toNat ≤ d.toNat :=
  UInt32.le_iff_toNat_le.1 h

theorem isBase32_iff (c : Char) : isBase32 c = true ↔ c ∈ base32Digits := by
  refine accepts_iff_mem (fun c h => ?_) (by decide +kernel) (by decide +kernel) c
  simp only [isBase32, Bool.or_eq_true, Bool.and_eq_true, decide_eq_true_eq] at h
  rcases h with ⟨-, hdigit⟩ | ⟨⟨⟨⟨⟨-, hletter⟩, -⟩, -⟩, -⟩, -⟩
  · exact Nat.lt_of_le_of_lt (toNat_le_of_le hdigit) (by decide)
  · exact Nat.lt_of_le_of_lt (toNat_le_of_le hletter) (by decide)

theorem isNameChar_iff (c : Char) : isNameChar c = true ↔ c ∈ nameCharacters := by
  refine accepts_iff_mem (fun c h => ?_) (by decide +kernel) (by decide +kernel) c
  simp only [isNameChar, Bool.or_eq_true, Bool.and_eq_true, decide_eq_true_eq, beq_iff_eq] at h
  have hz : c ≤ 'z' → c.toNat < 128 := fun hle =>
    Nat.lt_of_le_of_lt (toNat_le_of_le hle) (by decide)
  rcases h with (((((((⟨-, hupper⟩ | ⟨-, hlower⟩) | ⟨-, hdigit⟩) | rfl) | rfl) | rfl) | rfl) | rfl)
    | rfl
  · exact hz (Char.le_trans hupper (by decide))
  · exact hz hlower
  · exact hz (Char.le_trans hdigit (by decide))
  all_goals decide

theorem isHash_iff (hash : String) :
    isHash hash.toList = true ↔ hash.length = 32 ∧ ∀ c ∈ hash.toList, c ∈ base32Digits := by
  simp only [isHash, hashLength, Bool.and_eq_true, beq_iff_eq, List.all_eq_true, isBase32_iff,
    String.length_toList]

theorem isName_iff (name : String) :
    isName name.toList = true ↔ name ≠ "" ∧ ∀ c ∈ name.toList, c ∈ nameCharacters := by
  have hempty : (!name.toList.isEmpty) = true ↔ name ≠ "" := by simp
  simp only [isName, Bool.and_eq_true, hempty, List.all_eq_true, isNameChar_iff]

private theorem ofList_join (hash name : String) :
    String.ofList (join hash.toList name.toList) = "/nix/store/" ++ hash ++ "-" ++ name := by
  refine String.toList_inj.1 ?_
  simp [join, storeDir]

theorem split?_eq_some_iff {path hash name : List Char} :
    split? path = some (hash, name)
      ↔ path = join hash name ∧ isHash hash = true ∧ isName name = true := by
  constructor
  · exact eq_join_of_split?
  · rintro ⟨rfl, hhash, hname⟩
    exact split?_join hhash hname

section Verify

variable {path hash : String} {wanted : Option String}

theorem verify_eq_ok_iff :
    verify path hash wanted = .ok ()
      ↔ ∃ name, split? path.toList = some (hash.toList, name) ∧ ∀ w ∈ wanted, name = w.toList := by
  rw [verify]
  cases hsplit : split? path.toList with
  | none => simp
  | some halves =>
    obtain ⟨foundHash, foundName⟩ := halves
    simp only [ite_eq_left_iff, reduceCtorEq, imp_false, Classical.not_not, Option.some.injEq,
      Prod.mk.injEq]
    constructor
    · rintro ⟨hhash, hname⟩
      exact ⟨foundName, ⟨hhash, rfl⟩, hname⟩
    · rintro ⟨name, ⟨hhash, rfl⟩, hname⟩
      exact ⟨hhash, hname⟩

/-- The accepted paths are those that the grammar writes for the hash and a name, the wanted one if
there is one. -/
theorem verify_eq_ok_iff_grammar :
    verify path hash wanted = .ok ()
      ↔ (hash.length = 32 ∧ ∀ c ∈ hash.toList, c ∈ base32Digits)
        ∧ ∃ name, (name ≠ "" ∧ ∀ c ∈ name.toList, c ∈ nameCharacters)
          ∧ path = "/nix/store/" ++ hash ++ "-" ++ name ∧ ∀ w ∈ wanted, w = name := by
  rw [verify_eq_ok_iff]
  constructor
  · rintro ⟨name, hsplit, hwanted⟩
    obtain ⟨hpath, hhash, hname⟩ := split?_eq_some_iff.1 hsplit
    rw [← String.toList_ofList (l := name)] at hpath hname
    refine ⟨(isHash_iff hash).1 hhash, String.ofList name, (isName_iff _).1 hname, ?_, ?_⟩
    · rw [← ofList_join, ← hpath, String.ofList_toList]
    · intro w hw
      rw [hwanted w hw, String.ofList_toList]
  · rintro ⟨hhash, name, hname, rfl, hwanted⟩
    refine ⟨name.toList, split?_eq_some_iff.2
      ⟨?_, (isHash_iff hash).2 hhash, (isName_iff name).2 hname⟩, ?_⟩
    · rw [← ofList_join, String.toList_ofList]
    · intro w hw
      rw [hwanted w hw]

theorem eq_of_verify {name : String} (h : verify path hash (some name) = .ok ()) :
    path = "/nix/store/" ++ hash ++ "-" ++ name
      ∧ (hash.length = 32 ∧ ∀ c ∈ hash.toList, c ∈ base32Digits)
      ∧ name ≠ "" ∧ ∀ c ∈ name.toList, c ∈ nameCharacters := by
  obtain ⟨hhash, found, hname, hpath, hsame⟩ := verify_eq_ok_iff_grammar.1 h
  obtain rfl := hsame name rfl
  exact ⟨hpath, hhash, hname⟩

theorem unique_of_verify {otherHash : String} {otherWanted : Option String}
    (h : verify path hash wanted = .ok ()) (hother : verify path otherHash otherWanted = .ok ()) :
    otherHash = hash ∧ ∀ w ∈ wanted, ∀ w' ∈ otherWanted, w' = w := by
  obtain ⟨name, hsplit, hname⟩ := verify_eq_ok_iff.1 h
  obtain ⟨otherName, hotherSplit, hotherName⟩ := verify_eq_ok_iff.1 hother
  obtain ⟨hhash, rfl⟩ := Prod.mk.inj (Option.some.inj (hsplit.symm.trans hotherSplit))
  refine ⟨(String.toList_inj.1 hhash).symm, ?_⟩
  intro w hw w' hw'
  apply String.toList_inj.1
  rw [← hname w hw, ← hotherName w' hw']

theorem verify_eq_error {cause : Error} (h : verify path hash wanted = .error cause) :
    cause = .invalidPath path hash := by
  rw [verify] at h
  split at h
  · split at h
    · cases h
    · exact (Except.error.inj h).symm
  · exact (Except.error.inj h).symm

theorem verify_eq_error_of_none {cause : Error} (h : verify path hash none = .error cause)
    (wanted : Option String) :
    verify path hash wanted = .error cause := by
  cases hwanted : verify path hash wanted with
  | error other => rw [verify_eq_error h, verify_eq_error hwanted]
  | ok accepted =>
    obtain ⟨name, hsplit, -⟩ := verify_eq_ok_iff.1 hwanted
    have hnone : verify path hash none = .ok () := verify_eq_ok_iff.2 ⟨name, hsplit, nofun⟩
    cases h.symm.trans hnone

theorem exists_verify_some (h : verify path hash none = .ok ()) :
    ∃ name, ∀ other, verify path hash (some other)
      = if other = name then .ok () else .error (.invalidPath path hash) := by
  obtain ⟨hhash, name, hname, hpath, -⟩ := verify_eq_ok_iff_grammar.1 h
  have hnamed : verify path hash (some name) = .ok () := by
    refine verify_eq_ok_iff_grammar.2 ⟨hhash, name, hname, hpath, ?_⟩
    rintro _ ⟨⟩
    rfl
  refine ⟨name, ?_⟩
  intro other
  split
  · next hsame => rw [hsame, hnamed]
  · next hne =>
    cases hother : verify path hash (some other) with
    | error cause => rw [verify_eq_error hother]
    | ok accepted => exact absurd ((unique_of_verify hnamed hother).2 name rfl other rfl) hne

/-- The text is accepted as a store path for some hash. -/
def IsStorePath (path : String) : Prop := ∃ hash, verify path hash none = .ok ()

theorem isStorePath_of_verify (h : verify path hash wanted = .ok ()) : IsStorePath path := by
  obtain ⟨name, hsplit, -⟩ := verify_eq_ok_iff.1 h
  exact ⟨hash, verify_eq_ok_iff.2 ⟨name, hsplit, nofun⟩⟩

theorem isStorePath_iff : IsStorePath path ↔ (split? path.toList).isSome := by
  constructor
  · rintro ⟨hash, h⟩
    obtain ⟨name, hsplit, -⟩ := verify_eq_ok_iff.1 h
    rw [hsplit]
    rfl
  · intro h
    obtain ⟨⟨hash, name⟩, hsplit⟩ := Option.isSome_iff_exists.1 h
    refine ⟨String.ofList hash, verify_eq_ok_iff.2 ⟨name, ?_, nofun⟩⟩
    rw [hsplit, String.toList_ofList]

instance (path : String) : Decidable (IsStorePath path) := decidable_of_iff _ isStorePath_iff.symm

/-- Below the store directory an accepted path has one component, of the characters of names and
with a hyphen. -/
theorem exists_last_of_verify (h : verify path hash wanted = .ok ()) :
    ∃ last, path.toList = storeDir.toList ++ last ∧ '-' ∈ last
      ∧ ∀ c ∈ last, c ∈ nameCharacters := by
  obtain ⟨⟨-, hhash⟩, name, ⟨-, hname⟩, hpath, -⟩ := verify_eq_ok_iff_grammar.1 h
  have hdigits : base32Digits ⊆ nameCharacters := by decide
  refine ⟨hash.toList ++ '-' :: name.toList, ?_, by simp, ?_⟩
  · rw [hpath]
    simp [storeDir]
  · intro c hc
    rcases List.mem_append.1 hc with hc | hc
    · exact hdigits (hhash c hc)
    · rcases List.mem_cons.1 hc with rfl | hc
      · decide
      · exact hname c hc

theorem fields_storeDir_append {last : List Char} (h : '/' ∉ last) :
    Text.fields '/' (storeDir.toList ++ last) = [[], "nix".toList, "store".toList, last] := by
  have hparts : storeDir.toList ++ last
      = [] ++ '/' :: ("nix".toList ++ '/' :: ("store".toList ++ '/' :: last)) := rfl
  rw [hparts, Text.fields_append, Text.fields_append, Text.fields_append,
    Text.fields_eq_singleton h]
  rfl

theorem plain_of_verify (h : verify path hash wanted = .ok ()) :
    '\n' ∉ path.toList ∧ path.toList.count '/' = 3 ∧ "..".toList ∉ Text.fields '/' path.toList := by
  obtain ⟨last, hlist, hhyphen, hlast⟩ := exists_last_of_verify h
  have hslash : '/' ∉ last := by
    intro hmem
    exact absurd (hlast _ hmem) (by decide)
  have hfields : Text.fields '/' path.toList = [[], "nix".toList, "store".toList, last] := by
    rw [hlist, fields_storeDir_append hslash]
  refine ⟨?_, ?_, ?_⟩
  · intro hmem
    rw [hlist] at hmem
    rcases List.mem_append.1 hmem with hdir | hrest
    · exact absurd hdir (by decide)
    · exact absurd (hlast _ hrest) (by decide)
  · have hlength : (Text.fields '/' path.toList).length = path.toList.count '/' + 1 :=
      Text.length_fields _
    rw [hfields] at hlength
    simp only [List.length_cons, List.length_nil] at hlength
    omega
  · intro hmem
    rw [hfields] at hmem
    -- No component but the last could be this one, and the last holds a hyphen.
    have hdots : "..".toList = last := by simpa using hmem
    rw [← hdots] at hhyphen
    exact absurd hhyphen (by decide)

/-- Accepting a path is a matter of the grammar. A path is accepted exactly if the hash has 32
digits, and the path is the one of that hash and of a name, which is the wanted name if there is
one; otherwise it is reported as it is, with the hash. An accepted path has no line feed, no slash
besides three and no component `..`, and it is accepted for no other hash and no other name. -/
theorem verify_exact (path hash : String) (wanted : Option String) :
    (verify path hash wanted = .ok ()
        ↔ (hash.length = 32 ∧ ∀ c ∈ hash.toList, c ∈ "0123456789abcdfghijklmnpqrsvwxyz".toList)
          ∧ ∃ name, (name ≠ "" ∧ ∀ c ∈ name.toList,
              c ∈ "ABCDEFGHIJKLMNOPQRSTUVWXYZabcdefghijklmnopqrstuvwxyz0123456789+-._?=".toList)
            ∧ path = "/nix/store/" ++ hash ++ "-" ++ name ∧ ∀ w ∈ wanted, w = name)
      ∧ (∀ cause, verify path hash wanted = .error cause → cause = .invalidPath path hash)
      ∧ (verify path hash wanted = .ok () →
        ('\n' ∉ path.toList ∧ path.toList.count '/' = 3 ∧ "..".toList ∉ Text.fields '/' path.toList)
        ∧ ∀ otherHash otherWanted, verify path otherHash otherWanted = .ok () →
          otherHash = hash ∧ ∀ w ∈ wanted, ∀ w' ∈ otherWanted, w' = w) := by
  refine ⟨verify_eq_ok_iff_grammar, fun cause => verify_eq_error, fun haccepted => ?_⟩
  refine ⟨plain_of_verify haccepted, fun otherHash otherWanted hother => ?_⟩
  exact unique_of_verify haccepted hother

/-- A path whose name holds a hyphen is accepted for its hash only, and not for the part of the name
behind the hyphen. -/
theorem verify_exact_hyphens :
    verify "/nix/store/0c4ivwz36f5ya9k8bvb7m1d2f0pq9pdh-unzip-hello"
      "0c4ivwz36f5ya9k8bvb7m1d2f0pq9pdh" none = .ok ()
      ∧ verify "/nix/store/0c4ivwz36f5ya9k8bvb7m1d2f0pq9pdh-unzip-hello"
        "0c4ivwz36f5ya9k8bvb7m1d2f0pq9pdh"
          (some "hello")
        = .error (.invalidPath "/nix/store/0c4ivwz36f5ya9k8bvb7m1d2f0pq9pdh-unzip-hello"
          "0c4ivwz36f5ya9k8bvb7m1d2f0pq9pdh")
      ∧ ∀ other wanted,
        verify "/nix/store/0c4ivwz36f5ya9k8bvb7m1d2f0pq9pdh-unzip-hello" other wanted = .ok () →
        other = "0c4ivwz36f5ya9k8bvb7m1d2f0pq9pdh" := by
  obtain ⟨haccepts, -, honly⟩ :=
    verify_exact "/nix/store/0c4ivwz36f5ya9k8bvb7m1d2f0pq9pdh-unzip-hello"
    "0c4ivwz36f5ya9k8bvb7m1d2f0pq9pdh" none
  obtain ⟨hrefuses, hreports, -⟩ :=
    verify_exact "/nix/store/0c4ivwz36f5ya9k8bvb7m1d2f0pq9pdh-unzip-hello"
    "0c4ivwz36f5ya9k8bvb7m1d2f0pq9pdh" (some "hello")
  have hhash := (isHash_iff "0c4ivwz36f5ya9k8bvb7m1d2f0pq9pdh").1 (by decide)
  have hname := (isName_iff "unzip-hello").1 (by decide)
  have hpath := haccepts.2 ⟨hhash, "unzip-hello", hname, by decide, nofun⟩
  refine ⟨hpath, ?_, fun other wanted hother => ((honly hpath).2 other wanted hother).1⟩
  cases hnamed : verify "/nix/store/0c4ivwz36f5ya9k8bvb7m1d2f0pq9pdh-unzip-hello"
      "0c4ivwz36f5ya9k8bvb7m1d2f0pq9pdh" (some "hello") with
  | error cause => rw [hreports cause hnamed]
  | ok accepted =>
    -- The path would have to be the one with this name.
    obtain ⟨-, name, -, hwritten, hsame⟩ := hrefuses.1 hnamed
    rw [← hsame "hello" rfl] at hwritten
    exact absurd hwritten (by decide)

end Verify

end Pinning.Store
