import Pinning.Store.Error
import Pinning.Text.Split
/-!
Store paths, `/nix/store/<hash>-<name>`, with a hash of 32 base-32 digits and a non-empty name over
letters, digits and `+ - . _ ? =`. A path is accepted for a hash, and for a name if one is wanted,
only as a whole: `verify` compares the two halves that the grammar yields.
-/

set_option autoImplicit false
set_option relaxedAutoImplicit false

namespace Pinning.Store

/-- A digit of the base-32 notation of hashes: the digits, and the letters without `e o t u`. -/
def isBase32 (c : Char) : Bool :=
  ('0' ≤ c && c ≤ '9')
    || ('a' ≤ c && c ≤ 'z' && c != 'e' && c != 'o' && c != 't' && c != 'u')

def isNameChar (c : Char) : Bool :=
  ('A' ≤ c && c ≤ 'Z') || ('a' ≤ c && c ≤ 'z') || ('0' ≤ c && c ≤ '9')
    || c == '+' || c == '-' || c == '.' || c == '_' || c == '?' || c == '='

def hashLength : Nat := 32

def isHash (cs : List Char) : Bool := cs.length == hashLength && cs.all isBase32

def isName (cs : List Char) : Bool := !cs.isEmpty && cs.all isNameChar

def storeDir : String := "/nix/store/"

/-- The hash and the name of a store path. -/
def split? (path : List Char) : Option (List Char × List Char) := do
  let rest ← Text.after? storeDir.toList path
  let hash := rest.take hashLength
  match rest.drop hashLength with
  | '-' :: name => if isHash hash && isName name then some (hash, name) else none
  | _ => none

def join (hash name : List Char) : List Char := storeDir.toList ++ hash ++ '-' :: name

/-- Accept a path for a hash, and for a name if one is given. -/
def verify (path hash : String) (name : Option String) : Except Error Unit :=
  match split? path.toList with
  | some (h, n) =>
    if h = hash.toList ∧ (∀ wanted ∈ name, n = wanted.toList) then .ok ()
    else .error (.invalidPath path hash)
  | none => .error (.invalidPath path hash)

theorem eq_join_of_split? {path hash name : List Char} (h : split? path = some (hash, name)) :
    path = join hash name ∧ isHash hash = true ∧ isName name = true := by
  simp only [split?, Option.bind_eq_bind, Option.bind_eq_some_iff] at h
  obtain ⟨rest, hafter, h⟩ := h
  split at h
  · next n hdrop =>
    split at h
    · next hok =>
      obtain ⟨rfl, rfl⟩ := by simpa using h
      obtain ⟨hhash, hname⟩ := by simpa using hok
      refine ⟨?_, hhash, hname⟩
      rw [Text.eq_of_after? hafter, join, ← hdrop, List.append_assoc, List.take_append_drop]
    · simp at h
  · simp at h

theorem split?_join {hash name : List Char} (hhash : isHash hash = true)
    (hname : isName name = true) : split? (join hash name) = some (hash, name) := by
  have hlen : hash.length = hashLength := by
    simp only [isHash, Bool.and_eq_true, beq_iff_eq] at hhash
    exact hhash.1
  have htake : (hash ++ '-' :: name).take hashLength = hash := by
    rw [← hlen]; simp
  have hdrop : (hash ++ '-' :: name).drop hashLength = '-' :: name := by
    rw [← hlen]; simp
  simp [split?, join, List.append_assoc, Text.after?_append, htake, hdrop, hhash, hname]

end Pinning.Store
