import Pinning.Files
/-!
A file that has been written is read back. Writing changes one entry, and the walk to it passes only
through directories, none of which is that entry.
-/

set_option autoImplicit false
set_option relaxedAutoImplicit false

namespace Pinning.Files

variable {files after : Files} {path : String} {bytes : List UInt8} {place : Place}

def put (files : Files) (place : Place) (bytes : List UInt8) : Files :=
  ⟨files.entries.insert (pathOf place) (.file bytes)⟩

theorem place_of_write (h : files.write path bytes = .ok after) :
    ∃ place, files.locate path = .ok place ∧ files.at? place ≠ some .directory
      ∧ after = files.put place bytes := by
  cases hlocate : files.locate path with
  | error problem => simp [write, hlocate, bind, Except.bind] at h
  | ok place =>
    simp only [write, hlocate, bind, Except.bind] at h
    split at h
    · cases h
    · next hplace => exact ⟨place, rfl, hplace, (Except.ok.inj h).symm⟩

theorem isAbove_of_not_directory (h : files.at? place ≠ some .directory) :
    isAbove place = false := by
  refine Bool.eq_false_iff.2 fun habove => h ?_
  rw [at?, if_pos habove]

theorem at?_put (h : files.at? place ≠ some .directory) :
    (files.put place bytes).at? place = some (.file bytes) := by
  rw [at?, isAbove_of_not_directory h, put, SortedMap.get?_insert]
  simp

theorem at?_put_directory (h : files.at? place ≠ some .directory) {other : Place}
    (hother : files.at? other = some .directory) :
    (files.put place bytes).at? other = some .directory := by
  by_cases habove : isAbove other
  · rw [at?, if_pos habove]
  · have hentry : files.entries.get? (pathOf other) = some .directory := by
      rwa [at?, if_neg habove] at hother
    -- The same path would lead to the directory at the place as well.
    have hne : pathOf other ≠ pathOf place := by
      intro heq
      refine h ?_
      rw [at?, isAbove_of_not_directory h, ← heq]
      exact hentry
    rw [at?, if_neg habove, put, SortedMap.get?_insert, if_neg hne]
    exact hentry

theorem walk_put (h : files.at? place ≠ some .directory) {start last : Place} {names : List String}
    (hwalk : files.walk start names = .ok last) :
    (files.put place bytes).walk start names = .ok last := by
  induction names generalizing start with
  | nil => exact hwalk
  | cons name rest ih =>
    rw [walk] at hwalk ⊢
    split at hwalk
    · cases hwalk
    · cases hwalk
    · next hstart =>
      rw [at?_put_directory h hstart]
      exact ih hwalk

theorem read_of_write (h : files.write path bytes = .ok after) : after.read path = .ok bytes := by
  obtain ⟨place, hlocate, hplace, rfl⟩ := place_of_write h
  have hlocate : (files.put place bytes).locate path = .ok place := walk_put hplace hlocate
  simp only [read, hlocate, at?_put hplace, bind, Except.bind]

end Pinning.Files
