import Pinning.Proofs.Maps
import Pinning.Proofs.Text
import Pinning.Report.Listing
/-!
The listing for people, line by line. A package has the lines that it has without store paths, with
a table in the place of the note that there are none. In the table each platform has one line, and
all store paths begin in one column, whatever characters the platforms are made of.
-/

set_option autoImplicit false
set_option relaxedAutoImplicit false

namespace Pinning.Report.Listing

open Text (fields)

/-- The lines of a text. The line feed at its end begins none. -/
def linesOf (text : String) : List (List Char) := (fields '\n' text.toList).dropLast

def IsEnded (text : String) : Prop := ∃ body, text.toList = body ++ ['\n']

section Lines

variable {text : String} {body : List Char}

theorem linesOf_of_ended (h : text.toList = body ++ ['\n']) : linesOf text = fields '\n' body := by
  rw [linesOf, h, Text.fields_append, fields, List.dropLast_concat]

theorem IsEnded.fields_eq (h : IsEnded text) : fields '\n' text.toList = linesOf text ++ [[]] := by
  obtain ⟨body, hbody⟩ := h
  rw [linesOf_of_ended hbody, hbody, Text.fields_append, fields]

theorem isEnded_join {texts : List String} (hne : texts ≠ []) (h : ∀ text ∈ texts, IsEnded text) :
    IsEnded (String.join texts) := by
  obtain ⟨front, last, rfl⟩ := List.eq_nil_or_concat texts |>.resolve_left hne
  obtain ⟨body, hbody⟩ := h last (by simp)
  exact ⟨front.flatMap String.toList ++ body, by simp [hbody]⟩

theorem linesOf_join {texts : List String} (h : ∀ text ∈ texts, IsEnded text) :
    linesOf (String.join texts) = texts.flatMap linesOf := by
  induction texts with
  | nil => rfl
  | cons first rest ih =>
    obtain ⟨body, hbody⟩ := h first List.mem_cons_self
    have hrest := ih fun text htext => h text (List.mem_cons_of_mem first htext)
    have htext : (String.join (first :: rest)).toList
        = body ++ '\n' :: (String.join rest).toList := by
      simp [hbody]
    rw [List.flatMap_cons, ← hrest, linesOf_of_ended hbody, linesOf, htext, Text.fields_append,
      List.dropLast_append_of_ne_nil (Text.fields_ne_nil _ _), linesOf]

theorem toList_line (parts : List String) :
    (line parts).toList = parts.flatMap String.toList ++ ['\n'] := by
  simp [line]

theorem isEnded_line (parts : List String) : IsEnded (line parts) := ⟨_, toList_line parts⟩

theorem linesOf_line {parts : List String} (h : ∀ part ∈ parts, '\n' ∉ part.toList) :
    linesOf (line parts) = [parts.flatMap String.toList] := by
  rw [linesOf_of_ended (toList_line parts)]
  apply Text.fields_eq_singleton
  intro hmem
  obtain ⟨part, hpart, hfeed⟩ := List.mem_flatMap.1 hmem
  exact h part hpart hfeed

end Lines

section Blocks

def heading (r : Resolution) : List String :=
  [line ["  ", r.spec], line ["    version:       ", r.package.version],
    line ["    resolved:      ", r.package.resolved]]
  ++ (r.package.lastModified.map fun text => line ["    last modified: ", text]).toList
  ++ (r.package.source.map fun source => line ["    source:        ", source.name]).toList

theorem block_eq (r : Resolution) :
    block r = heading r ++ systemLines r.package.systems ++ [line []] := rfl

theorem isEnded_of_mem_heading {r : Resolution} {text : String} (h : text ∈ heading r) :
    IsEnded text := by
  simp only [heading, List.mem_append, List.mem_cons, List.not_mem_nil, or_false, Option.mem_toList,
    Option.map_eq_some_iff] at h
  rcases h with ((rfl | rfl | rfl) | ⟨_, -, rfl⟩) | ⟨_, -, rfl⟩ <;> exact isEnded_line _

theorem isEnded_of_mem_systemLines {systems : SortedMap String} {text : String}
    (h : text ∈ systemLines systems) :
    IsEnded text := by
  rw [systemLines] at h
  split at h
  · rw [List.mem_singleton.1 h]
    exact isEnded_line _
  · rcases List.mem_cons.1 h with rfl | hentry
    · exact isEnded_line _
    · obtain ⟨entry, -, rfl⟩ := List.mem_map.1 hentry
      exact isEnded_line _

theorem isEnded_of_mem_block {r : Resolution} {text : String} (h : text ∈ block r) :
    IsEnded text := by
  rw [block_eq] at h
  rcases List.mem_append.1 h with h | h
  · rcases List.mem_append.1 h with h | h
    · exact isEnded_of_mem_heading h
    · exact isEnded_of_mem_systemLines h
  · rw [List.mem_singleton.1 h]
    exact isEnded_line []

def blockLines (r : Resolution) : List (List Char) := linesOf (String.join (block r))

theorem blockLines_eq (r : Resolution) :
    blockLines r = (heading r).flatMap linesOf ++ (systemLines r.package.systems).flatMap linesOf
      ++ [[]] := by
  have hempty : linesOf (line []) = [[]] := linesOf_line (by simp)
  rw [blockLines, linesOf_join fun text => isEnded_of_mem_block, block_eq, List.flatMap_append,
    List.flatMap_append,
    List.flatMap_singleton, hempty]

theorem fields_render {resolutions : List Resolution} (h : resolutions ≠ []) :
    fields '\n' (render resolutions).toList = [] :: resolutions.flatMap blockLines ++ [[]] := by
  have hempty : linesOf (line []) = [[]] := linesOf_line (by simp)
  have hended : ∀ text ∈ line [] :: resolutions.flatMap block, IsEnded text := by
    intro text htext
    rcases List.mem_cons.1 htext with rfl | htext
    · exact isEnded_line []
    · obtain ⟨r, -, hr⟩ := List.mem_flatMap.1 htext
      exact isEnded_of_mem_block hr
  have hblock : ∀ r, (block r).flatMap linesOf = blockLines r := fun r =>
    (linesOf_join fun text => isEnded_of_mem_block).symm
  have hfilled : resolutions.isEmpty = false := by simpa using h
  rw [render, hfilled, if_neg Bool.false_ne_true,
    (isEnded_join (List.cons_ne_nil _ _) hended).fields_eq, linesOf_join hended, List.flatMap_cons,
    hempty, List.flatMap_assoc]
  simp only [hblock, List.singleton_append]

end Blocks

section Columns

theorem utf8ByteSize_le_columnWidth {platforms : List String} {platform : String}
    (h : platform ∈ platforms) :
    platform.utf8ByteSize ≤ columnWidth platforms := by
  have hfold : ∀ (platforms : List String) (start : Nat), start ≤
      platforms.foldl (fun width platform => max width platform.utf8ByteSize) start
      ∧ ∀ platform ∈ platforms, platform.utf8ByteSize ≤
        platforms.foldl (fun width platform => max width platform.utf8ByteSize) start := by
    intro platforms
    induction platforms with
    | nil => simp
    | cons first rest ih =>
      intro start
      obtain ⟨hstart, hrest⟩ := ih (max start first.utf8ByteSize)
      rw [List.foldl_cons]
      refine ⟨by omega, ?_⟩
      intro platform hplatform
      rcases List.mem_cons.1 hplatform with rfl | hplatform
      · omega
      · exact hrest platform hplatform
  exact (hfold platforms 0).2 platform h

theorem toList_fillUp (width : Nat) (s : String) :
    (fillUp width s).toList = s.toList ++ List.replicate (width - s.length) ' ' := by
  rw [fillUp, String.toList_append, String.toList_ofList]

/-- The line shows a platform behind an indent, and its store path from a column on that is two
blanks or more away. -/
structure Shows (column : Nat) (entry : String × String) (shown : List Char) : Prop where
  platform : ∃ gap, 2 ≤ gap ∧ column = 6 + entry.1.length + gap
    ∧ shown.take column = List.replicate 6 ' ' ++ entry.1.toList ++ List.replicate gap ' '
  path : shown.drop column = entry.2.toList

/-- A platform that is no longer than the width is filled up to it, so that its store path begins
behind it. -/
theorem shows_systemLine {width : Nat} {entry : String × String} (h : entry.1.length ≤ width) :
    Shows (6 + width + 2) entry
      (["      ", fillUp width entry.1, "  ", entry.2].flatMap String.toList) := by
  let gap := width - entry.1.length + 2
  let front := List.replicate 6 ' ' ++ entry.1.toList ++ List.replicate gap ' '
  have hlength : front.length = 6 + width + 2 := by
    simp only [front, gap, List.length_append, List.length_replicate, String.length_toList]
    omega
  have hshown : ["      ", fillUp width entry.1, "  ", entry.2].flatMap String.toList
      = front ++ entry.2.toList := by
    simp [front, gap, toList_fillUp, List.replicate_add]
  rw [hshown]
  refine ⟨⟨gap, by omega, by omega, ?_⟩, ?_⟩
  · rw [← hlength, List.take_left]
  · rw [← hlength, List.drop_left]

end Columns

section Table

variable {resolutions : List Resolution} {r : Resolution}

def bare (r : Resolution) : Resolution := { r with package := { r.package with systems := ∅ } }

theorem blockLines_bare (r : Resolution) :
    blockLines (bare r) = (heading r).flatMap linesOf
      ++ ["    systems:       (none verified)".toList, []] := by
  have hnone : (systemLines ∅).flatMap linesOf = ["    systems:       (none verified)".toList] := by
    decide +kernel
  have hheading : heading (bare r) = heading r := rfl
  have hsystems : (bare r).package.systems = ∅ := rfl
  rw [blockLines_eq, hheading, hsystems, hnone, List.append_assoc]
  rfl

theorem blockLines_of_systems (hfilled : r.package.systems.isEmpty = false)
    (hunbroken : ∀ entry ∈ r.package.systems.entries, '\n' ∉ entry.1.toList
      ∧ '\n' ∉ entry.2.toList) :
    ∃ column table, blockLines r
      = (heading r).flatMap linesOf ++ "    systems:".toList :: table ++ [[]]
      ∧ List.Forall₂ (Shows column) r.package.systems.entries table := by
  let width := columnWidth r.package.systems.keys
  let shown := fun entry : String × String =>
    ["      ", fillUp width entry.1, "  ", entry.2].flatMap String.toList
  have hline : ∀ entry ∈ r.package.systems.entries,
      linesOf (systemLine width entry) = [shown entry] := by
    intro entry hentry
    obtain ⟨hplatform, hpath⟩ := hunbroken entry hentry
    apply linesOf_line
    simp [toList_fillUp, hplatform, hpath]
  have hwidth : ∀ entry ∈ r.package.systems.entries, entry.1.length ≤ width := by
    intro entry hentry
    have hkey : entry.1 ∈ r.package.systems.keys := List.mem_map_of_mem hentry
    exact Nat.le_trans (Text.length_le_utf8ByteSize entry.1) (utf8ByteSize_le_columnWidth hkey)
  have hheader : linesOf (line ["    systems:"]) = ["    systems:".toList] := by decide +kernel
  have hlines : (systemLines r.package.systems).flatMap linesOf
      = "    systems:".toList :: r.package.systems.entries.map shown := by
    rw [systemLines, hfilled, if_neg Bool.false_ne_true, List.flatMap_cons, hheader,
      List.flatMap_map, List.flatMap_congr hline, ← List.map_eq_flatMap, List.singleton_append]
  refine ⟨6 + width + 2, r.package.systems.entries.map shown, ?_, ?_⟩
  · rw [blockLines_eq, hlines]
  · rw [List.forall₂_map_right_iff, List.forall₂_same]
    intro entry hentry
    exact shows_systemLine (hwidth entry hentry)

/-- The table of store paths is aligned and complete. The listing is one empty line and then the
lines on each package. A package whose platforms and store paths are unbroken has the lines that it
has without store paths, but for the last one, and then one line for each of its platforms, in code
point order; in all of these the store path begins in the same column, and at least two blanks stand
in front of it. -/
theorem table_aligned (hmem : r ∈ resolutions) (hfilled : r.package.systems.isEmpty = false)
    (hunbroken : ∀ platform path, r.package.systems.get? platform = some path →
      '\n' ∉ platform.toList ∧ '\n' ∉ path.toList) :
    fields '\n' (render resolutions).toList = [] :: resolutions.flatMap blockLines ++ [[]]
      ∧ ∃ head listed table column, blockLines r = head ++ "    systems:".toList :: table ++ [[]]
        ∧ blockLines (bare r) = head ++ ["    systems:       (none verified)".toList, []]
        ∧ (∀ platform path, (platform, path) ∈ listed ↔ r.package.systems.get? platform = some path)
        ∧ listed.Pairwise (fun a b => a.1 < b.1)
        ∧ List.Forall₂ (Shows column) listed table := by
  have hentries : ∀ entry ∈ r.package.systems.entries, '\n' ∉ entry.1.toList
      ∧ '\n' ∉ entry.2.toList := by
    intro entry hentry
    exact hunbroken entry.1 entry.2 (r.package.systems.get?_eq_some_iff.2 hentry)
  obtain ⟨column, table, hblock, haligned⟩ := blockLines_of_systems hfilled hentries
  refine ⟨fields_render (List.ne_nil_of_mem hmem), _, r.package.systems.entries, table, column,
    hblock, blockLines_bare r, ?_, r.package.systems.ascending, haligned⟩
  intro platform path
  exact r.package.systems.get?_eq_some_iff.symm

/-- A package for two platforms; the one with fewer characters has more bytes. -/
def twoScripts : Resolution where
  spec := "n@1"
  package := {
    version := "1"
    resolved := "path:n"
    lastModified := none
    source := none
    systems := SortedMap.ofList
      [("линукс-64", "/nix/store/b-n"), ("x86_64-linux", "/nix/store/a-n")] }

example : render [twoScripts]
    = "\n  n@1\n    version:       1\n    resolved:      path:n\n    systems:\n"
      ++ "      x86_64-linux     /nix/store/a-n\n"
      ++ "      линукс-64        /nix/store/b-n\n\n" := by decide +kernel

theorem table_aligned_twoScripts :
    fields '\n' (render [twoScripts, bare twoScripts]).toList
        = [] :: (blockLines twoScripts ++ blockLines (bare twoScripts)) ++ [[]]
      ∧ ∃ head listed table column,
        blockLines twoScripts = head ++ "    systems:".toList :: table ++ [[]]
        ∧ ("x86_64-linux", "/nix/store/a-n") ∈ listed ∧ ("линукс-64", "/nix/store/b-n") ∈ listed
        ∧ List.Forall₂ (Shows column) listed table := by
  have hentries : ∀ entry ∈ twoScripts.package.systems.entries, '\n' ∉ entry.1.toList
      ∧ '\n' ∉ entry.2.toList := by
    decide +kernel
  have hunbroken : ∀ platform path, twoScripts.package.systems.get? platform = some path →
      '\n' ∉ platform.toList ∧ '\n' ∉ path.toList := by
    intro platform path hpath
    exact hentries (platform, path) (twoScripts.package.systems.get?_eq_some_iff.1 hpath)
  have hmem : twoScripts ∈ [twoScripts, bare twoScripts] := List.mem_cons_self
  have hfilled : twoScripts.package.systems.isEmpty = false := by decide +kernel
  obtain ⟨hrender, head, listed, table, column, hblock, -, hlisted, -, haligned⟩ :=
    table_aligned hmem hfilled hunbroken
  refine ⟨by simpa using hrender, head, listed, table, column, hblock, ?_, ?_, haligned⟩
  · exact (hlisted _ _).2 (by decide +kernel)
  · exact (hlisted _ _).2 (by decide +kernel)

end Table

end Pinning.Report.Listing
