import Pinning.Flake
/-!
What the written form of a reference or an installable tells. An installable from the package
collection leaves an empty commit or attribute path out together with its separator, so the form
names both exactly if neither is empty. A reference tells its revision if its source is a repository
on a forge or an entry of the registry; all other kinds are written without any.
-/

set_option autoImplicit false
set_option relaxedAutoImplicit false

namespace Pinning.Flake

theorem Ref.segment_of_ne {s : String} (h : s ≠ "") : segment s = "/" ++ s := if_neg h

theorem Ref.render_nixpkgs (commit : String) :
    (nixpkgs commit).render = "github:NixOS/nixpkgs" ++ segment commit := by
  have hforge : isForge "github" = true := rfl
  by_cases hcommit : commit = ""
  · subst hcommit
    rfl
  · simp [render, source, nixpkgs, hforge, hcommit, segment_of_ne hcommit]

private theorem length_part_le (separator part : String) :
    (if part = "" then "" else separator ++ part).length ≤ separator.length + part.length := by
  split
  · exact Nat.zero_le _
  · exact Nat.le_of_eq (String.length_append ..)

namespace Installable

theorem render_nixpkgs (commit attrPath : String) :
    render ⟨.nixpkgs commit, attrPath⟩
      = "github:NixOS/nixpkgs" ++ Ref.segment commit
        ++ (if attrPath = "" then "" else "#" ++ attrPath) := by
  rw [render, Ref.render_nixpkgs]
  split
  · rw [String.append_empty]
  · rw [String.append_assoc]

theorem render_nixpkgs_eq_iff (commit attrPath : String) :
    render ⟨.nixpkgs commit, attrPath⟩ = "github:NixOS/nixpkgs/" ++ commit ++ "#" ++ attrPath
      ↔ commit ≠ "" ∧ attrPath ≠ "" := by
  rw [render_nixpkgs]
  constructor
  · intro h
    -- An empty part takes its separator along, so the left side would be shorter than the right
    -- one.
    have hlength := congrArg String.length h
    have hroot : "github:NixOS/nixpkgs/".length = "github:NixOS/nixpkgs".length + 1 := by decide
    have hslash : "/".length = 1 := by decide
    have hhash : "#".length = 1 := by decide
    have hempty : "".length = 0 := rfl
    have hsegment : (Ref.segment commit).length ≤ "/".length + commit.length :=
      length_part_le "/" commit
    have hfragment := length_part_le "#" attrPath
    simp only [String.length_append, hroot, hslash, hhash] at hlength hsegment hfragment
    constructor
    · rintro rfl
      have hnone : (Ref.segment "").length = 0 := rfl
      omega
    · rintro rfl
      have hnone : (if "" = "" then "" else "#" ++ "").length = 0 := rfl
      omega
  · rintro ⟨hcommit, hattrPath⟩
    rw [Ref.segment_of_ne hcommit, if_neg hattrPath]
    simp only [← String.append_assoc]
    rfl

end Installable

section Revision

namespace Ref

/-- The kinds whose written form has a place for the revision. -/
def showsRev (kind : String) : Bool := isForge kind || kind == "indirect"

def atRev (r : Ref) (rev : String) : Ref := { r with rev }

/-- The same source without anything that says which revision is meant. -/
def unpinned (r : Ref) : Ref := { r with rev := "", gitRef := "" }

variable {r : Ref} {rev other : String}

private theorem source_of_forge (h : isForge r.kind = true) :
    r.source = r.kind ++ ":" ++ r.owner ++ "/" ++ r.repo
      ++ segment (if r.rev = "" then r.gitRef else r.rev) :=
  if_pos h

private theorem source_of_indirect (h : r.kind = "indirect") :
    r.source = "flake:" ++ r.id ++ segment r.gitRef ++ segment r.rev := by
  have hforge : ¬ isForge r.kind = true := by
    rw [h]
    decide
  rw [source, if_neg hforge, if_pos h]

theorem source_of_other (h : showsRev r.kind = false) :
    r.source = if r.kind = "path" then "path:" ++ r.path
      else if (r.kind ++ "+").toList <+: r.url.toList then r.url else r.kind ++ "+" ++ r.url := by
  obtain ⟨hforge, hindirect⟩ := Bool.or_eq_false_iff.1 h
  have hkind : r.kind ≠ "indirect" := beq_eq_false_iff_ne.1 hindirect
  rw [source, hforge, if_neg Bool.false_ne_true, if_neg hkind]

/-- A kind with a place for the revision is written with a slash and the revision at the end of the
source, behind a text that holds all of the source without a revision. -/
theorem exists_source_atRev (h : showsRev r.kind = true) :
    ∃ front, (∀ rev, rev ≠ "" → (r.atRev rev).source = front ++ ("/" ++ rev))
      ∧ r.unpinned.source.length ≤ front.length := by
  rcases Bool.or_eq_true_iff.1 h with hforge | hindirect
  · refine ⟨r.kind ++ ":" ++ r.owner ++ "/" ++ r.repo, ?_, ?_⟩
    · intro rev hrev
      have hsource : (r.atRev rev).source = r.kind ++ ":" ++ r.owner ++ "/" ++ r.repo
          ++ segment (if rev = "" then r.gitRef else rev) := source_of_forge hforge
      rw [hsource, if_neg hrev, segment_of_ne hrev]
    · have hsource : r.unpinned.source = r.kind ++ ":" ++ r.owner ++ "/" ++ r.repo ++ "" :=
        source_of_forge hforge
      exact Nat.le_of_eq (by rw [hsource, String.append_empty])
  · have hkind : r.kind = "indirect" := beq_iff_eq.1 hindirect
    refine ⟨"flake:" ++ r.id ++ segment r.gitRef, ?_, ?_⟩
    · intro rev hrev
      have hsource : (r.atRev rev).source = "flake:" ++ r.id ++ segment r.gitRef ++ segment rev :=
        source_of_indirect hkind
      rw [hsource, segment_of_ne hrev]
    · have hsource : r.unpinned.source = "flake:" ++ r.id ++ "" ++ "" := source_of_indirect hkind
      rw [hsource, String.append_empty, String.append_empty,
        String.length_append ("flake:" ++ r.id)]
      exact Nat.le_add_right _ _

theorem source_atRev (h : showsRev r.kind = false) (rev : String) :
    (r.atRev rev).source = r.unpinned.source := by
  have hrev : (r.atRev rev).source = _ := source_of_other h
  have hnone : r.unpinned.source = _ := source_of_other h
  rw [hrev, hnone]
  rfl

private theorem render_inj_iff {first second : Ref} (hdir : first.dir = second.dir) :
    first.render = second.render ↔ first.source = second.source := by
  rw [render, render, hdir]
  exact String.append_left_inj _

theorem render_atRev_ne_iff (r : Ref) (hrev : rev ≠ "") (hother : other ≠ "") (hne : rev ≠ other) :
    (r.atRev rev).render ≠ (r.atRev other).render ↔ showsRev r.kind = true := by
  have hdir : (r.atRev rev).dir = (r.atRev other).dir := rfl
  rw [ne_eq, render_inj_iff hdir]
  cases hshows : showsRev r.kind with
  | true =>
    obtain ⟨front, hfront, -⟩ := exists_source_atRev hshows
    rw [hfront rev hrev, hfront other hother, String.append_right_inj, String.append_right_inj]
    simpa using hne
  | false =>
    rw [source_atRev hshows rev, source_atRev hshows other]
    simp

theorem render_atRev_ne_unpinned_iff (r : Ref) (hrev : rev ≠ "") :
    (r.atRev rev).render ≠ r.unpinned.render ↔ showsRev r.kind = true := by
  have hdir : (r.atRev rev).dir = r.unpinned.dir := rfl
  rw [ne_eq, render_inj_iff hdir]
  cases hshows : showsRev r.kind with
  | true =>
    obtain ⟨front, hfront, hlength⟩ := exists_source_atRev hshows
    have hslash : "/".length = 1 := by decide
    have hlonger : r.unpinned.source.length < (r.atRev rev).source.length := by
      rw [hfront rev hrev, String.length_append, String.length_append, hslash]
      omega
    have hdifferent : (r.atRev rev).source ≠ r.unpinned.source := by
      intro heq
      rw [heq] at hlonger
      exact Nat.lt_irrefl _ hlonger
    simpa using hdifferent
  | false =>
    rw [source_atRev hshows rev]
    simp

end Ref

private theorem Installable.render_inj_iff {first second : Ref} (attrPath : String) :
    render ⟨first, attrPath⟩ = render ⟨second, attrPath⟩ ↔ first.render = second.render := by
  rw [render, render]
  split
  · exact Iff.rfl
  · rw [String.append_left_inj, String.append_left_inj]

/-- References to one source at two revisions are told apart by their written forms exactly if their
kind has a place for the revision, with an attribute path and without; and exactly then does the
form of a reference tell that there is a revision at all. -/
theorem tells_rev_iff (r : Ref) (attrPath : String) {rev other : String} (hrev : rev ≠ "")
    (hother : other ≠ "") (hne : rev ≠ other) :
    ((r.atRev rev).render ≠ (r.atRev other).render ↔ Ref.showsRev r.kind = true)
      ∧ (Installable.render ⟨r.atRev rev, attrPath⟩ ≠ Installable.render ⟨r.atRev other, attrPath⟩
        ↔ Ref.showsRev r.kind = true)
      ∧ ((r.atRev rev).render ≠ r.unpinned.render ↔ Ref.showsRev r.kind = true) := by
  have hforms := r.render_atRev_ne_iff hrev hother hne
  refine ⟨hforms, ?_, r.render_atRev_ne_unpinned_iff hrev⟩
  rw [ne_eq, Installable.render_inj_iff]
  exact hforms

theorem tells_rev_iff_forge :
    Ref.render { kind := "sourcehut", owner := "~a", repo := "b", rev := "c0ffee", dir := "d" }
        ≠ Ref.render
          { kind := "sourcehut", owner := "~a", repo := "b", rev := "facade", dir := "d" }
      ∧ Installable.render
        ⟨{ kind := "sourcehut", owner := "~a", repo := "b", rev := "c0ffee", dir := "d" }, "n"⟩
        ≠ Installable.render
          ⟨{ kind := "sourcehut", owner := "~a", repo := "b", rev := "facade", dir := "d" },
            "n"⟩ := by
  have hshows : Ref.showsRev "sourcehut" = true := by decide
  obtain ⟨hforms, hinstallables, -⟩ :=
    tells_rev_iff { kind := "sourcehut", owner := "~a", repo := "b", dir := "d" } "n"
      (by decide : "c0ffee" ≠ "") (by decide : "facade" ≠ "") (by decide)
  exact ⟨hforms.2 hshows, hinstallables.2 hshows⟩

/-- A repository that is named by its URL is written the same at two revisions. -/
theorem render_eq_of_urlRevs :
    ∃ (r : Ref) (rev other : String), rev ≠ "" ∧ other ≠ "" ∧ rev ≠ other
      ∧ (r.atRev rev).render = (r.atRev other).render :=
  ⟨{ kind := "git", url := "https://example.test/r" }, "c0ffee",
    "facade", by decide, by decide, by decide, by decide +kernel⟩

end Revision

end Pinning.Flake
