import Pinning.RunX.Error
import Pinning.Spec
/-!
References to released binaries, `runx:owner/repo@version`. The last `@` delimits the version and
the first `/` the owner; neither part may be empty, and owner and repository hold no `/`.
-/

set_option autoImplicit false
set_option relaxedAutoImplicit false

namespace Pinning.RunX

/-- A released binary: whose it is, the repository, and a release tag or `latest`. -/
structure Reference where
  owner : String
  repo : String
  version : String
  deriving DecidableEq

namespace Reference

/-- Owner, repository and version of the text behind the scheme. -/
def divide? (cs : List Char) : Option (List Char × List Char × List Char) := do
  let (path, version) ← Text.cutLast? '@' cs
  let (owner, repo) ← Text.cutFirst? '/' path
  if owner.isEmpty || repo.isEmpty || repo.contains '/' || version.isEmpty then none
  else some (owner, repo, version)

def parse? (written : String) : Option Reference := do
  let cs ← Text.after? Spec.releaseScheme.toList written.toList
  let (owner, repo, version) ← divide? cs
  some {
    owner := String.ofList owner, repo := String.ofList repo, version := String.ofList version }

/-- Read a reference, or complain about the text. -/
def parse (written : String) : Except Error Reference :=
  match parse? written with
  | some r => .ok r
  | none => .error (.invalidReference written)

theorem parse_of_some {written : String} {r : Reference} (h : parse? written = some r) :
    parse written = .ok r := by
  rw [parse, h]

theorem parse_of_none {written : String} (h : parse? written = none) :
    parse written = .error (.invalidReference written) := by
  rw [parse, h]

def render (r : Reference) : String :=
  Spec.releaseScheme ++ r.owner ++ "/" ++ r.repo ++ "@" ++ r.version

def asksForLatest (r : Reference) : Bool := r.version == "latest"

def withVersion (r : Reference) (version : String) : Reference := { r with version }

/-- An `@` may stand in owner and repository, a `/` in the version. -/
example : divide? "a@x/b@c/d".toList = some ("a@x".toList, "b".toList, "c/d".toList) := by
  decide +kernel

/-- A second `/` in front of the version makes no reference. -/
example : divide? "a/b/c@1".toList = none := by decide +kernel

end Reference

end Pinning.RunX
