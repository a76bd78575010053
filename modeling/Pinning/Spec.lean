import Pinning.Text.Blank
import Pinning.Text.Split
/-!
Package specs as a user types them, `name@version`. The last `@` of the trimmed text delimits the
version, because package names contain `@` themselves; an `@` at the very beginning belongs to the
name, and an empty version is no version.
-/

set_option autoImplicit false
set_option relaxedAutoImplicit false

namespace Pinning

/-- A package spec: the name, the version if one is given, and the trimmed text itself. -/
structure Spec where
  name : String
  version : Option String
  raw : String
  deriving DecidableEq

namespace Spec

/-- The beginning of the specs that name a released binary and not a package of the search service.
-/
def releaseScheme : String := "runx:"

def divide (cs : List Char) : List Char × Option (List Char) :=
  match Text.cutLast? '@' cs with
  | some (before, behind) =>
    if before.isEmpty then (cs, none)
    else (before, if behind.isEmpty then none else some behind)
  | none => (cs, none)

/-- Read a spec. Every text is one. -/
def parse (written : String) : Spec :=
  let cs := Text.trim written.toList
  let (name, version) := divide cs
  { name := String.ofList name, version := version.map String.ofList, raw := String.ofList cs }

def isRelease (spec : Spec) : Bool :=
  (Text.after? releaseScheme.toList spec.raw.toList).isSome

/-- A version behind the last `@`. -/
example : divide "a@b@1".toList = ("a@b".toList, some ['1']) := by decide +kernel

/-- No version: the only `@` begins the name, or nothing follows it. -/
example : divide "@scope".toList = ("@scope".toList, none)
    ∧ divide "hello@".toList = ("hello".toList, none) := by decide +kernel

end Spec

end Pinning
