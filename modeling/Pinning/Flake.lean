/-!
Flake references and installables. A reference names a source of packages by its kind and by the
fields that matter for that kind; an installable adds the attribute path of one package in it.
-/

set_option autoImplicit false
set_option relaxedAutoImplicit false

namespace Pinning.Flake

/-- A reference to a source of packages. A field that does not apply is empty. -/
structure Ref where
  kind : String
  id : String := ""
  owner : String := ""
  repo : String := ""
  rev : String := ""
  gitRef : String := ""
  dir : String := ""
  path : String := ""
  url : String := ""
  deriving DecidableEq

namespace Ref

def nixpkgs (rev : String) : Ref :=
  { kind := "github", owner := "NixOS", repo := "nixpkgs", rev }

/-- The kinds whose source is a repository of an owner on a forge. -/
def isForge (kind : String) : Bool := kind == "github" || kind == "gitlab" || kind == "sourcehut"

/-- A slash and the text, or nothing for the empty text. -/
def segment (s : String) : String := if s = "" then "" else "/" ++ s

def source (r : Ref) : String :=
  if isForge r.kind then
    r.kind ++ ":" ++ r.owner ++ "/" ++ r.repo ++ segment (if r.rev = "" then r.gitRef else r.rev)
  else if r.kind = "indirect" then "flake:" ++ r.id ++ segment r.gitRef ++ segment r.rev
  else if r.kind = "path" then "path:" ++ r.path
  else if (r.kind ++ "+").toList <+: r.url.toList then r.url
  else r.kind ++ "+" ++ r.url

def render (r : Ref) : String := r.source ++ if r.dir = "" then "" else "?dir=" ++ r.dir

end Ref

structure Installable where
  ref : Ref
  attrPath : String
  deriving DecidableEq

def Installable.render (i : Installable) : String :=
  if i.attrPath = "" then i.ref.render else i.ref.render ++ "#" ++ i.attrPath

example : Installable.render ⟨.nixpkgs "abc", "hello"⟩ = "github:NixOS/nixpkgs/abc#hello" := by
  decide +kernel
example : Ref.render { kind := "git", url := "git+ssh://h", dir := "d" } = "git+ssh://h?dir=d" := by
  decide +kernel

end Pinning.Flake
