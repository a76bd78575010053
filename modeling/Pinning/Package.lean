import Pinning.SortedMap
/-!
Pinned packages, in the shape that a lock file holds them.
-/

set_option autoImplicit false
set_option relaxedAutoImplicit false

namespace Pinning

inductive Source
  | remoteSearch
  deriving DecidableEq

def Source.name : Source → String
  | .remoteSearch => "remote-search"

structure Package where
  version : String
  /-- What an installer takes: a flake installable or a reference to a released binary. -/
  resolved : String
  lastModified : Option String
  source : Option Source
  systems : SortedMap String
  deriving DecidableEq

def Package.storePath? (p : Package) (platform : String) : Option String := p.systems.get? platform

/-- A spec as it was asked for, and the package it is pinned to. -/
structure Resolution where
  spec : String
  package : Package
  deriving DecidableEq

end Pinning
