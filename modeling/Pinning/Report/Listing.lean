import Pinning.Package
/-!
The listing of resolutions for people. Each package has a block of its own; its store paths stand in
one column, as wide as the longest platform in bytes, with the platforms filled up in characters.
-/

set_option autoImplicit false
set_option relaxedAutoImplicit false

namespace Pinning.Report.Listing

def line (parts : List String) : String := String.join parts ++ "\n"

def columnWidth (platforms : List String) : Nat :=
  platforms.foldl (fun width platform => max width platform.utf8ByteSize) 0

def fillUp (width : Nat) (s : String) : String :=
  s ++ String.ofList (List.replicate (width - s.length) ' ')

def systemLine (width : Nat) (entry : String × String) : String :=
  line ["      ", fillUp width entry.1, "  ", entry.2]

def systemLines (systems : SortedMap String) : List String :=
  if systems.isEmpty then [line ["    systems:       (none verified)"]]
  else line ["    systems:"] :: systems.entries.map (systemLine (columnWidth systems.keys))

def block (r : Resolution) : List String :=
  [line ["  ", r.spec], line ["    version:       ", r.package.version],
    line ["    resolved:      ", r.package.resolved]]
  ++ (r.package.lastModified.map fun text => line ["    last modified: ", text]).toList
  ++ (r.package.source.map fun source => line ["    source:        ", source.name]).toList
  ++ systemLines r.package.systems
  ++ [line []]

def render (resolutions : List Resolution) : String :=
  if resolutions.isEmpty then String.join [line [], line ["  Nothing resolved."], line []]
  else String.join (line [] :: resolutions.flatMap block)

end Pinning.Report.Listing
