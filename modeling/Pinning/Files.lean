import Pinning.Error
import Pinning.SortedMap
import Pinning.Text.Split
/-!
The files that a program can reach from its working directory. A path is walked name by name, and
only a directory can be walked through. Reading and writing fail with the problem that an operating
system reports.
-/

set_option autoImplicit false
set_option relaxedAutoImplicit false

namespace Pinning

inductive Files.Entry
  | file (bytes : List UInt8)
  | directory
  deriving DecidableEq

/-- The entries by their paths, names with slashes between them. -/
structure Files where
  entries : SortedMap Files.Entry
  deriving DecidableEq

namespace Files

inductive Problem
  | missing
  | notDirectory
  | isDirectory
  | notText
  deriving DecidableEq

def Problem.message : Problem → String
  | .missing => "No such file or directory (os error 2)"
  | .notDirectory => "Not a directory (os error 20)"
  | .isDirectory => "Is a directory (os error 21)"
  | .notText => "stream did not contain valid UTF-8"

def Problem.error (problem : Problem) : Error := .io problem.message

/-- A place is reached by names, the last one first. The empty name leads to the root, and `..` to
what holds the working directory. -/
abbrev Place := List String

/-- The directories above the working directory, and the root, are always there. -/
def isAbove (place : Place) : Bool := place.all (· == "..") || place == [""]

def pathOf (place : Place) : String := "/".intercalate place.reverse

def at? (files : Files) (place : Place) : Option Entry :=
  if isAbove place then some .directory else files.entries.get? (pathOf place)

def step (place : Place) (name : String) : Place :=
  if name = "" ∨ name = "." then place
  else if name = ".." then
    if place = [""] then place
    else if place.all (· == "..") then ".." :: place
    else place.tail
  else name :: place

/-- Walk from a place through names, all but the last of which lead to directories. -/
def walk (files : Files) (place : Place) : List String → Except Problem Place
  | [] => .ok place
  | name :: rest =>
    match files.at? place with
    | none => .error .missing
    | some (.file _) => .error .notDirectory
    | some .directory => files.walk (step place name) rest

def route (path : String) : Place × List String :=
  let names := (Text.fields '/' path.toList).map String.ofList
  (if names.head? = some "" then [""] else [], names)

def placesOf (path : String) : List Place :=
  let (start, names) := route path
  names.scanl step start

def locate (files : Files) (path : String) : Except Problem Place :=
  let (start, names) := route path
  files.walk start names

def hasEntry (files : Files) (path : String) : Bool :=
  match files.locate path with
  | .ok place => (files.at? place).isSome
  | .error _ => false

def read (files : Files) (path : String) : Except Problem (List UInt8) := do
  match files.at? (← files.locate path) with
  | some (.file bytes) => .ok bytes
  | some .directory => .error .isDirectory
  | none => .error .missing

def write (files : Files) (path : String) (bytes : List UInt8) : Except Problem Files := do
  let place ← files.locate path
  match files.at? place with
  | some .directory => .error .isDirectory
  | _ => .ok ⟨files.entries.insert (pathOf place) (.file bytes)⟩

/-- Dots lead nowhere or up, and an absolute path starts at the root. -/
example : (placesOf "./a/../../b").map pathOf = ["", "", "a", "", "..", "../b"]
    ∧ (placesOf "/a").map pathOf = ["", "", "/a"] := by decide +kernel

end Files

end Pinning
