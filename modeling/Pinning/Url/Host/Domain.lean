import Pinning.Text.Composed
import Pinning.Url.Host.Domain.Direction
import Pinning.Url.Host.Domain.Joining
import Pinning.Url.Host.Domain.Mapping
import Pinning.Url.Host.Domain.Mark
import Pinning.Url.Host.Punycode
/-!
Domain names of URLs. A name is brought into one form, so that names that mean the same are equal,
and written in ASCII: a label with other characters stands in Punycode behind `xn--`.
-/

set_option autoImplicit false
set_option relaxedAutoImplicit false

namespace Pinning.Url.Domain

def isForbidden (c : Char) : Bool :=
  c.toNat ≤ 0x20 || c.toNat == 0x7F || "%#/:<>?@[\\]^|".toList.contains c

def isAscii (c : Char) : Bool := c.toNat < 0x80

def replacement? (c : Char) : Option (List Char) :=
  if isAscii c then some [c.toLower] else (replace? c.toNat).map (·.map Char.ofNat)

def composed (cs : List Char) : List Char :=
  if cs.all isAscii then cs else (Text.composed (cs.map Char.toNat)).map Char.ofNat

def normal? (cs : List Char) : Option (List Char) := do
  let normal := composed (← cs.mapM replacement?).flatten
  if normal.any isForbidden then none else some normal

def isNormal (cs : List Char) : Bool := normal? cs == some cs

def codedStart : List Char := "xn--".toList

/-- A label in plain characters; one in Punycode has to be needed and to stand for a label in its
one form. -/
def plainLabel? (label : List Char) : Option (List Char) :=
  match Text.after? codedStart label with
  | none => some label
  | some coded => do
    let plain ← Punycode.decode? coded
    if !plain.all isAscii && isNormal plain then some plain else none

/-- A label with other characters than those of ASCII begins and joins as it should. -/
def isWellFormed (label : List Char) : Bool :=
  let ns := label.map Char.toNat
  label.all isAscii || (!ns.head?.any marks.contains && joinersStand [] ns)

def asciiLabel (label : List Char) : List Char :=
  if label.all isAscii then label else codedStart ++ Punycode.encode label

def areWellFormed (labels : List (List Char)) : Bool :=
  labels.all (·.all isAscii)
    || (labels.all isWellFormed && areDirected (labels.map (·.map Char.toNat)))

def toAscii? (cs : List Char) : Option (List Char) := do
  let labels ← (Text.fields '.' (← normal? cs)).mapM plainLabel?
  if areWellFormed labels then some (['.'].intercalate (labels.map asciiLabel)) else none

example : toAscii? "Example.TEST".toList = some "example.test".toList := by decide +kernel

end Pinning.Url.Domain
