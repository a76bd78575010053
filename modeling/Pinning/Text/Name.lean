/-!
Names that may be written in any case. A name of a choice is ASCII, and a written name means it if
their lower-case forms agree. Outside ASCII one character alone has an ASCII lower-case form: the
Kelvin sign, whose lower case is `k`.
-/

set_option autoImplicit false
set_option relaxedAutoImplicit false

namespace Pinning.Text

def lowerAscii (c : Char) : Char :=
  if c = Char.ofNat 0x212A then 'k' else c.toLower

def means (written : String) (name : String) : Bool :=
  written.toList.map lowerAscii == name.toList

/-- Case does not matter. -/
example : means "LeGacy" "legacy" = true := by decide +kernel

/-- Letters outside ASCII do not stand in for ASCII ones. -/
example : means "légacy" "legacy" = false := by decide +kernel

end Pinning.Text
