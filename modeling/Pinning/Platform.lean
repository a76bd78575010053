import Pinning.Error
import Pinning.PlatformMap
/-!
Picking the representative platform of a record: the host's entry, else the one of the fallback
platform, else the entry listed first.
-/

set_option autoImplicit false
set_option relaxedAutoImplicit false

namespace Pinning.Platform

/-- The platform whose entry stands in when the host's own is not offered. -/
def fallback : String := "x86_64-linux"

/-- The platform that this program runs on. -/
def host : String := "x86_64-linux"

/-- The representative entry of a platform map, with its platform. -/
def select {α : Type} (hostPlatform : String) (m : PlatformMap α) : Except Error (String × α) :=
  match m.get? hostPlatform with
  | some value => .ok (hostPlatform, value)
  | none =>
    match m.get? fallback with
    | some value => .ok (fallback, value)
    | none =>
      match m.first? with
      | some entry => .ok entry
      | none => .error .noSystemsAvailable

end Pinning.Platform
