import Pinning.Report.Listing
import Pinning.Report.Lock
import Pinning.Text.Name
/-!
Reports on resolutions, in one of two formats.
-/

set_option autoImplicit false
set_option relaxedAutoImplicit false

namespace Pinning.Report

inductive Format
  | console
  | json
  deriving DecidableEq

namespace Format

def name : Format → String
  | .console => "console"
  | .json => "json"

def named? (written : String) : Option Format :=
  [console, json].find? fun format => format.name == written

def meant? (written : String) : Option Format :=
  if Text.means written "console" || Text.means written "text" then some .console
  else if Text.means written "json" || Text.means written "lock" then some .json
  else none

end Format

def render (format : Format) (resolutions : List Resolution) : String :=
  match format with
  | .console => Listing.render resolutions
  | .json => Lock.render resolutions

end Pinning.Report
