import Pinning.Package.Codec
/-!
The report on resolutions for machines: a JSON object of the packages by spec, in code point order.
A spec that was resolved more than once keeps its last package.
-/

set_option autoImplicit false
set_option relaxedAutoImplicit false

namespace Pinning.Report.Lock

def packages (resolutions : List Resolution) : SortedMap Package :=
  SortedMap.ofList (resolutions.map fun r => (r.spec, r.package))

def toJson (resolutions : List Resolution) : Json :=
  .object [("packages", .object ((packages resolutions).map Package.toJson).entries)]

def render (resolutions : List Resolution) : String :=
  String.ofList ((toJson resolutions).pretty 0)

end Pinning.Report.Lock
