import Pinning.Error
import Pinning.Text.Quoted
import Pinning.Url.Reader
/-!
The URLs that services are configured with. A relative reference to such a URL is to extend its
path, so the path is made to end in a slash.
-/

set_option autoImplicit false
set_option relaxedAutoImplicit false

namespace Pinning.Http

/-- The URL that the requests to a service are built on. -/
def baseUrl (written : String) : Except Error Url :=
  match Url.parse written with
  | .ok url => .ok url.withFinalSlash
  | .error cause =>
    .error (.config ("invalid URL " ++ Text.quoted written ++ ": " ++ cause.message))

end Pinning.Http
