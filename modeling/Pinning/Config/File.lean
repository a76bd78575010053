import Pinning.Config.Codec
import Pinning.Files
import Pinning.Text.Utf8
import Pinning.Toml.Reader
/-!
Configuration files. They are TOML documents in UTF-8, and a file that does not exist configures
nothing.
-/

set_option autoImplicit false
set_option relaxedAutoImplicit false

namespace Pinning.Config

def ofDocument (document : String) : Except Error Config :=
  match (Toml.parse? document).bind (ofJson? Toml.dialect) with
  | some config => .ok config
  | none => .error (.toml "the document is no configuration")

def textOfFile (files : Files) (path : String) : Except Files.Problem String := do
  match Text.decode? (← files.read path) with
  | some cs => .ok (String.ofList cs)
  | none => .error .notText

def load (files : Files) (path : String) : Except Error Config :=
  if files.hasEntry path then
    match textOfFile files path with
    | .ok document => ofDocument document
    | .error problem => .error problem.error
  else .ok {}

end Pinning.Config
