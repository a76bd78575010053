import Pinning.Text.Blank
import Pinning.Text.Split
/-!
Narinfo documents, the descriptions of build outputs in a binary cache: a `Key: value` field on each
line. A line without a colon is no field, and of several fields with one key the first counts.
-/

set_option autoImplicit false
set_option relaxedAutoImplicit false

namespace Pinning.Store.Narinfo

/-- The key and the value of a line; the first colon stands between them. -/
def field? (line : List Char) : Option (List Char × List Char) :=
  (Text.cutFirst? ':' line).map fun (key, value) => (Text.trim key, Text.trim value)

def valueAt? (key : List Char) (line : List Char) : Option (List Char) :=
  match field? line with
  | some (found, value) => if found = key then some value else none
  | none => none

/-- The value at a key of a document. A carriage return at the end of a line is trimmed with the
value. -/
def get? (key : List Char) (document : List Char) : Option (List Char) :=
  (Text.fields '\n' document).findSome? (valueAt? key)

/-- The store path that a document describes. -/
def storePath? (document : List Char) : Option (List Char) := get? "StorePath".toList document

/-- Values keep their colons, and keys may be indented. -/
example : storePath? "URL: x\r\n StorePath : /a:b \r\nStorePath: c".toList
    = some "/a:b".toList := by
  decide +kernel
example : storePath? "StorePath\nNarSize: 1\n".toList = none := by decide +kernel

end Pinning.Store.Narinfo
