import Pinning.Flake
import Pinning.Json.Record
/-!
Flake references and installables as JSON. Empty fields of a reference are left out.
-/

set_option autoImplicit false
set_option relaxedAutoImplicit false

namespace Pinning.Flake

def textMember (name value : String) : List (String × Json) :=
  if value = "" then [] else [(name, .text value)]

def Ref.toJson (r : Ref) : Json :=
  .object (("type", .text r.kind) :: textMember "id" r.id ++ textMember "owner" r.owner
    ++ textMember "repo" r.repo ++ textMember "rev" r.rev ++ textMember "ref" r.gitRef
    ++ textMember "dir" r.dir ++ textMember "path" r.path ++ textMember "url" r.url)

def Ref.fieldNames : List String :=
  ["type", "id", "owner", "repo", "rev", "ref", "dir", "path", "url"]

def Ref.ofJson? (j : Json) : Option Ref := do
  let fields ← j.fields? Json.strict Ref.fieldNames
  let kind ← fields.required "type" Json.text?
  let id ← fields.withDefault "id" Json.text? ""
  let owner ← fields.withDefault "owner" Json.text? ""
  let repo ← fields.withDefault "repo" Json.text? ""
  let rev ← fields.withDefault "rev" Json.text? ""
  let gitRef ← fields.withDefault "ref" Json.text? ""
  let dir ← fields.withDefault "dir" Json.text? ""
  let path ← fields.withDefault "path" Json.text? ""
  let url ← fields.withDefault "url" Json.text? ""
  some { kind, id, owner, repo, rev, gitRef, dir, path, url }

def Installable.toJson (i : Installable) : Json :=
  .object [("ref", i.ref.toJson), ("attr_path", .text i.attrPath)]

def Installable.ofJson? (j : Json) : Option Installable := do
  let fields ← j.fields? Json.strict ["ref", "attr_path"]
  let ref ← fields.required "ref" Ref.ofJson?
  let attrPath ← fields.withDefault "attr_path" Json.text? ""
  some { ref, attrPath }

end Pinning.Flake
