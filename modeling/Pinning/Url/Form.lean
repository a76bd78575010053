import Pinning.Text.Split
import Pinning.Url.Percent
/-!
Form encoding, the notation of name and value pairs in a query. Letters, digits and `* - . _` stand
for themselves, a space is written `+`, and everything else is percent-encoded.
-/

set_option autoImplicit false
set_option relaxedAutoImplicit false

namespace Pinning.Url.Form

def isPlain (c : Char) : Bool :=
  ('a' ≤ c && c ≤ 'z') || ('A' ≤ c && c ≤ 'Z') || ('0' ≤ c && c ≤ '9')
    || c == '*' || c == '-' || c == '.' || c == '_'

def encodeChar (c : Char) : List Char :=
  if isPlain c then [c] else if c = ' ' then ['+'] else percentChar c

def encode (cs : List Char) : List Char := cs.flatMap encodeChar

def encodePair (pair : String × String) : List Char :=
  encode pair.1.toList ++ '=' :: encode pair.2.toList

def encodePairs (pairs : List (String × String)) : List Char :=
  ['&'].intercalate (pairs.map encodePair)

def decode (cs : List Char) : List Char :=
  Text.decodeLossy (decodedBytes (cs.map fun c => if c = '+' then ' ' else c))

/-- The pair that a written form stands for; without a `=` the value is empty. -/
def decodePair (cs : List Char) : String × String :=
  match Text.cutFirst? '=' cs with
  | some (name, value) => (String.ofList (decode name), String.ofList (decode value))
  | none => (String.ofList (decode cs), "")

def decodePairs (cs : List Char) : List (String × String) :=
  ((Text.fields '&' cs).filter fun field => !field.isEmpty).map decodePair

example : encodePairs [("name", "a b"), ("version", "1&2")] = "name=a+b&version=1%262".toList := by
  decide +kernel

end Pinning.Url.Form
