import Pinning.Text.Numeral
import Pinning.Text.Utf8
/-!
Percent-encoding. A character that may not stand for itself in a component is written as its UTF-8
bytes, each as `%` and two hexadecimal digits; every component has its own set of such characters,
and outside ASCII all characters are in it.
-/

set_option autoImplicit false
set_option relaxedAutoImplicit false

namespace Pinning.Url

def upperHexDigit (n : Nat) : Char := (Nat.digitChar n).toUpper

def percentByte (b : UInt8) : List Char :=
  ['%', upperHexDigit (b.toNat / 16), upperHexDigit (b.toNat % 16)]

def percentChar (c : Char) : List Char := (String.utf8EncodeChar c).flatMap percentByte

def isOutsidePrintable (c : Char) : Bool := c.toNat < 0x20 || 0x7F ≤ c.toNat

abbrev EncodeSet := List Char

def fragmentSet : EncodeSet := [' ', '"', '<', '>', Char.ofNat 0x60]

def querySet : EncodeSet := [' ', '"', '#', '<', '>']

def specialQuerySet : EncodeSet := '\x27' :: querySet

def pathSet : EncodeSet := fragmentSet ++ ['#', '?', '\x7b', '\x7d']

def userSet : EncodeSet := pathSet ++ ['/', ':', ';', '=', '@', '[', '\\', ']', '^', '|']

def encodeChar (set : EncodeSet) (c : Char) : List Char :=
  if isOutsidePrintable c || set.contains c then percentChar c else [c]

def encode (set : EncodeSet) (cs : List Char) : List Char := cs.flatMap (encodeChar set)

/-- The bytes that a text stands for; a `%` without two hexadecimal digits stands for itself. -/
def decodedBytes : List Char → List UInt8
  | '%' :: a :: b :: rest =>
    match Text.hexValue? a, Text.hexValue? b with
    | some high, some low => UInt8.ofNat (16 * high + low) :: decodedBytes rest
    | _, _ => String.utf8EncodeChar '%' ++ decodedBytes (a :: b :: rest)
  | c :: rest => String.utf8EncodeChar c ++ decodedBytes rest
  | [] => []

def decoded? (cs : List Char) : Option (List Char) := Text.decode? (decodedBytes cs)

example : encode pathSet ['a', ' ', 'é'] = "a%20%C3%A9".toList := by decide +kernel

end Pinning.Url
