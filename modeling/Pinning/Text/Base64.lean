import Pinning.Text.Utf8
/-!
Base 64: three bytes are written as four digits of six bits each, and a last group of fewer bytes is
filled up with `=`.
-/

set_option autoImplicit false
set_option relaxedAutoImplicit false

namespace Pinning.Text.Base64

def digits : List Char :=
  "ABCDEFGHIJKLMNOPQRSTUVWXYZabcdefghijklmnopqrstuvwxyz0123456789+/".toList

def digit (n : Nat) : Char := (digits[n % 64]?).getD '='

def encode : List UInt8 → List Char
  | [] => []
  | [a] => [digit (a.toNat / 4), digit (a.toNat % 4 * 16), '=', '=']
  | [a, b] =>
    [digit (a.toNat / 4), digit (a.toNat % 4 * 16 + b.toNat / 16), digit (b.toNat % 16 * 4), '=']
  | a :: b :: c :: rest =>
    digit (a.toNat / 4) :: digit (a.toNat % 4 * 16 + b.toNat / 16)
      :: digit (b.toNat % 16 * 4 + c.toNat / 64) :: digit c.toNat :: encode rest

example : encode (utf8Bytes "user:pass".toList) = "dXNlcjpwYXNz".toList := by decide +kernel
example : encode (utf8Bytes "u:".toList) = "dTo=".toList := by decide +kernel

end Pinning.Text.Base64
