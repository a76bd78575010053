import Pinning.Text.Numeral
import Pinning.Text.Unprintable
/-!
Quoted text in messages. A text stands between double quotes; the quote, the backslash, tab, line
feed, carriage return and NUL have short escapes, and every other character that is not shown is
written as its code point in hexadecimal.
-/

set_option autoImplicit false
set_option relaxedAutoImplicit false

namespace Pinning.Text

def quotedChar (c : Char) : List Char :=
  if c = '"' then ['\\', '"']
  else if c = '\\' then ['\\', '\\']
  else if c = '\n' then ['\\', 'n']
  else if c = '\r' then ['\\', 'r']
  else if c = '\t' then ['\\', 't']
  else if c = '\x00' then ['\\', '0']
  else if isShown c then [c]
  else '\\' :: 'u' :: '\x7b' :: hexadecimal c.toNat ++ ['\x7d']

def quoted (s : String) : String :=
  String.ofList ('"' :: s.toList.flatMap quotedChar ++ ['"'])

/-- Letters and digits of ASCII other than quote and backslash stand for themselves. -/
example : "az09-'".toList.flatMap quotedChar = "az09-'".toList := by decide +kernel

/-- Controls without a letter of their own are written by code point. -/
example : [Char.ofNat 0x1B, '\t'].flatMap quotedChar = "\\u\x7b1b\x7d\\t".toList := by
  decide +kernel

end Pinning.Text
