import OpenIdConnect.Text.Digits
import OpenIdConnect.Text.Printable

/-!
# Quoted text

A text between quotation marks for a reader of messages: the quotation mark and the
backslash are escaped, and so is every character that does not print as itself.
-/

namespace OpenIdConnect.Text

namespace Quoted

/-- One character between the quotation marks. -/
def escape (c : Char) : List Char :=
  if c = '"' then ['\\', '"']
  else if c = '\\' then ['\\', '\\']
  else if c = '\n' then ['\\', 'n']
  else if c = '\r' then ['\\', 'r']
  else if c = '\t' then ['\\', 't']
  else if c.toNat = 0 then ['\\', '0']
  else if isPrintable c then [c]
  else ['\\', 'u', '\x7b'] ++ Digits.hex c.toNat ++ ['\x7d']

end Quoted

/-- The text between quotation marks. -/
def quoted (s : String) : String :=
  String.ofList ('"' :: (s.toList.flatMap Quoted.escape ++ ['"']))

end OpenIdConnect.Text
