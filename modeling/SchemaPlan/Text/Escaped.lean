import SchemaPlan.Text.Printable

namespace SchemaPlan.Text.Escaped

open Printable

def encodeChar (c : Char) : List Char :=
  if c = '\\' then ['\\', '\\']
  else if c = '\x22' then ['\\', '\x22']
  else if c = '\n' then ['\\', 'n']
  else if c = '\r' then ['\\', 'r']
  else if c = '\t' then ['\\', 't']
  else if c = '\x00' then ['\\', '0']
  else if isPrintable c then [c]
  else ['\\', 'u', '\x7b'] ++ Nat.toDigits 16 c.toNat ++ ['\x7d']

/-- The text in double quotes with everything that cannot be shown escaped. -/
def quote (s : String) : String :=
  String.ofList ('\x22' :: (s.toList.flatMap encodeChar ++ ['\x22']))

end SchemaPlan.Text.Escaped
