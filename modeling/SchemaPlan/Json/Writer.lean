import SchemaPlan.Decimal.Layout
import SchemaPlan.Decimal.Numeral
import SchemaPlan.Json.Basic

namespace SchemaPlan.Json

open Decimal

/-- Floats from `10 ^ -5` to below `10 ^ 16` are written without an exponent, a whole one ending in
`.0`, and all others with one. -/
def floatLayout : Layout :=
  ⟨.even, fun e => -5 ≤ e && e ≤ 15, ['.', '0']⟩

def hexByte (n : Nat) : List Char :=
  [Nat.digitChar (n / 16), Nat.digitChar (n % 16)]

def escapeChar (c : Char) : List Char :=
  if c = '\x22' then ['\\', '\x22']
  else if c = '\\' then ['\\', '\\']
  else if c = '\x08' then ['\\', 'b']
  else if c = '\x0c' then ['\\', 'f']
  else if c = '\n' then ['\\', 'n']
  else if c = '\r' then ['\\', 'r']
  else if c = '\t' then ['\\', 't']
  else if c.toNat < 0x20 then ['\\', 'u', '0', '0'] ++ hexByte c.toNat
  else [c]

def writeString (s : String) : String :=
  String.ofList ('\x22' :: (s.toList.flatMap escapeChar ++ ['\x22']))

mutual

def write : Json → String
  | .null => "null"
  | .bool b => if b then "true" else "false"
  | .integer n _ => Numeral.ofInt n
  | .float x => floatLayout.write x.val
  | .string s => writeString s
  | .array items => "[" ++ ",".intercalate (writeItems items) ++ "]"
  | .object fields => "\x7b" ++ ",".intercalate (writeFields fields) ++ "\x7d"

def writeItems : List Json → List String
  | [] => []
  | v :: items => write v :: writeItems items

def writeFields : List (String × Json) → List String
  | [] => []
  | (name, v) :: fields => (writeString name ++ ":" ++ write v) :: writeFields fields

end

end SchemaPlan.Json
