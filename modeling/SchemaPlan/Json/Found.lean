import SchemaPlan.Json.Writer
import SchemaPlan.Text.Escaped

namespace SchemaPlan.Json

open Decimal

/-- What was found where something else is expected. Of a list and of an object only that it is
one. -/
inductive Found where
  | null
  | bool (b : Bool)
  | integer (n : Int)
  | float (x : Finite64)
  | string (s : String)
  | sequence
  | map
deriving DecidableEq

namespace Found

def ofJson : Json → Found
  | .null => .null
  | .bool b => .bool b
  | .integer n _ => .integer n
  | .float x => .float x
  | .string s => .string s
  | .array _ => .sequence
  | .object _ => .map

def text : Found → String
  | .null => "null"
  | .bool b => "boolean `" ++ (if b then "true" else "false") ++ "`"
  | .integer n => "integer `" ++ Numeral.ofInt n ++ "`"
  | .float x => "floating point `" ++ Json.floatLayout.write x.val ++ "`"
  | .string s => "string " ++ Text.Escaped.quote s
  | .sequence => "sequence"
  | .map => "map"

end Found

end SchemaPlan.Json
