import SchemaPlan.Decimal.Binary64

namespace SchemaPlan

open Decimal

/-- The default of a column. An expression is SQL text and is taken as it is. -/
inductive DefaultValue where
  | string (s : String)
  | bool (b : Bool)
  | integer (n : Int64)
  | float (x : Binary64)
  | expression (sql : String)
deriving DecidableEq

namespace DefaultValue

def currentTimestamp : DefaultValue :=
  .expression "CURRENT_TIMESTAMP"

def isExpression : DefaultValue → Bool
  | .expression _ => true
  | _ => false

end DefaultValue

end SchemaPlan
