namespace SchemaPlan

inductive ColumnType where
  | integer
  | bigInteger
  | string (length : UInt32)
  | text
  | boolean
  | decimal (precision scale : UInt16)
  | float
  | dateTime
  | timestamp
deriving DecidableEq, Repr

namespace ColumnType

/-- A string column holds 255 characters unless a length is asked for. -/
def ofLength (length : Option UInt32) : ColumnType :=
  .string (length.getD 255)

def isInteger : ColumnType → Bool
  | .integer | .bigInteger => true
  | _ => false

end ColumnType

end SchemaPlan
