import SchemaPlan.Decimal.Numeral
import SchemaPlan.Dialect
import SchemaPlan.Column.Basic

namespace SchemaPlan

open Decimal

namespace Dialect

/-- The name of a type. PostgreSQL has no type of dates with times apart from its timestamps. -/
def typeName (d : Dialect) : ColumnType → String
  | .integer => "INTEGER"
  | .bigInteger => "BIGINT"
  | .string length => "VARCHAR(" ++ Numeral.ofNat length.toNat ++ ")"
  | .text => "TEXT"
  | .boolean => "BOOLEAN"
  | .decimal precision scale =>
    "DECIMAL(" ++ Numeral.ofNat precision.toNat ++ ", " ++ Numeral.ofNat scale.toNat ++ ")"
  | .float => match d with
    | .sqlite => "FLOAT"
    | .postgres => "DOUBLE PRECISION"
  | .dateTime => match d with
    | .sqlite => "DATETIME"
    | .postgres => "TIMESTAMP"
  | .timestamp => "TIMESTAMP"

/-- The type of a serial column. SQLite numbers rows only in a column of type INTEGER. -/
def serialTypeName : Dialect → ColumnType → String
  | .postgres, .bigInteger => "BIGSERIAL"
  | .postgres, _ => "SERIAL"
  | .sqlite, _ => "INTEGER"

def columnTypeName (d : Dialect) (c : Column) : String :=
  if c.isSerial then d.serialTypeName c.type else d.typeName c.type

end Dialect

end SchemaPlan
