import SchemaPlan.Column.Type
import SchemaPlan.Column.Default

namespace SchemaPlan

inductive ReferentialAction where
  | noAction
  | restrict
  | cascade
  | setNull
  | setDefault
deriving DecidableEq, Repr

structure Reference where
  table : String
  column : String
  onDelete : Option ReferentialAction := none
  onUpdate : Option ReferentialAction := none
deriving DecidableEq, Repr

structure Column where
  name : String
  type : ColumnType
  nullable : Bool := false
  default : Option DefaultValue := none
  autoIncrement : Bool := false
  primary : Bool := false
  unique : Bool := false
  index : Bool := false
  unsigned : Bool := false
  comment : Option String := none
  references : Option Reference := none
deriving DecidableEq

namespace Column

/-- A serial column numbers its rows by itself: only an integer column can. -/
def isSerial (c : Column) : Bool :=
  c.autoIncrement && c.type.isInteger

end Column

end SchemaPlan
