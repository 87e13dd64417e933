import SchemaPlan.Blueprint.Basic
import SchemaPlan.Json.Basic

namespace SchemaPlan

namespace Manifest

inductive ColumnKind where
  | id
  | increments
  | bigIncrements
  | string
  | text
  | integer
  | bigInteger
  | boolean
  | decimal
  | float
  | dateTime
  | timestamp
  | foreignId
deriving DecidableEq, Repr

/-- A column as a manifest describes it. What is absent is `none`. -/
structure ColumnEntry where
  name : String
  kind : ColumnKind
  length : Option UInt32 := none
  precision : Option UInt16 := none
  scale : Option UInt16 := none
  nullable : Bool := false
  default : Option Json := none
  defaultExpr : Option String := none
  useCurrent : Bool := false
  unique : Bool := false
  index : Bool := false
  primary : Bool := false
  autoIncrement : Bool := false
  unsigned : Bool := false
  comment : Option String := none
  references : Option Reference := none

structure IndexEntry where
  kind : IndexKind
  columns : List String
  name : Option String := none
deriving DecidableEq, Repr

structure ModifyEntry where
  name : String
  kind : Option ColumnKind := none
  length : Option UInt32 := none
  precision : Option UInt16 := none
  scale : Option UInt16 := none
  nullable : Bool := false
  default : Option Json := none

inductive CommandEntry where
  | add (column : ColumnEntry)
  | drop (columns : List String)
  | rename (old new : String)
  | modify (change : ModifyEntry)
  | dropIndex (columns : List String)
  | dropUnique (columns : List String)
  | dropPrimary

structure TableEntry where
  table : String
  mode : Mode := .create
  columns : List ColumnEntry := []
  indexes : List IndexEntry := []
  commands : List CommandEntry := []

end Manifest

structure Manifest where
  path : String
  tables : List Manifest.TableEntry

end SchemaPlan
