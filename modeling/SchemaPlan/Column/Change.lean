import SchemaPlan.Column.Basic

namespace SchemaPlan

/-- A new type, nullability and default for a column that exists. The nullability is always set,
the others only where given. -/
structure ColumnChange where
  name : String
  type : Option ColumnType := none
  nullable : Bool := false
  default : Option DefaultValue := none
deriving DecidableEq

inductive ChangeModifier where
  | type (newType : ColumnType)
  | nullable
  | default (value : DefaultValue)
deriving DecidableEq

namespace ChangeModifier

def apply (c : ColumnChange) : ChangeModifier → ColumnChange
  | .type newType => { c with type := some newType }
  | .nullable => { c with nullable := true }
  | .default value => { c with default := some value }

end ChangeModifier

namespace ColumnChange

def modify (c : ColumnChange) (mods : List ChangeModifier) : ColumnChange :=
  mods.foldl ChangeModifier.apply c

end ColumnChange

end SchemaPlan
