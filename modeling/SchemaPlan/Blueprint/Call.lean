import SchemaPlan.Blueprint.Basic
import SchemaPlan.Column.Modifier

namespace SchemaPlan

/-- The ways to begin a column, before any modifier. -/
inductive ColumnStart where
  | id
  | bigIncrements (name : String)
  | increments (name : String)
  | string (name : String) (length : Option UInt32)
  | text (name : String)
  | integer (name : String)
  | bigInteger (name : String)
  | boolean (name : String)
  | decimal (name : String) (precision scale : UInt16)
  | float (name : String)
  | dateTime (name : String)
  | timestamp (name : String)
  | foreignId (name : String)
  | ofType (name : String) (type : ColumnType)
deriving DecidableEq

namespace ColumnStart

/-- A column that numbers the rows and is their key. -/
def counter (name : String) (type : ColumnType) : Column :=
  { name, type, autoIncrement := true, primary := true, unsigned := true }

def column : ColumnStart → Column
  | .id => counter "id" .bigInteger
  | .bigIncrements name => counter name .bigInteger
  | .increments name => counter name .integer
  | .string name length => { name, type := .ofLength length }
  | .text name => { name, type := .text }
  | .integer name => { name, type := .integer }
  | .bigInteger name => { name, type := .bigInteger }
  | .boolean name => { name, type := .boolean }
  | .decimal name precision scale => { name, type := .decimal precision scale }
  | .float name => { name, type := .float }
  | .dateTime name => { name, type := .dateTime }
  | .timestamp name => { name, type := .timestamp }
  | .foreignId name => { name, type := .bigInteger, unsigned := true }
  | .ofType name type => { name, type }

end ColumnStart

/-- One declaration on a blueprint. Columns and indexes are for a table to be created, the rest is
for one that exists; a blueprint takes either kind in either mode. -/
inductive Call where
  | column (start : ColumnStart) (mods : List Modifier)
  | timestamps
  | softDeletes
  | index (columns : List String)
  | indexNamed (name : String) (columns : List String)
  | unique (columns : List String)
  | uniqueNamed (name : String) (columns : List String)
  | primary (columns : List String)
  | add (start : ColumnStart) (mods : List Modifier)
  | drop (columns : List String)
  | rename (old new : String)
  | modify (name : String) (mods : List ChangeModifier)
  | dropIndex (columns : List String)
  | dropUnique (columns : List String)
  | dropPrimary
deriving DecidableEq

namespace Call

def nullableTimestamp (name : String) : Column :=
  { name, type := .timestamp, nullable := true }

/-- What a declaration puts at the ends of the three lists. -/
def entries : Call → Entries
  | .column start mods => { columns := [start.column.modify mods] }
  | .timestamps =>
    { columns := [nullableTimestamp "created_at", nullableTimestamp "updated_at"] }
  | .softDeletes => { columns := [nullableTimestamp "deleted_at"] }
  | .index columns => { indexes := [⟨.index, columns, none⟩] }
  | .indexNamed name columns => { indexes := [⟨.index, columns, some name⟩] }
  | .unique columns => { indexes := [⟨.unique, columns, none⟩] }
  | .uniqueNamed name columns => { indexes := [⟨.unique, columns, some name⟩] }
  | .primary columns => { indexes := [⟨.primary, columns, none⟩] }
  | .add start mods => { commands := [.add (start.column.modify mods)] }
  | .drop columns => { commands := [.drop columns] }
  | .rename old new => { commands := [.rename old new] }
  | .modify name mods => { commands := [.modify (ColumnChange.modify { name } mods)] }
  | .dropIndex columns => { commands := [.dropIndex columns] }
  | .dropUnique columns => { commands := [.dropUnique columns] }
  | .dropPrimary => { commands := [.dropPrimary] }

end Call

namespace Blueprint

def perform (b : Blueprint) (c : Call) : Blueprint :=
  b.append c.entries

def build (table : String) (mode : Mode) (calls : List Call) : Blueprint :=
  calls.foldl perform (empty table mode)

end Blueprint

end SchemaPlan
