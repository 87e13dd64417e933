import SchemaPlan.Blueprint.Basic
import SchemaPlan.Column.Modifier
import SchemaPlan.Json.Writer
import SchemaPlan.Manifest.Basic

namespace SchemaPlan.Manifest

open Decimal

inductive Fault where
  | decimalSize (column : String)
  | badDefault (column : String) (value : Json)
  | outOfRange (column : String)
  | emptyIndex (kind : IndexKind)

namespace Fault

def kindTitle : IndexKind → String
  | .primary => "Primary"
  | .unique => "Unique"
  | .index => "Index"

def message : Fault → String
  | .decimalSize column => "decimal column '" ++ column ++ "' requires precision and scale"
  | .badDefault column value =>
    "default of column '" ++ column ++ "' must be a string, boolean or number, got " ++ value.write
  | .outOfRange column => "default of column '" ++ column ++ "' is out of range"
  | .emptyIndex kind => kindTitle kind ++ " index has no columns"

end Fault

abbrev Replayed (α : Type) := Except Fault α

/-- The type of a column of some kind. Only a decimal needs its sizes, and only a string takes
heed of a length. -/
def columnType (name : String) (length : Option UInt32) (precision scale : Option UInt16) :
    ColumnKind → Replayed ColumnType
  | .id | .bigIncrements | .bigInteger | .foreignId => .ok .bigInteger
  | .increments | .integer => .ok .integer
  | .string => .ok (.ofLength length)
  | .text => .ok .text
  | .boolean => .ok .boolean
  | .decimal => match precision, scale with
    | some p, some s => .ok (.decimal p s)
    | _, _ => .error (.decimalSize name)
  | .float => .ok .float
  | .dateTime => .ok .dateTime
  | .timestamp => .ok .timestamp

/-- The default that a JSON value stands for. A whole number beyond the signed 64-bit ones becomes
the float nearest to it. -/
def defaultValue (name : String) : Json → Replayed DefaultValue
  | .string s => .ok (.string s)
  | .bool b => .ok (.bool b)
  | .integer n _ =>
    if n < 0x8000000000000000 then .ok (.integer (.ofInt n))
    else match Finite64.ofInt? n with
      | some x => .ok (.float x.val)
      | none => .error (.outOfRange name)
  | .float x => .ok (.float x.val)
  | v => .error (.badDefault name v)

def defaultValue? (name : String) : Option Json → Replayed (Option DefaultValue)
  | none => .ok none
  | some v => some <$> defaultValue name v

namespace ColumnKind

/-- What a kind says of its column beyond the type. -/
def modifiers : ColumnKind → List Modifier
  | .id | .increments | .bigIncrements => [.autoIncrement, .primary, .unsigned]
  | .foreignId => [.unsigned]
  | _ => []

end ColumnKind

def flag (b : Bool) (m : Modifier) : List Modifier :=
  if b then [m] else []

def given (f : α → Modifier) (a : Option α) : List Modifier :=
  (a.map f).toList

def referenceModifiers (r : Reference) : List Modifier :=
  .references r.table r.column :: (given .onDelete r.onDelete ++ given .onUpdate r.onUpdate)

namespace ColumnEntry

variable (c : ColumnEntry)

def type : Replayed ColumnType :=
  columnType c.name c.length c.precision c.scale c.kind

/-- The refinements that the fields of an entry ask for, once its default is known. Of several
defaults the last one stays. -/
def modifiers (default : Option DefaultValue) : List Modifier :=
  c.kind.modifiers ++ flag c.nullable .nullable ++ given .default default ++
    given .defaultExpr c.defaultExpr ++ flag c.useCurrent .useCurrent ++ flag c.unique .unique ++
    flag c.index .index ++ flag c.primary .primary ++ flag c.autoIncrement .autoIncrement ++
    flag c.unsigned .unsigned ++ given .comment c.comment ++
    (c.references.map referenceModifiers).getD []

def column : Replayed Column := do
  let type ← c.type
  let default ← defaultValue? c.name c.default
  pure (Column.modify { name := c.name, type } (c.modifiers default))

end ColumnEntry

namespace IndexEntry

/-- The index of an entry. A primary key takes no name. -/
def index (i : IndexEntry) : Replayed Index :=
  if i.columns = [] then .error (.emptyIndex i.kind)
  else .ok ⟨i.kind, i.columns, if i.kind = .primary then none else i.name⟩

end IndexEntry

namespace ModifyEntry

variable (m : ModifyEntry)

def type? : Replayed (Option ColumnType) :=
  match m.kind with
  | none => .ok none
  | some kind => some <$> columnType m.name m.length m.precision m.scale kind

def change : Replayed ColumnChange := do
  let type ← m.type?
  let default ← defaultValue? m.name m.default
  pure ⟨m.name, type, m.nullable, default⟩

end ModifyEntry

namespace CommandEntry

def command : CommandEntry → Replayed Command
  | .add c => .add <$> c.column
  | .drop columns => .ok (.drop columns)
  | .rename old new => .ok (.rename old new)
  | .modify m => .modify <$> m.change
  | .dropIndex columns => .ok (.dropIndex columns)
  | .dropUnique columns => .ok (.dropUnique columns)
  | .dropPrimary => .ok .dropPrimary

end CommandEntry

namespace TableEntry

def blueprint (t : TableEntry) : Replayed Blueprint := do
  let columns ← t.columns.mapM ColumnEntry.column
  let indexes ← t.indexes.mapM IndexEntry.index
  let commands ← t.commands.mapM CommandEntry.command
  pure { columns, indexes, commands, table := t.table, mode := t.mode }

end TableEntry

end SchemaPlan.Manifest
