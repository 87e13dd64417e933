import SchemaPlan.Blueprint.Key
import SchemaPlan.Sql.Statement

namespace SchemaPlan

open Sql

structure Unsupported where
  dialect : Dialect
  operation : String
  table : String
deriving DecidableEq, Repr

namespace Unsupported

def message (e : Unsupported) : String :=
  e.dialect.name ++ " does not support " ++ e.operation ++ " on table '" ++ e.table ++ "'"

end Unsupported

namespace Index

def unique? (i : Index) (table : String) : Option UniqueClause :=
  if i.kind = .unique then some ⟨i.nameFor table, i.columns⟩ else none

def create? (i : Index) (table : String) : Option Statement :=
  if i.kind = .index then some (.createIndex (i.nameFor table) table i.columns) else none

end Index

namespace Column

def createIndex? (c : Column) (table : String) : Option Statement :=
  let columns := [c.name]
  if c.index then
    some (.createIndex (derivedName table columns IndexKind.index.suffix) table columns)
  else none

end Column

variable (d : Dialect)

namespace Blueprint

/-- Whether a column declares the key beside itself. A serial column does so even where the rest
of the key is written for the table as a whole. -/
def hasInlineKey (b : Blueprint) (c : Column) : Bool :=
  c.primary && (c.isSerial || !b.key.isTableLevel)

def createTable (b : Blueprint) : CreateTable where
  table := b.table
  columns := b.columns.map fun c => d.columnClause c (b.hasInlineKey c)
  key := if b.key.isTableLevel && !b.key.columns.isEmpty then some b.key.columns else none
  uniques := b.indexes.filterMap (·.unique? b.table)

def createIndexes (b : Blueprint) : List Statement :=
  b.indexes.filterMap (·.create? b.table) ++ b.columns.filterMap (·.createIndex? b.table)

def create (b : Blueprint) : List Statement :=
  .createTable (b.createTable d) :: b.createIndexes

end Blueprint

/-- The nullability is always set, between the new type and the new default. -/
def ColumnChange.actions (c : ColumnChange) : List ColumnAction :=
  (c.type.map (.setType <| d.typeName ·)).toList ++
    [if c.nullable then .dropNotNull else .setNotNull] ++
    (c.default.map (.setDefault <| d.defaultSql ·)).toList

namespace Command

/-- The words in which a dialect refuses a change. SQLite cannot redefine a column in place, and its
constraints have no names to drop. -/
def refusal? (d : Dialect) (k : CommandKind) : Option String :=
  match d, k with
  | .sqlite, .modify => some "modify column"
  | .sqlite, .dropUnique => some "drop unique"
  | .sqlite, .dropPrimary => some "drop primary"
  | _, _ => none

/-- The statements of a change that the dialect does not refuse. A unique constraint is dropped
under the name derived for its definition and under the one PostgreSQL gives to a flagged column. -/
def plan (table : String) : Command → List Statement
  | .add c => .addColumn table (d.columnClause c c.primary) :: (c.createIndex? table).toList
  | .drop columns => columns.map (.dropColumn table)
  | .rename old new => [.renameColumn table old new]
  | .modify change => [.alterColumn table change.name (change.actions d)]
  | .dropIndex columns => [.dropIndex (derivedName table columns IndexKind.index.suffix)]
  | .dropUnique columns =>
    [.dropConstraints table
      [derivedName table columns IndexKind.unique.suffix, derivedName table columns "key"]]
  | .dropPrimary => [.dropConstraints table [table ++ "_pkey"]]

def statements (table : String) (c : Command) : Except Unsupported (List Statement) :=
  match refusal? d c.kind with
  | some operation => .error ⟨d, operation, table⟩
  | none => .ok (c.plan d table)

def allStatements (table : String) : List Command → Except Unsupported (List Statement)
  | [] => .ok []
  | c :: cs => do
    let xs ← c.statements d table
    let ys ← allStatements table cs
    pure (xs ++ ys)

end Command

namespace Blueprint

def alter (b : Blueprint) : Except Unsupported (List Statement) :=
  Command.allStatements d b.table b.commands

def compile (b : Blueprint) : Except Unsupported (List Statement) :=
  match b.mode with
  | .create => .ok (b.create d)
  | .alter => b.alter d

def ignored (b : Blueprint) : Nat :=
  match b.mode with
  | .create => b.commands.length
  | .alter => b.columns.length + b.indexes.length

end Blueprint

end SchemaPlan
