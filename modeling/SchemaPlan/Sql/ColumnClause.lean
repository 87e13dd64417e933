import SchemaPlan.Sql.Literal
import SchemaPlan.Sql.TypeName

namespace SchemaPlan

namespace ReferentialAction

def sql : ReferentialAction → String
  | .noAction => "NO ACTION"
  | .restrict => "RESTRICT"
  | .cascade => "CASCADE"
  | .setNull => "SET NULL"
  | .setDefault => "SET DEFAULT"

end ReferentialAction

namespace Sql

def onlyIf (b : Bool) (text : String) : String :=
  if b then text else ""

def led (lead : String) : Option String → String
  | none => ""
  | some text => lead ++ text

def referenceText (r : Reference) : String :=
  " REFERENCES " ++ quoteName r.table ++ " (" ++ quoteName r.column ++ ")" ++
    led " ON DELETE " (r.onDelete.map (·.sql)) ++ led " ON UPDATE " (r.onUpdate.map (·.sql))

/-- The parts of a column as a statement spells it, in their order. -/
structure ColumnClause where
  name : String
  type : String
  key : Bool
  counting : Bool
  notNull : Bool
  unique : Bool
  default : Option String
  references : Option Reference
deriving DecidableEq, Repr

namespace ColumnClause

def constraints (c : ColumnClause) : String :=
  onlyIf c.key " PRIMARY KEY" ++ onlyIf c.counting " AUTOINCREMENT" ++
    onlyIf c.notNull " NOT NULL" ++ onlyIf c.unique " UNIQUE"

def text (c : ColumnClause) : String :=
  quoteName c.name ++ " " ++ c.type ++ c.constraints ++ led " DEFAULT " c.default ++
    led "" (c.references.map referenceText)

end ColumnClause

end Sql

namespace Dialect

open Sql

/-- Whether a column's clause declares the primary key. In SQLite a serial column always does. -/
def clauseHasKey (d : Dialect) (c : Column) (inlineKey : Bool) : Bool :=
  (inlineKey && c.primary) || (d == .sqlite && c.isSerial)

def impliesNotNull (d : Dialect) (c : Column) (inlineKey : Bool) : Bool :=
  match d with
  | .sqlite => d.clauseHasKey c inlineKey
  | .postgres => c.isSerial

def columnClause (d : Dialect) (c : Column) (inlineKey : Bool) : ColumnClause where
  name := c.name
  type := d.columnTypeName c
  key := d.clauseHasKey c inlineKey
  counting := d == .sqlite && c.isSerial
  notNull := !c.nullable && !d.impliesNotNull c inlineKey
  unique := c.unique
  default := c.default.map d.defaultSql
  references := c.references

end Dialect

end SchemaPlan
