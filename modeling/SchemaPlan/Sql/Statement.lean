import SchemaPlan.Sql.ColumnClause

namespace SchemaPlan.Sql

structure UniqueClause where
  name : String
  columns : List String
deriving DecidableEq, Repr

namespace UniqueClause

def text (u : UniqueClause) : String :=
  "CONSTRAINT " ++ quoteName u.name ++ " UNIQUE (" ++ nameList u.columns ++ ")"

end UniqueClause

structure CreateTable where
  table : String
  columns : List ColumnClause
  key : Option (List String)
  uniques : List UniqueClause
deriving DecidableEq, Repr

namespace CreateTable

def keyText (columns : List String) : String :=
  "PRIMARY KEY (" ++ nameList columns ++ ")"

def clauses (c : CreateTable) : List String :=
  c.columns.map ColumnClause.text ++ (c.key.map keyText).toList ++
    c.uniques.map UniqueClause.text

def text (c : CreateTable) : String :=
  "CREATE TABLE " ++ quoteName c.table ++ " (" ++ ", ".intercalate c.clauses ++ ")"

end CreateTable

inductive ColumnAction where
  | setType (type : String)
  | setNotNull
  | dropNotNull
  | setDefault (value : String)
deriving DecidableEq, Repr

namespace ColumnAction

def text : ColumnAction → String
  | .setType type => " TYPE " ++ type
  | .setNotNull => " SET NOT NULL"
  | .dropNotNull => " DROP NOT NULL"
  | .setDefault value => " SET DEFAULT " ++ value

end ColumnAction

/-- What a dialect is asked to run in one go. Only `alterColumn` and `dropConstraints` may be
several SQL statements. -/
inductive Statement where
  | createTable (c : CreateTable)
  | createIndex (name table : String) (columns : List String)
  | addColumn (table : String) (clause : ColumnClause)
  | dropColumn (table column : String)
  | renameColumn (table old new : String)
  | alterColumn (table column : String) (actions : List ColumnAction)
  | dropConstraints (table : String) (names : List String)
  | dropIndex (name : String)
  | dropTable (table : String) (ifExists : Bool)
  | renameTable (old new : String)
deriving DecidableEq, Repr

namespace Statement

def altering (table : String) : String :=
  "ALTER TABLE " ++ quoteName table

def alterColumnPart (table column : String) (a : ColumnAction) : String :=
  altering table ++ " ALTER COLUMN " ++ quoteName column ++ a.text

def dropConstraintPart (table name : String) : String :=
  altering table ++ " DROP CONSTRAINT IF EXISTS " ++ quoteName name

def text : Statement → String
  | .createTable c => c.text
  | .createIndex name table columns =>
    "CREATE INDEX " ++ quoteName name ++ " ON " ++ quoteName table ++
      " (" ++ nameList columns ++ ")"
  | .addColumn table clause => altering table ++ " ADD COLUMN " ++ clause.text
  | .dropColumn table column => altering table ++ " DROP COLUMN " ++ quoteName column
  | .renameColumn table old new =>
    altering table ++ " RENAME COLUMN " ++ quoteName old ++ " TO " ++ quoteName new
  | .alterColumn table column actions =>
    "; ".intercalate (actions.map (alterColumnPart table column))
  | .dropConstraints table names => "; ".intercalate (names.map (dropConstraintPart table))
  | .dropIndex name => "DROP INDEX IF EXISTS " ++ quoteName name
  | .dropTable table ifExists =>
    "DROP TABLE " ++ onlyIf ifExists "IF EXISTS " ++ quoteName table
  | .renameTable old new => altering old ++ " RENAME TO " ++ quoteName new

end Statement

structure TableCount where
  dialect : Dialect
  table : String
deriving DecidableEq, Repr

namespace TableCount

def text (q : TableCount) : String :=
  match q.dialect with
  | .sqlite =>
    "SELECT COUNT(*) FROM sqlite_master WHERE type = 'table' AND name = " ++ quoteString q.table
  | .postgres =>
    "SELECT COUNT(*) FROM information_schema.tables " ++
      "WHERE table_schema = current_schema() AND table_name = " ++ quoteString q.table

end TableCount

end SchemaPlan.Sql
