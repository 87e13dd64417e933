import SchemaPlan.Session.Database

namespace SchemaPlan

open Sql

/-- The tables of an SQLite database, by name. The columns are not kept, so that a statement on a
table that exists succeeds whatever it says of them. -/
structure Catalogue where
  tables : List String := []
deriving DecidableEq, Repr

namespace Catalogue

/-- Names that differ in the case of ASCII letters alone are the same to SQLite. -/
def sameName (a b : String) : Bool :=
  a.map Char.toLower == b.map Char.toLower

def has (c : Catalogue) (table : String) : Bool :=
  c.tables.any (sameName table)

def add (c : Catalogue) (table : String) : Catalogue :=
  ⟨c.tables ++ [table]⟩

def remove (c : Catalogue) (table : String) : Catalogue :=
  ⟨c.tables.filter fun t => !sameName table t⟩

def refusal (reason : String) : DatabaseError :=
  let text := "(code: 1) " ++ reason
  ⟨"error returned from database: " ++ text, [text]⟩

def refuse (c : Catalogue) (reason : String) : Except DatabaseError Unit × Catalogue :=
  (.error (refusal reason), c)

/-- Goes on with a table that must exist. `known` is how the error names it. -/
def onTable (c : Catalogue) (table known : String) (next : Catalogue) :
    Except DatabaseError Unit × Catalogue :=
  if c.has table then (.ok (), next) else c.refuse ("no such table: " ++ known)

def execute : Statement → Catalogue → Except DatabaseError Unit × Catalogue
  | .createTable t, c =>
    if c.has t.table then c.refuse ("table " ++ quoteName t.table ++ " already exists")
    else (.ok (), c.add t.table)
  | .createIndex _ table _, c => c.onTable table ("main." ++ table) c
  | .addColumn table _, c | .dropColumn table _, c | .renameColumn table _ _, c =>
    c.onTable table table c
  | .alterColumn .., c => c.refuse "near \"ALTER\": syntax error"
  | .dropConstraints .., c => c.refuse "near \"CONSTRAINT\": syntax error"
  | .dropIndex _, c => (.ok (), c)
  | .dropTable table true, c => (.ok (), c.remove table)
  | .dropTable table false, c => c.onTable table table (c.remove table)
  | .renameTable old new, c =>
    if c.has old && c.has new then
      c.refuse ("there is already another table or index with this name: " ++ new)
    else c.onTable old old ((c.remove old).add new)

/-- SQLite has no `information_schema`, where the question of the other dialect looks. -/
def count (q : TableCount) (c : Catalogue) : Except DatabaseError Int :=
  match q.dialect with
  | .sqlite => .ok (c.tables.count q.table)
  | .postgres => .error (refusal "no such table: information_schema.tables")

def database : Database Catalogue := ⟨execute, count⟩

end Catalogue

end SchemaPlan
