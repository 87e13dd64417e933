import SchemaPlan.Text.Blank

namespace SchemaPlan

inductive Dialect where
  | sqlite
  | postgres
deriving DecidableEq, Repr

namespace Dialect

def name : Dialect → String
  | .sqlite => "sqlite"
  | .postgres => "postgresql"

def spellings : List (String × Dialect) :=
  [("sqlite", .sqlite), ("sqlite3", .sqlite), ("pgsql", .postgres), ("postgres", .postgres),
    ("postgresql", .postgres)]

/-- A spelling with blanks around it and with its ASCII letters in either case. -/
def ofName? (s : String) : Option Dialect :=
  spellings.lookup ((Text.Blank.trim s).map Char.toLower)

structure Unknown where
  given : String
deriving DecidableEq, Repr

def Unknown.message (e : Unknown) : String :=
  "Unknown SQL dialect: '" ++ e.given ++ "'"

def parse (s : String) : Except Unknown Dialect :=
  match ofName? s with
  | some d => .ok d
  | none => .error ⟨s⟩

def ofNameOrDefault (s : String) : Dialect :=
  (ofName? s).getD .sqlite

/-- A database URL that does not name a PostgreSQL server stands for an SQLite file. -/
def ofUrl (url : String) : Dialect :=
  let cs := url.toList
  if "postgres://".toList.isPrefixOf cs || "postgresql://".toList.isPrefixOf cs then .postgres
  else .sqlite

end Dialect

end SchemaPlan
