import SchemaPlan.Sql.Compile

namespace SchemaPlan

open Sql

/-- What the statements of a dialect are written with. -/
structure Grammar where
  dialect : Dialect
  compile : Blueprint → Except Unsupported (List Statement)

def Dialect.grammar (d : Dialect) : Grammar where
  dialect := d
  compile b := b.compile d

def Grammar.ofName (name : String) : Grammar :=
  (Dialect.ofNameOrDefault name).grammar

end SchemaPlan
