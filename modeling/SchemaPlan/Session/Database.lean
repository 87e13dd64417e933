import SchemaPlan.Sql.Compile

namespace SchemaPlan

open Sql

structure DatabaseError where
  message : String
  causes : List String := []
deriving DecidableEq, Repr

/-- What a session needs of a database with states `σ`. -/
structure Database (σ : Type) where
  execute : Statement → σ → Except DatabaseError Unit × σ
  count : TableCount → σ → Except DatabaseError Int

end SchemaPlan
