import SchemaPlan.Decimal.Layout
import SchemaPlan.Decimal.Numeral
import SchemaPlan.Dialect
import SchemaPlan.Column.Default
import SchemaPlan.Sql.Quote

namespace SchemaPlan

open Decimal

/-- Numbers are written without an exponent, and whole ones without a point. -/
def Sql.floatLayout : Layout :=
  ⟨.up, fun _ => true, []⟩

structure BoolTokens where
  yes : String
  no : String
deriving DecidableEq, Repr

namespace BoolTokens

def ofBool (t : BoolTokens) (b : Bool) : String :=
  if b then t.yes else t.no

end BoolTokens

namespace Dialect

def boolTokens : Dialect → BoolTokens
  | .sqlite => ⟨"1", "0"⟩
  | .postgres => ⟨"true", "false"⟩

end Dialect

namespace DefaultValue

def sql (t : BoolTokens) : DefaultValue → String
  | .string s =>
    let doubled := s.toList.flatMap fun c => if c = '\x27' then ['\x27', '\x27'] else [c]
    "'" ++ String.ofList doubled ++ "'"
  | .bool b => t.ofBool b
  | .integer n => Numeral.ofInt n.toInt
  | .float x => Sql.floatLayout.write x
  | .expression sql => sql

/-- A default quotes a string as it is quoted elsewhere. -/
theorem sql_string (t : BoolTokens) (s : String) :
    (DefaultValue.string s).sql t = Sql.quoteString s := by
  have hencode (cs : List Char) : Text.Quoted.encode Sql.stringMark cs =
      cs.flatMap fun c => if c = '\x27' then ['\x27', '\x27'] else [c] := by
    induction cs with
    | nil => rfl
    | cons c cs ih =>
      rw [Text.Quoted.encode, List.flatMap_cons, ih]
      unfold Sql.stringMark
      split <;> rfl
  have hmark : "'".toList = [Sql.stringMark] := rfl
  rw [sql, Sql.quoteString, ← String.toList_inj, Text.Quoted.toList_quote, hencode,
    String.toList_append, String.toList_append, hmark, String.toList_ofList]
  rfl

end DefaultValue

namespace Dialect

def defaultSql (d : Dialect) (v : DefaultValue) : String :=
  v.sql d.boolTokens

end Dialect

end SchemaPlan
