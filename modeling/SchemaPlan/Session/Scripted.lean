import SchemaPlan.Session.Database

namespace SchemaPlan

open Sql

/-- A database that refuses chosen attempts, by their number over its whole life, and answers
every count alike. -/
structure Scripted where
  refused : List Nat
  answer : Option Int := none
  attempts : Nat := 0
deriving DecidableEq, Repr

namespace Scripted

def execute (_ : Statement) (s : Scripted) : Except DatabaseError Unit × Scripted :=
  (if s.attempts ∈ s.refused then
    .error { message := "attempt " ++ Decimal.Numeral.ofNat s.attempts ++ " refused" }
  else .ok (), { s with attempts := s.attempts + 1 })

def count (_ : TableCount) (s : Scripted) : Except DatabaseError Int :=
  match s.answer with
  | some n => .ok n
  | none => .error { message := "query refused" }

def database : Database Scripted := ⟨execute, count⟩

end Scripted

end SchemaPlan
