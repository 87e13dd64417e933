import SchemaPlan.Index
import SchemaPlan.Command

namespace SchemaPlan

inductive Mode where
  | create
  | alter
deriving DecidableEq, Repr

/-- What was declared for a table, in three lists that only grow at their ends. -/
structure Entries where
  columns : List Column := []
  indexes : List Index := []
  commands : List Command := []
deriving DecidableEq

namespace Entries

def append (a b : Entries) : Entries :=
  ⟨a.columns ++ b.columns, a.indexes ++ b.indexes, a.commands ++ b.commands⟩

instance : Append Entries := ⟨append⟩

variable (a b c : Entries)

@[simp] theorem columns_append : (a ++ b).columns = a.columns ++ b.columns := rfl

@[simp] theorem indexes_append : (a ++ b).indexes = a.indexes ++ b.indexes := rfl

@[simp] theorem commands_append : (a ++ b).commands = a.commands ++ b.commands := rfl

theorem append_assoc : a ++ b ++ c = a ++ (b ++ c) := by
  change append (append a b) c = append a (append b c)
  simp [append, List.append_assoc]

theorem append_nil : a ++ ({} : Entries) = a := by
  change append a {} = a
  simp [append]

end Entries

/-- A table to be created from its columns and indexes, or to be altered by its commands. -/
structure Blueprint extends Entries where
  table : String
  mode : Mode
deriving DecidableEq

namespace Blueprint

def empty (table : String) (mode : Mode) : Blueprint :=
  { table, mode }

def append (b : Blueprint) (e : Entries) : Blueprint :=
  { b with toEntries := b.toEntries ++ e }

end Blueprint

end SchemaPlan
