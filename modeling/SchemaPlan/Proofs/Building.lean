import SchemaPlan.Blueprint.Call

namespace SchemaPlan

namespace Call

def allEntries (calls : List Call) : Entries where
  columns := calls.flatMap (·.entries.columns)
  indexes := calls.flatMap (·.entries.indexes)
  commands := calls.flatMap (·.entries.commands)

theorem allEntries_cons (c : Call) (calls : List Call) :
    allEntries (c :: calls) = c.entries ++ allEntries calls := rfl

theorem allEntries_append (xs ys : List Call) :
    allEntries (xs ++ ys) = allEntries xs ++ allEntries ys := by
  induction xs with
  | nil => rfl
  | cons c xs ih =>
    rw [List.cons_append, allEntries_cons, ih, allEntries_cons, Entries.append_assoc]

end Call

namespace Blueprint

theorem append_append (b : Blueprint) (e f : Entries) :
    (b.append e).append f = b.append (e ++ f) := by
  unfold append
  rw [Entries.append_assoc]

theorem foldl_perform (b : Blueprint) (calls : List Call) :
    calls.foldl perform b = b.append (Call.allEntries calls) := by
  induction calls generalizing b with
  | nil =>
    unfold append
    rw [List.foldl_nil, show Call.allEntries [] = {} from rfl, Entries.append_nil]
  | cons c calls ih => rw [List.foldl_cons, ih, perform, append_append, Call.allEntries_cons]

/-- Declarations only add to what is there, each what it would add to a blueprint by itself. -/
theorem build_eq (table : String) (mode : Mode) (calls : List Call) :
    build table mode calls = { Call.allEntries calls with table, mode } :=
  foldl_perform (empty table mode) calls

theorem table_build (table : String) (mode : Mode) (calls : List Call) :
    (build table mode calls).table = table := by
  rw [build_eq]

theorem mode_build (table : String) (mode : Mode) (calls : List Call) :
    (build table mode calls).mode = mode := by
  rw [build_eq]

end Blueprint

end SchemaPlan
