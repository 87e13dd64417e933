import Mathlib.Algebra.Ring.Nat
import Mathlib.Data.List.ModifyLast
import SchemaPlan.Session.Basic
import SchemaPlan.Proofs.Building

namespace SchemaPlan

/-- One thing that a declaration does to the lists of a blueprint: it puts a bare entry at the end
of its list, or refines the entry that stands last there. -/
inductive Edit where
  | pushColumn (c : Column)
  | refineColumn (m : Modifier)
  | pushIndex (i : Index)
  | pushCommand (c : Command)
  | refineAdded (m : Modifier)
  | refineChange (m : ChangeModifier)

namespace Edit

def inAdded (m : Modifier) : Command → Command
  | .add c => .add (m.apply c)
  | c => c

def inChange (m : ChangeModifier) : Command → Command
  | .modify c => .modify (m.apply c)
  | c => c

def apply (b : Blueprint) : Edit → Blueprint
  | .pushColumn c => { b with columns := b.columns ++ [c] }
  | .refineColumn m => { b with columns := b.columns.modifyLast (Modifier.apply · m) }
  | .pushIndex i => { b with indexes := b.indexes ++ [i] }
  | .pushCommand c => { b with commands := b.commands ++ [c] }
  | .refineAdded m => { b with commands := b.commands.modifyLast (inAdded m) }
  | .refineChange m => { b with commands := b.commands.modifyLast (inChange m) }

end Edit

namespace ColumnStart

def bare : ColumnStart → Column
  | .id => { name := "id", type := .bigInteger }
  | .bigIncrements name => { name, type := .bigInteger }
  | .increments name => { name, type := .integer }
  | .foreignId name => { name, type := .bigInteger }
  | start => start.column

/-- What a bare column is refined by before the modifiers that are asked for. -/
def presets : ColumnStart → List Modifier
  | .id | .bigIncrements _ | .increments _ => [.autoIncrement, .primary, .unsigned]
  | .foreignId _ => [.unsigned]
  | _ => []

theorem modify_bare (start : ColumnStart) (mods : List Modifier) :
    start.bare.modify (start.presets ++ mods) = start.column.modify mods := by
  rw [Column.modify_append]
  cases start <;> rfl

end ColumnStart

namespace Call

def edits : Call → List Edit
  | .column start mods => .pushColumn start.bare :: (start.presets ++ mods).map .refineColumn
  | .timestamps =>
    [.pushColumn { name := "created_at", type := .timestamp }, .refineColumn .nullable,
      .pushColumn { name := "updated_at", type := .timestamp }, .refineColumn .nullable]
  | .softDeletes =>
    [.pushColumn { name := "deleted_at", type := .timestamp }, .refineColumn .nullable]
  | .index columns => [.pushIndex ⟨.index, columns, none⟩]
  | .indexNamed name columns => [.pushIndex ⟨.index, columns, some name⟩]
  | .unique columns => [.pushIndex ⟨.unique, columns, none⟩]
  | .uniqueNamed name columns => [.pushIndex ⟨.unique, columns, some name⟩]
  | .primary columns => [.pushIndex ⟨.primary, columns, none⟩]
  | .add start mods => .pushCommand (.add start.bare) :: (start.presets ++ mods).map .refineAdded
  | .drop columns => [.pushCommand (.drop columns)]
  | .rename old new => [.pushCommand (.rename old new)]
  | .modify name mods => .pushCommand (.modify { name }) :: mods.map .refineChange
  | .dropIndex columns => [.pushCommand (.dropIndex columns)]
  | .dropUnique columns => [.pushCommand (.dropUnique columns)]
  | .dropPrimary => [.pushCommand .dropPrimary]

def mode : Call → Mode
  | .add .. | .drop _ | .rename .. | .modify .. | .dropIndex _ | .dropUnique _ | .dropPrimary =>
    .alter
  | _ => .create

end Call

namespace Blueprint

variable (b : Blueprint)

theorem append_columns (cs : List Column) :
    b.append { columns := cs } = { b with columns := b.columns ++ cs } := by
  change Blueprint.mk ⟨b.columns ++ cs, b.indexes ++ [], b.commands ++ []⟩ _ _ = _
  rw [List.append_nil, List.append_nil]

theorem append_indexes (is : List Index) :
    b.append { indexes := is } = { b with indexes := b.indexes ++ is } := by
  change Blueprint.mk ⟨b.columns ++ [], b.indexes ++ is, b.commands ++ []⟩ _ _ = _
  rw [List.append_nil, List.append_nil]

theorem append_commands (cs : List Command) :
    b.append { commands := cs } = { b with commands := b.commands ++ cs } := by
  change Blueprint.mk ⟨b.columns ++ [], b.indexes ++ [], b.commands ++ cs⟩ _ _ = _
  rw [List.append_nil, List.append_nil]

/-- Refinements of what was put last leave all that was there before. -/
theorem foldl_refineColumn (c : Column) (mods : List Modifier) :
    (mods.map .refineColumn).foldl Edit.apply (b.append { columns := [c] }) =
      b.append { columns := [c.modify mods] } := by
  rw [List.foldl_map]
  refine List.foldl_hom (fun c => b.append { columns := [c] }) fun c m => ?_
  rw [append_columns, append_columns, Edit.apply, List.modifyLast_concat]

theorem foldl_refineAdded (c : Column) (mods : List Modifier) :
    (mods.map .refineAdded).foldl Edit.apply (b.append { commands := [.add c] }) =
      b.append { commands := [.add (c.modify mods)] } := by
  rw [List.foldl_map]
  refine List.foldl_hom (fun c => b.append { commands := [.add c] }) fun c m => ?_
  rw [append_commands, append_commands, Edit.apply, List.modifyLast_concat]
  rfl

theorem foldl_refineChange (c : ColumnChange) (mods : List ChangeModifier) :
    (mods.map .refineChange).foldl Edit.apply (b.append { commands := [.modify c] }) =
      b.append { commands := [.modify (c.modify mods)] } := by
  rw [List.foldl_map]
  refine List.foldl_hom (fun c => b.append { commands := [.modify c] }) fun c m => ?_
  rw [append_commands, append_commands, Edit.apply, List.modifyLast_concat]
  rfl

theorem foldl_pushColumn (c : Column) (mods : List Modifier) :
    (Edit.pushColumn c :: mods.map .refineColumn).foldl Edit.apply b =
      b.append { columns := [c.modify mods] } := by
  rw [List.foldl_cons, Edit.apply, ← append_columns, foldl_refineColumn]

/-- Step by step a declaration does the same: it refines no entry but those it has put there. -/
theorem foldl_edits (c : Call) : c.edits.foldl Edit.apply b = b.perform c := by
  cases c with
  | column start mods =>
    rw [perform, Call.entries, ← start.modify_bare]
    exact b.foldl_pushColumn start.bare _
  | timestamps =>
    let created : Column := { name := "created_at", type := .timestamp }
    let updated : Column := { name := "updated_at", type := .timestamp }
    change [.pushColumn updated, .refineColumn .nullable].foldl Edit.apply
      ([.pushColumn created, .refineColumn .nullable].foldl Edit.apply b) = _
    have hcreated := b.foldl_pushColumn created [.nullable]
    have hupdated := (b.append { columns := [created.modify [.nullable]] }).foldl_pushColumn
      updated [.nullable]
    rw [append_append] at hupdated
    rw [List.map_cons, List.map_nil] at hcreated
    rw [hcreated]
    exact hupdated
  | softDeletes =>
    exact b.foldl_pushColumn { name := "deleted_at", type := .timestamp } [.nullable]
  | add start mods =>
    rw [perform, Call.entries, ← start.modify_bare, ← foldl_refineAdded, append_commands]
    rfl
  | modify name mods =>
    rw [perform, Call.entries, ← foldl_refineChange, append_commands]
    rfl
  | index | indexNamed | unique | uniqueNamed | primary => exact (b.append_indexes _).symm
  | drop | rename | dropIndex | dropUnique | dropPrimary => exact (b.append_commands _).symm

end Blueprint

namespace Mode

def other : Mode → Mode
  | .create => .alter
  | .alter => .create

theorem eq_other_iff (m n : Mode) : m = n.other ↔ m ≠ n := by
  cases m <;> cases n <;> decide

def ignoring (table : String) (count : Nat) : Mode → Event
  | .create => .ignoredCommands table count
  | .alter => .ignoredDefinitions table count

end Mode

namespace Entries

def size (e : Entries) : Nat :=
  e.columns.length + e.indexes.length + e.commands.length

def usedIn (e : Entries) : Mode → Entries
  | .create => { e with commands := [] }
  | .alter => { e with columns := [], indexes := [] }

theorem size_append (a b : Entries) : (a ++ b).size = a.size + b.size := by
  simp only [size, columns_append, indexes_append, commands_append, List.length_append]
  omega

theorem usedIn_append (a b : Entries) (m : Mode) :
    (a ++ b).usedIn m = a.usedIn m ++ b.usedIn m := by
  cases m <;> rfl

end Entries

namespace Call

theorem usedIn_entries (c : Call) (m : Mode) :
    c.entries.usedIn m = if c.mode = m then c.entries else {} := by
  cases c <;> cases m <;> rfl

theorem size_entries_pos (c : Call) : 0 < c.entries.size := by
  cases c <;> exact Nat.succ_pos _

variable (calls : List Call)

theorem usedIn_allEntries (m : Mode) :
    (allEntries calls).usedIn m = allEntries (calls.filter (·.mode = m)) := by
  induction calls with
  | nil => cases m <;> rfl
  | cons c calls ih =>
    rw [allEntries_cons, Entries.usedIn_append, ih, usedIn_entries]
    by_cases hc : c.mode = m
    · rw [if_pos hc, List.filter_cons_of_pos (by simpa using hc), allEntries_cons]
    · rw [if_neg hc, List.filter_cons_of_neg (by simpa using hc)]
      rfl

theorem size_allEntries : (allEntries calls).size = (calls.map (·.entries.size)).sum := by
  induction calls with
  | nil => rfl
  | cons c calls ih => rw [allEntries_cons, Entries.size_append, ih, List.map_cons, List.sum_cons]

theorem sum_size_eq_zero_iff : (calls.map (·.entries.size)).sum = 0 ↔ calls = [] := by
  cases calls with
  | nil => exact iff_of_true rfl rfl
  | cons c calls =>
    have hc := c.size_entries_pos
    rw [List.map_cons, List.sum_cons]
    simp only [reduceCtorEq, iff_false]
    omega

end Call

namespace Blueprint

variable (b : Blueprint) (d : Dialect)

/-- Entries that the mode has no use for have no part in the plan. -/
theorem compile_usedIn : ({ b with toEntries := b.usedIn b.mode } : Blueprint).compile d =
    b.compile d := by
  obtain ⟨entries, table, mode⟩ := b
  cases mode <;> rfl

theorem ignored_eq_size : b.ignored = (b.usedIn b.mode.other).size := by
  obtain ⟨entries, table, mode⟩ := b
  cases mode <;> simp [ignored, Entries.usedIn, Entries.size, Mode.other]

theorem warnings_eq :
    b.warnings = if b.ignored = 0 then [] else [b.mode.ignoring b.table b.ignored] := by
  unfold warnings
  cases b.mode <;> rfl

variable (table : String) (mode : Mode) (calls : List Call)

theorem compile_build_filter :
    (build table mode (calls.filter (·.mode = mode))).compile d =
      (build table mode calls).compile d := by
  rw [← compile_usedIn (build table mode calls), build_eq, build_eq, ← Call.usedIn_allEntries]

theorem ignored_build : (build table mode calls).ignored =
    ((calls.filter (·.mode ≠ mode)).map (·.entries.size)).sum := by
  have hfilter : calls.filter (·.mode ≠ mode) = calls.filter (·.mode = mode.other) :=
    List.filter_congr fun c _ => decide_eq_decide.mpr (c.mode.eq_other_iff mode).symm
  rw [ignored_eq_size, build_eq, hfilter, ← Call.size_allEntries, ← Call.usedIn_allEntries]

theorem warnings_build :
    let unused := calls.filter (·.mode ≠ mode)
    (build table mode calls).warnings = if unused = [] then [] else
      [mode.ignoring table (unused.map (·.entries.size)).sum] := by
  intro unused
  have hzero := Call.sum_size_eq_zero_iff unused
  rw [warnings_eq, ignored_build, table_build, mode_build]
  simp only [hzero, unused]

/-- Declarations only add to three lists, each at the end and each what it adds alone: what was
there is not refined again. Those that are not for the mode have no part in what is compiled. They
are warned of once, by the number of their entries. -/
theorem declarations_independent {σ : Type} (s : Session σ) :
    let alone (c : Call) := (empty table mode).perform c
    let b := build table mode calls
    let unused := calls.filter (·.mode ≠ mode)
    b.table = table ∧ b.mode = mode ∧
      b.columns = calls.flatMap (fun c => (alone c).columns) ∧
      b.indexes = calls.flatMap (fun c => (alone c).indexes) ∧
      b.commands = calls.flatMap (fun c => (alone c).commands) ∧
    (∀ (before : Blueprint) (c : Call),
      let after := before.perform c
      c.edits.foldl Edit.apply before = after ∧ after.table = before.table ∧
        after.mode = before.mode ∧ before.columns <+: after.columns ∧
        before.indexes <+: after.indexes ∧ before.commands <+: after.commands) ∧
    (s.compile b).result = (s.compile (build table mode (calls.filter (·.mode = mode)))).result ∧
    (s.compile b).trail.events = if unused = [] then [] else
      [mode.ignoring table (unused.map fun c => (alone c).size).sum] := by
  intro alone b unused
  have hb : b = { Call.allEntries calls with table, mode } := build_eq table mode calls
  refine ⟨by rw [hb], by rw [hb], by rw [hb]; rfl, by rw [hb]; rfl, by rw [hb]; rfl, ?_, ?_, ?_⟩
  · intro before c after
    exact ⟨before.foldl_edits c, rfl, rfl, List.prefix_append _ _, List.prefix_append _ _,
      List.prefix_append _ _⟩
  · unfold Session.compile
    rw [compile_build_filter]
  · exact warnings_build table mode calls

end Blueprint

end SchemaPlan
