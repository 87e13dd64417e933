import Mathlib.Algebra.Ring.Nat
import SchemaPlan.Proofs.Compile

namespace SchemaPlan

open Sql

variable (d : Dialect)

namespace Command

def isUnknownToSqlite : Command → Bool
  | .modify _ | .dropUnique _ | .dropPrimary => true
  | _ => false

def size : Command → Nat
  | .drop columns => columns.length
  | .add c => if c.index then 2 else 1
  | _ => 1

theorem isUnknownToSqlite_eq (c : Command) :
    c.isUnknownToSqlite = !isSupported .sqlite c.kind := by
  cases c <;> rfl

theorem isSupported_postgres (c : Command) : isSupported .postgres c.kind = true := by
  cases c <;> rfl

theorem length_plan (table : String) (c : Command) : (c.plan d table).length = c.size := by
  cases c with
  | add c =>
    rw [plan, List.length_cons, Column.createIndex?, size]
    cases c.index <;> rfl
  | drop columns => exact List.length_map _
  | _ => rfl

/-- The first change that is not supported decides for the whole list. -/
theorem allStatements_eq (table : String) (cs : List Command) :
    allStatements d table cs =
      match cs.find? (!isSupported d ·.kind) with
      | some c => .error ⟨d, c.kind.label, table⟩
      | none => .ok (cs.flatMap (·.plan d table)) := by
  induction cs with
  | nil => rfl
  | cons c cs ih =>
    rw [allStatements_cons]
    cases hc : isSupported d c.kind with
    | false =>
      have hfind : (c :: cs).find? (!isSupported d ·.kind) = some c :=
        List.find?_cons_of_pos (by simp [hc])
      rw [hfind]
      rfl
    | true =>
      have hfind : (c :: cs).find? (!isSupported d ·.kind) =
          cs.find? (!isSupported d ·.kind) := List.find?_cons_of_neg (by simp [hc])
      rw [hfind, ih, if_pos rfl]
      cases cs.find? (!isSupported d ·.kind) <;> rfl

theorem allStatements_append (table : String) (xs ys : List Command) :
    allStatements d table (xs ++ ys) = do
      let front ← allStatements d table xs
      let back ← allStatements d table ys
      return front ++ back := by
  rw [allStatements_eq, List.find?_append, List.flatMap_append, allStatements_eq d table xs]
  cases xs.find? (!isSupported d ·.kind) with
  | some c => rfl
  | none =>
    rw [allStatements_eq d table ys]
    cases ys.find? (!isSupported d ·.kind) <;> rfl

end Command

namespace Blueprint

def withCommands (b : Blueprint) (cs : List Command) : Blueprint :=
  { b with commands := cs }

variable (b : Blueprint) {e : Unsupported}

theorem alter_eq_error_iff_find? :
    b.alter d = .error e ↔
      ∃ c, b.commands.find? (!Command.isSupported d ·.kind) = some c ∧
        e = ⟨d, c.kind.label, b.table⟩ := by
  rw [alter, Command.allStatements_eq]
  cases b.commands.find? (!Command.isSupported d ·.kind) with
  | none => simp
  | some c =>
    constructor
    · intro h
      exact ⟨c, rfl, (Except.error.inj h).symm⟩
    · rintro ⟨c', hc, rfl⟩
      obtain rfl := Option.some.inj hc
      rfl

/-- The error is the one that its change has alone, and the changes before it have none. -/
theorem alter_eq_error_iff :
    b.alter d = .error e ↔
      ∃ pre c post, b.commands = pre ++ c :: post ∧
        (∃ ss, (b.withCommands pre).alter d = .ok ss) ∧
        (b.withCommands [c]).alter d = .error e := by
  have hpre : ∀ pre, (∃ ss, (b.withCommands pre).alter d = .ok ss) ↔
      ∀ c ∈ pre, Command.isSupported d c.kind = true := by
    intro pre
    constructor
    · rintro ⟨ss, hss⟩
      exact ((alter_eq_ok_iff d).mp hss).1
    · intro h
      exact ⟨_, (alter_eq_ok_iff d).mpr ⟨h, rfl⟩⟩
  have hone : ∀ c, (b.withCommands [c]).alter d = .error e ↔
      Command.isSupported d c.kind = false ∧ e = ⟨d, c.kind.label, b.table⟩ := by
    intro c
    rw [alter_eq_error_iff_find?]
    cases hc : Command.isSupported d c.kind <;> simp [withCommands, hc]
  rw [alter_eq_error_iff_find?]
  simp only [hpre, hone, List.find?_eq_some_iff_append, Bool.not_eq_true', Bool.not_not]
  constructor
  · rintro ⟨c, ⟨hc, pre, post, hsplit, hsupported⟩, he⟩
    exact ⟨pre, c, post, hsplit, hsupported, hc, he⟩
  · rintro ⟨pre, c, post, hsplit, hsupported, hc, he⟩
    exact ⟨c, ⟨hc, pre, post, hsplit, hsupported⟩, he⟩

theorem alter_sqlite_eq_error_iff :
    b.alter .sqlite = .error e ↔
      ∃ c, b.commands.find? Command.isUnknownToSqlite = some c ∧
        e = ⟨.sqlite, c.kind.label, b.table⟩ := by
  have hunknown : Command.isUnknownToSqlite = fun c => !Command.isSupported .sqlite c.kind :=
    funext Command.isUnknownToSqlite_eq
  rw [alter_eq_error_iff_find?, hunknown]

theorem exists_alter_sqlite_eq_error_iff :
    (∃ e, b.alter .sqlite = .error e) ↔ ∃ c ∈ b.commands, c.isUnknownToSqlite = true := by
  have hfind : (∃ c, b.commands.find? Command.isUnknownToSqlite = some c) ↔
      ∃ c ∈ b.commands, c.isUnknownToSqlite = true := by
    rw [← Option.isSome_iff_exists, List.find?_isSome]
  rw [← hfind]
  simp only [alter_sqlite_eq_error_iff]
  constructor
  · rintro ⟨e, c, hc, -⟩
    exact ⟨c, hc⟩
  · rintro ⟨c, hc⟩
    exact ⟨_, c, hc, rfl⟩

theorem exists_alter_postgres : ∃ ss, b.alter .postgres = .ok ss :=
  ⟨_, (alter_eq_ok_iff .postgres).mpr ⟨fun c _ => c.isSupported_postgres, rfl⟩⟩

theorem length_alter {ss : List Statement} (h : b.alter d = .ok ss) :
    ss.length = (b.commands.map Command.size).sum := by
  obtain ⟨-, rfl⟩ := (alter_eq_ok_iff d).mp h
  rw [List.length_flatMap]
  simp only [Command.length_plan]

/-- Changes are compiled one list after the other, and none of them if one is not supported: then
the first such change is named. PostgreSQL supports all changes, SQLite all but those that redefine
a column or drop a constraint. -/
theorem alter_compositional :
    (∀ xs ys, (b.withCommands (xs ++ ys)).alter d = do
      let front ← (b.withCommands xs).alter d
      let back ← (b.withCommands ys).alter d
      return front ++ back) ∧
    (∀ e, b.alter d = .error e ↔
      ∃ pre c post, b.commands = pre ++ c :: post ∧
        (∃ ss, (b.withCommands pre).alter d = .ok ss) ∧
        (b.withCommands [c]).alter d = .error e) ∧
    (∃ ss, b.alter .postgres = .ok ss) ∧
    ((∃ e, b.alter .sqlite = .error e) ↔ ∃ c ∈ b.commands, c.isUnknownToSqlite = true) ∧
    (∀ e, b.alter .sqlite = .error e ↔
      ∃ c, b.commands.find? Command.isUnknownToSqlite = some c ∧
        e = ⟨.sqlite, c.kind.label, b.table⟩) ∧
    ∀ ss, b.alter d = .ok ss → ss.length = (b.commands.map Command.size).sum :=
  ⟨fun xs ys => Command.allStatements_append d b.table xs ys, fun _ => b.alter_eq_error_iff d,
    b.exists_alter_postgres, b.exists_alter_sqlite_eq_error_iff,
    fun _ => b.alter_sqlite_eq_error_iff, fun _ h => b.length_alter d h⟩

theorem alter_compositional_users :
    let age : Column := { name := "age", type := .integer, index := true }
    let b : Blueprint :=
      { table := "users", mode := .alter, commands := [.drop ["a", "b"], .add age] }
    let refused := b.withCommands [.drop ["a"], .dropUnique ["b"], .modify { name := "c" }]
    (∃ ss, b.alter .sqlite = .ok ss ∧ ss.length = 4) ∧
      refused.alter .sqlite = .error ⟨.sqlite, "drop unique", "users"⟩ ∧
      ∃ pre c post, refused.commands = pre ++ c :: post ∧
        (∃ ss, (refused.withCommands pre).alter .sqlite = .ok ss) ∧
        (refused.withCommands [c]).alter .sqlite =
          .error ⟨.sqlite, "drop unique", "users"⟩ := by
  intro age b refused
  have hok : ∃ ss, b.alter .sqlite = .ok ss := ⟨_, (alter_eq_ok_iff .sqlite).mpr ⟨by decide, rfl⟩⟩
  obtain ⟨ss, hss⟩ := hok
  obtain ⟨-, -, -, -, -, hlength⟩ := alter_compositional .sqlite b
  obtain ⟨-, hfirst, -, -, hsqlite, -⟩ := alter_compositional .sqlite refused
  have herror := (hsqlite _).mpr ⟨.dropUnique ["b"], rfl, rfl⟩
  exact ⟨⟨ss, hss, hlength ss hss⟩, herror, (hfirst _).mp herror⟩

end Blueprint

end SchemaPlan
