import Mathlib.Data.List.Forall2
import SchemaPlan.Proofs.Compile
import SchemaPlan.Proofs.Text

namespace SchemaPlan

open Sql

/-- The column is not serial, and if the key is written beside it then it may hold nulls. -/
structure Column.IsOrdinary (c : Column) (inlineKey : Bool) : Prop where
  notSerial : c.isSerial = false
  notKey : ¬(inlineKey = true ∧ c.primary = true ∧ c.nullable = false)

structure Column.IsPortable (c : Column) : Prop where
  notFloat : c.type ≠ .float
  notDateTime : c.type ≠ .dateTime
  notBool : ∀ b, c.default ≠ some (.bool b)

namespace Dialect

variable (d e : Dialect)

/-- The word of the dialect for a default that is true or false. Other defaults have none. -/
def boolToken (d : Dialect) : Option DefaultValue → String
  | some (.bool b) => d.boolTokens.ofBool b
  | _ => ""

theorem typeName_eq {t : ColumnType} (hfloat : t ≠ .float) (hdateTime : t ≠ .dateTime) :
    d.typeName t = e.typeName t := by
  cases t with
  | float => exact absurd rfl hfloat
  | dateTime => exact absurd rfl hdateTime
  | _ => rfl

/-- Without the words for true and false a default is spelled alike. -/
theorem led_default (o : Option DefaultValue) :
    led " DEFAULT " (o.map d.defaultSql) =
      led " DEFAULT " (o.map (DefaultValue.sql ⟨"", ""⟩)) ++ d.boolToken o := by
  cases o with
  | none => rfl
  | some v =>
    cases v with
    | bool b => cases b <;> rfl
    | _ => exact String.append_empty.symm

variable {c : Column} {inlineKey : Bool}

theorem columnClause_eq (h : c.IsOrdinary inlineKey) :
    d.columnClause c inlineKey =
      { name := c.name, type := d.typeName c.type, key := inlineKey && c.primary,
        counting := false, notNull := !c.nullable, unique := c.unique,
        default := c.default.map d.defaultSql, references := c.references } := by
  have hkey : d.clauseHasKey c inlineKey = (inlineKey && c.primary) := by
    rw [clauseHasKey, h.notSerial, Bool.and_false, Bool.or_false]
  -- SQLite leaves out that a key has no nulls, which such a column must say if it is one.
  have hnull : (!c.nullable && !d.impliesNotNull c inlineKey) = !c.nullable := by
    cases d with
    | sqlite =>
      rw [impliesNotNull, hkey]
      cases hnullable : c.nullable with
      | true => rfl
      | false =>
        have hk : (inlineKey && c.primary) = false := by simpa [hnullable] using h.notKey
        rw [hk]
        rfl
    | postgres => rw [impliesNotNull, h.notSerial, Bool.not_false, Bool.and_true]
  unfold columnClause columnTypeName
  rw [hkey, hnull, h.notSerial, Bool.and_false]
  rfl

/-- Of the clause of an ordinary column only two places hang on the dialect: its type, and the word
for a default that is true or false. -/
theorem exists_text_columnClause (h : c.IsOrdinary inlineKey) :
    ∃ front middle back, ∀ d : Dialect, (d.columnClause c inlineKey).text =
      front ++ d.typeName c.type ++ middle ++ d.boolToken c.default ++ back := by
  refine ⟨quoteName c.name ++ " ",
    onlyIf (inlineKey && c.primary) " PRIMARY KEY" ++ onlyIf (!c.nullable) " NOT NULL" ++
      onlyIf c.unique " UNIQUE" ++ led " DEFAULT " (c.default.map (DefaultValue.sql ⟨"", ""⟩)),
    led " REFERENCES " (c.references.map referent), fun d => ?_⟩
  rw [columnClause_eq d h, ColumnClause.text_eq]
  dsimp only
  rw [led_default]
  simp only [String.append_assoc, onlyIf, Bool.false_eq_true, if_false, String.empty_append]

theorem columnClause_eq_of_isPortable (h : c.IsOrdinary inlineKey) (hc : c.IsPortable) :
    d.columnClause c inlineKey = e.columnClause c inlineKey := by
  have hdefault : c.default.map d.defaultSql = c.default.map e.defaultSql := by
    cases hv : c.default with
    | none => rfl
    | some v =>
      cases v with
      | bool b => exact absurd hv (hc.notBool b)
      | _ => rfl
  rw [columnClause_eq d h, columnClause_eq e h, typeName_eq d e hc.notFloat hc.notDateTime,
    hdefault]

end Dialect

/-- The same statement, or one that adds the same column in the words of either dialect. -/
inductive Sql.Statement.SameOrAdded : Statement → Statement → Prop
  | same (st : Statement) : SameOrAdded st st
  | added (table : String) (c : Column) :
      SameOrAdded (.addColumn table (Dialect.sqlite.columnClause c c.primary))
        (.addColumn table (Dialect.postgres.columnClause c c.primary))

open Statement (SameOrAdded)

/-- A change that SQLite supports is planned alike, apart from a column that is added. -/
theorem Command.sameOrAdded_plan (table : String) {c : Command}
    (h : isSupported .sqlite c.kind = true) :
    List.Forall₂ SameOrAdded (c.plan .sqlite table) (c.plan .postgres table) := by
  have hsame : ∀ ss, List.Forall₂ SameOrAdded ss ss :=
    fun ss => List.forall₂_same.mpr fun st _ => .same st
  cases c with
  | add c => exact .cons (.added table c) (hsame _)
  | drop | rename | dropIndex => exact hsame _
  | modify | dropUnique | dropPrimary => cases h

theorem Command.sameOrAdded_flatMap_plan (table : String) {cs : List Command}
    (h : ∀ c ∈ cs, isSupported .sqlite c.kind = true) :
    List.Forall₂ SameOrAdded (cs.flatMap (·.plan .sqlite table))
      (cs.flatMap (·.plan .postgres table)) := by
  induction cs with
  | nil => exact .nil
  | cons c cs ih =>
    obtain ⟨hc, hcs⟩ := List.forall_mem_cons.mp h
    exact List.rel_append (sameOrAdded_plan table hc) (ih hcs)

namespace Blueprint

variable (b : Blueprint)

theorem alter_postgres {xs : List Statement} (h : b.alter .sqlite = .ok xs) :
    ∃ ys, b.alter .postgres = .ok ys ∧ List.Forall₂ SameOrAdded xs ys := by
  obtain ⟨hsupported, rfl⟩ := (alter_eq_ok_iff .sqlite).mp h
  refine ⟨_, (alter_eq_ok_iff .postgres).mpr ⟨fun c _ => ?_, rfl⟩,
    Command.sameOrAdded_flatMap_plan b.table hsupported⟩
  cases c <;> rfl

theorem createTable_eq_of_isPortable (d e : Dialect)
    (h : ∀ c ∈ b.columns, c.IsOrdinary (b.hasInlineKey c) ∧ c.IsPortable) :
    b.createTable d = b.createTable e := by
  have hcolumns : b.columns.map (fun c => d.columnClause c (b.hasInlineKey c)) =
      b.columns.map (fun c => e.columnClause c (b.hasInlineKey c)) :=
    List.map_congr_left fun c hc =>
      Dialect.columnClause_eq_of_isPortable d e (h c hc).1 (h c hc).2
  rw [createTable, hcolumns, createTable]

/-- The dialects agree on the indexes of a new table, on each change that SQLite has a statement for
except on columns that are added, on ordinary columns but for two places, and on ordinary portable
columns, and so tables, altogether. -/
theorem dialects_agree :
    (b.create .sqlite).tail = (b.create .postgres).tail ∧
    (∀ xs, b.alter .sqlite = .ok xs →
      ∃ ys, b.alter .postgres = .ok ys ∧ List.Forall₂ SameOrAdded xs ys) ∧
    (∀ (c : Column) (inlineKey : Bool), c.IsOrdinary inlineKey →
      (∃ front middle back, ∀ d : Dialect, (d.columnClause c inlineKey).text =
        front ++ d.typeName c.type ++ middle ++ d.boolToken c.default ++ back) ∧
      (c.IsPortable → (Dialect.sqlite.columnClause c inlineKey).text =
        (Dialect.postgres.columnClause c inlineKey).text)) ∧
    ((∀ c ∈ b.columns, c.IsOrdinary (b.hasInlineKey c) ∧ c.IsPortable) →
      (b.createTable .sqlite).text = (b.createTable .postgres).text) := by
  refine ⟨rfl, fun xs h => b.alter_postgres h, fun c inlineKey h => ⟨?_, fun hc => ?_⟩, fun h => ?_⟩
  · exact Dialect.exists_text_columnClause h
  · rw [Dialect.columnClause_eq_of_isPortable .sqlite .postgres h hc]
  · rw [b.createTable_eq_of_isPortable .sqlite .postgres h]

theorem dialects_agree_portable :
    let code : Column := { name := "code", type := .string 20, nullable := true, primary := true }
    let on : Column := { name := "on", type := .boolean, default := some (.bool true) }
    let b : Blueprint :=
      { table := "t", mode := .create, columns := [code], commands := [.add on, .rename "a" "b"] }
    b.alter .sqlite = .ok [.addColumn "t" (Dialect.sqlite.columnClause on false),
        .renameColumn "t" "a" "b"] ∧
      (∃ ys, b.alter .postgres = .ok ys ∧ List.Forall₂ SameOrAdded
        [.addColumn "t" (Dialect.sqlite.columnClause on false), .renameColumn "t" "a" "b"] ys) ∧
      on.IsOrdinary false ∧
      (∃ front middle back, ∀ d : Dialect, (d.columnClause on false).text =
        front ++ d.typeName .boolean ++ middle ++ d.boolToken (some (.bool true)) ++ back) ∧
      (∀ c ∈ b.columns, c.IsOrdinary (b.hasInlineKey c) ∧ c.IsPortable) ∧
      (b.createTable .sqlite).text = (b.createTable .postgres).text := by
  intro code on b
  have halter : b.alter .sqlite = .ok [.addColumn "t" (Dialect.sqlite.columnClause on false),
      .renameColumn "t" "a" "b"] := by decide +kernel
  have hon : on.IsOrdinary false := ⟨rfl, by decide⟩
  have hcode : ∀ c ∈ b.columns, c.IsOrdinary (b.hasInlineKey c) ∧ c.IsPortable := by
    intro c hc
    obtain rfl := List.mem_singleton.mp hc
    exact ⟨⟨rfl, by decide⟩, ⟨by decide, by decide, fun _ => nofun⟩⟩
  obtain ⟨-, hcommands, hclauses, htable⟩ := dialects_agree b
  exact ⟨halter, hcommands _ halter, hon, (hclauses on false hon).1, hcode, htable hcode⟩

end Blueprint

end SchemaPlan
