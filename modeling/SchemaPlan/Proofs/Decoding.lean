import Mathlib.Data.List.Forall2
import SchemaPlan.Blueprint.Call
import SchemaPlan.Proofs.Literal
import SchemaPlan.Proofs.Reader
import SchemaPlan.Proofs.Text
import SchemaPlan.Sql.Compile

namespace SchemaPlan

open Sql Text

namespace Sql

/-- The type and the default of the column can be told from what is written around them. -/
structure ColumnClause.IsPlain (c : ColumnClause) : Prop where
  type : IsTypeName c.type
  default : ∀ v ∈ c.default, IsLiteral v

inductive Clause where
  | column (c : ColumnClause)
  | key (columns : List String)
  | unique (u : UniqueClause)
deriving DecidableEq, Repr

namespace Clause

def text : Clause → String
  | .column c => c.text
  | .key columns => CreateTable.keyText columns
  | .unique u => u.text

def column? : Clause → Option ColumnClause
  | .column c => some c
  | _ => none

def key? : Clause → Option (List String)
  | .key columns => some columns
  | _ => none

def unique? : Clause → Option UniqueClause
  | .unique u => some u
  | _ => none

end Clause

namespace CreateTable

def entries (t : CreateTable) : List Clause :=
  t.columns.map .column ++ (t.key.map .key).toList ++ t.uniques.map .unique

def ofEntries (table : String) (es : List Clause) : CreateTable where
  table := table
  columns := es.filterMap Clause.column?
  key := (es.filterMap Clause.key?).head?
  uniques := es.filterMap Clause.unique?

theorem ofEntries_entries (t : CreateTable) : ofEntries t.table t.entries = t := by
  cases t with
  | mk table columns key uniques =>
    cases key <;>
      simp [ofEntries, entries, List.filterMap_cons, Function.comp_def, Clause.column?,
        Clause.key?, Clause.unique?]

theorem map_text_entries (t : CreateTable) : t.entries.map Clause.text = t.clauses := by
  cases t with
  | mk table columns key uniques =>
    cases key <;> simp [entries, clauses, Clause.text, Function.comp_def]

end CreateTable

namespace Reader

def name : Reader String :=
  quoted nameMark

def typeName : Reader String := do
  let w ← run Char.isUpper
  if ← flag " PRECISION" then
    return w ++ " PRECISION"
  else if ← flag "(" then
    let sizes ← run isSizeChar
    skip ")"
    return w ++ ("(" ++ (sizes ++ ")"))
  else
    return w

def literal : Reader String := fun cs =>
  if cs.head? = some stringMark then
    (quoted stringMark cs).map fun (s, rest) => (quoteString s, rest)
  else
    run isWordChar cs

def action : Reader ReferentialAction := do
  if ← flag "NO ACTION" then return .noAction
  if ← flag "RESTRICT" then return .restrict
  if ← flag "CASCADE" then return .cascade
  if ← flag "SET NULL" then return .setNull
  skip "SET DEFAULT"
  return .setDefault

def reference : Reader Reference := do
  let table ← name
  skip " ("
  let column ← name
  skip ")"
  let onDelete ← behind " ON DELETE " action
  let onUpdate ← behind " ON UPDATE " action
  return { table, column, onDelete, onUpdate }

def columnClause : Reader ColumnClause := do
  let name ← name
  skip " "
  let type ← typeName
  let key ← flag " PRIMARY KEY"
  let counting ← flag " AUTOINCREMENT"
  let notNull ← flag " NOT NULL"
  let unique ← flag " UNIQUE"
  let default ← behind " DEFAULT " literal
  let references ← behind " REFERENCES " reference
  return { name, type, key, counting, notNull, unique, default, references }

def uniqueClause : Reader UniqueClause := do
  let name ← name
  skip " UNIQUE ("
  let columns ← enclosed Reader.name
  return { name, columns }

def clause : Reader Clause := do
  if ← flag "PRIMARY KEY (" then
    let columns ← enclosed name
    return .key columns
  else if ← flag "CONSTRAINT " then
    let u ← uniqueClause
    return .unique u
  else
    let c ← columnClause
    return .column c

def createTable : Reader CreateTable := do
  skip "CREATE TABLE "
  let table ← name
  skip " ("
  let es ← enclosed clause
  return .ofEntries table es

end Reader

def CreateTable.decode (s : String) : Option CreateTable :=
  match Reader.createTable s.toList with
  | some (t, []) => some t
  | _ => none

namespace Recovers

open Reader

variable {ws : List String}

theorem name (n : String) (hw : ws.all (stops (· == nameMark)) = true) :
    Recovers [nameMark.toString] ws name (quoteName n) n :=
  quoted nameMark n hw

theorem nameList (names : List String) :
    Recovers [")", nameMark.toString] ws (Reader.enclosed Reader.name) (nameList names ++ ")")
      names :=
  enclosed (fun n _ => name n (by decide)) (by decide)

theorem typeName {t : String} (h : IsTypeName t) (hu : ws.all (stops Char.isUpper) = true)
    (hp : ws.all (clash " PRECISION") = true)
    (hs : ws.all (clash "(") = true) : Recovers [""] ws typeName t t := by
  cases h with
  | word w hw =>
    have h : Recovers [""] ws Reader.typeName (t ++ "") t :=
      (run t hw hu).bind (((Recovers.pure t).passed hs).passed hp)
    rwa [String.append_empty] at h
  | sized w sizes hw hsizes =>
    refine (run w hw (by decide)).bind
      ((taken "(" (?_ : Recovers [""] ws _ _ _)).passed (by decide))
    exact (run sizes hsizes (by decide)).bind ((skip ")").map fun _ => w ++ ("(" ++ (sizes ++ ")")))
  | double =>
    have hword : Recovers [""] [" PRECISION"] (Reader.run Char.isUpper) "DOUBLE" "DOUBLE" :=
      run _ (List.all_eq_true.mp (by decide)) (by decide)
    have h : Recovers [""] ws Reader.typeName ("DOUBLE" ++ (" PRECISION" ++ ""))
        "DOUBLE PRECISION" := hword.bind (.taken " PRECISION" (.pure _))
    exact h

theorem literal {v : String} (h : IsLiteral v) (hw : ws.all (stops isWordChar) = true)
    (hq : ws.all (stops (· == stringMark)) = true) :
    Recovers [""] ws literal v v where
  begins rest _ := ⟨"", by simp, by simp⟩
  reads rest hr := by
    cases h with
    | string s =>
      have hs := (quoted stringMark s hq).reads rest hr
      have hmark : ((quoteString s).toList ++ rest).head? = some stringMark := by
        simp [quoteString, Quoted.toList_quote]
      unfold Reader.literal
      rw [if_pos hmark, quoteString, hs]
      rfl
    | word w hword =>
      have hs := (run v hword hw).reads rest hr
      have hmark : (v.toList ++ rest).head? ≠ some stringMark := by
        cases hv : v.toList with
        | nil =>
          obtain ⟨c, rest, rfl, hc⟩ := hr.head hq
          simpa using hc
        | cons c l =>
          have hc := hword c (by simp [hv])
          rw [List.cons_append, List.head?_cons, ne_eq, Option.some_inj]
          rintro rfl
          exact absurd hc (by decide)
      unfold Reader.literal
      rw [if_neg hmark]
      exact hs

theorem action (a : ReferentialAction) : Recovers [""] ws action a.sql a where
  begins rest _ := ⟨"", by simp, by simp⟩
  reads rest _ := by cases a <;> rfl

theorem reference (r : Reference) :
    Recovers [nameMark.toString] [", ", ")"] reference (referent r) r := by
  have hupdate : Recovers [" ON UPDATE ", ", ", ")"] [", ", ")"] _ _ r.onUpdate :=
    behind " ON UPDATE " r.onUpdate (fun a _ => action a) (by decide)
  exact (name r.table (by decide)).bind <| (skip " (").bind <|
    (name r.column (by decide)).bind <| (skip ")").bind <|
    (behind " ON DELETE " r.onDelete (fun a _ => action a) (by decide)).bind <|
    hupdate.map fun onUpdate => { r with onUpdate }

theorem columnClause {c : ColumnClause} (h : c.IsPlain) :
    Recovers [nameMark.toString] [", ", ")"] columnClause c.text c := by
  have hdefault : c.default.map id = c.default := Option.map_id_apply
  rw [c.text_eq, ← hdefault]
  have hreferences : Recovers [" REFERENCES ", ", ", ")"] [", ", ")"] _ _ c.references :=
    behind " REFERENCES " c.references (fun r _ => reference r) (by decide)
  have hliteral : ∀ v ∈ c.default,
      Recovers [""] [" REFERENCES ", ", ", ")"] Reader.literal (id v) v :=
    fun v hv => literal (h.default v hv) (by decide) (by decide)
  exact (name c.name (by decide)).bind <| (skip " ").bind <|
    (typeName h.type (by decide) (by decide) (by decide)).bind <|
    (flag " PRIMARY KEY" c.key (by decide)).bind <|
    (flag " AUTOINCREMENT" c.counting (by decide)).bind <|
    (flag " NOT NULL" c.notNull (by decide)).bind <|
    (flag " UNIQUE" c.unique (by decide)).bind <|
    (behind " DEFAULT " c.default hliteral (by decide)).bind <|
    hreferences.map fun references => { c with references }

theorem uniqueClause (u : UniqueClause) :
    Recovers [nameMark.toString] ws uniqueClause
      (quoteName u.name ++ (" UNIQUE (" ++ (Sql.nameList u.columns ++ ")"))) u := by
  have hcolumns : Recovers _ ws _ _ u :=
    (nameList u.columns).map fun columns => { u with columns }
  exact (name u.name (by decide)).bind <| (skip " UNIQUE (").bind hcolumns

theorem clause {e : Clause} (h : ∀ c ∈ e.column?, c.IsPlain) :
    Recovers ["PRIMARY KEY (", "CONSTRAINT ", nameMark.toString] [", ", ")"] clause e.text e := by
  cases e with
  | column c =>
    have hc := (columnClause (h c rfl)).map Clause.column
    exact ((hc.passed (by decide)).passed (by decide)).widen (by simp)
  | key columns =>
    rw [Clause.text, CreateTable.keyText_eq]
    exact (((nameList columns).map Clause.key).taken "PRIMARY KEY (").widen (by simp)
  | unique u =>
    rw [Clause.text, u.text_eq]
    exact ((((uniqueClause u).map Clause.unique).taken "CONSTRAINT ").passed
      (by decide)).widen (by simp)

theorem createTable {t : CreateTable} (h : ∀ c ∈ t.columns, c.IsPlain) :
    Recovers ["CREATE TABLE "] [""] createTable t.text t := by
  have hentries : ∀ e ∈ t.entries, ∀ c ∈ e.column?, c.IsPlain := by
    have hcolumns : t.entries.filterMap Clause.column? = t.columns :=
      congrArg CreateTable.columns t.ofEntries_entries
    intro e he c hc
    exact h c (hcolumns ▸ List.mem_filterMap.mpr ⟨e, he, hc⟩)
  have hread : Recovers _ [""] _ _ (CreateTable.ofEntries t.table t.entries) :=
    (enclosed (fun e he => clause (hentries e he)) (by decide)).map fun es =>
      CreateTable.ofEntries t.table es
  rw [t.map_text_entries, t.ofEntries_entries] at hread
  rw [t.text_eq]
  exact (skip "CREATE TABLE ").bind <| (name t.table (by decide)).bind <| (skip " (").bind hread

end Recovers

theorem CreateTable.decode_text {t : CreateTable} (h : ∀ c ∈ t.columns, c.IsPlain) :
    decode t.text = some t := by
  have hread := (Recovers.createTable h).reads [] ⟨"", by simp, by simp⟩
  rw [List.append_nil] at hread
  rw [decode, hread]

end Sql

structure Column.Agree (d : Dialect) (c c' : Column) (inlineKey inlineKey' : Bool) : Prop where
  name : c.name = c'.name
  type : d.columnTypeName c = d.columnTypeName c'
  key : d.clauseHasKey c inlineKey = d.clauseHasKey c' inlineKey'
  counting : (d.columnClause c inlineKey).counting = (d.columnClause c' inlineKey').counting
  notNull : (d.columnClause c inlineKey).notNull = (d.columnClause c' inlineKey').notNull
  unique : c.unique = c'.unique
  default : c.default.map d.defaultSql = c'.default.map d.defaultSql
  references : c.references = c'.references

namespace Blueprint

def uniqueKeys (b : Blueprint) : List (String × List String) :=
  (b.indexes.filter (·.kind = .unique)).map fun i => (i.nameFor b.table, i.columns)

structure Agree (d : Dialect) (b b' : Blueprint) : Prop where
  table : b.table = b'.table
  columns : List.Forall₂ (fun c c' => c.Agree d c' (b.hasInlineKey c) (b'.hasInlineKey c'))
    b.columns b'.columns
  key : (b.createTable d).key = (b'.createTable d).key
  uniques : b.uniqueKeys = b'.uniqueKeys

variable (d : Dialect) {b b' : Blueprint}

theorem isPlain_createTable (hv : ∀ c ∈ b.columns, ∀ v ∈ c.default, v.isExpression = false) :
    ∀ c ∈ (b.createTable d).columns, c.IsPlain := by
  intro k hk
  obtain ⟨c, hc, rfl⟩ := List.mem_map.mp hk
  refine ⟨d.isTypeName_columnTypeName c, fun s hs => ?_⟩
  obtain ⟨v, hcv, rfl⟩ := Option.map_eq_some_iff.mp hs
  exact d.isLiteral_defaultSql v (hv c hc v hcv)

theorem map_uniques_createTable :
    (b.createTable d).uniques.map (fun u => (u.name, u.columns)) = b.uniqueKeys := by
  unfold createTable uniqueKeys
  induction b.indexes with
  | nil => rfl
  | cons i is ih =>
    by_cases hk : i.kind = .unique
    · simpa [Index.unique?, hk] using ih
    · simpa [Index.unique?, hk] using ih

theorem agree_of_createTable_eq (h : b.createTable d = b'.createTable d) : b.Agree d b' where
  table := congrArg CreateTable.table h
  columns := by
    have hc := congrArg CreateTable.columns h
    unfold createTable at hc
    dsimp only at hc
    rw [← List.forall₂_eq_eq_eq, List.forall₂_map_left_iff, List.forall₂_map_right_iff] at hc
    refine hc.imp fun c c' h => ?_
    constructor
    · exact congrArg ColumnClause.name h
    · exact congrArg ColumnClause.type h
    · exact congrArg ColumnClause.key h
    · exact congrArg ColumnClause.counting h
    · exact congrArg ColumnClause.notNull h
    · exact congrArg ColumnClause.unique h
    · exact congrArg ColumnClause.default h
    · exact congrArg ColumnClause.references h
  key := congrArg CreateTable.key h
  uniques := by rw [← map_uniques_createTable d, h, map_uniques_createTable d]

/-- In either dialect the text of a table reads back as what it was made from, whatever the names.
So blueprints whose tables are created by one text agree. -/
theorem decode_createTable (hv : ∀ c ∈ b.columns, ∀ v ∈ c.default, v.isExpression = false) :
    CreateTable.decode (b.createTable d).text = some (b.createTable d) ∧
      ∀ b' : Blueprint, (∀ c ∈ b'.columns, ∀ v ∈ c.default, v.isExpression = false) →
        (b.createTable d).text = (b'.createTable d).text → b.Agree d b' := by
  have hdecode := CreateTable.decode_text (isPlain_createTable d hv)
  refine ⟨hdecode, fun b' hv' h => agree_of_createTable_eq d ?_⟩
  rw [h, CreateTable.decode_text (isPlain_createTable d hv')] at hdecode
  exact (Option.some.inj hdecode).symm

theorem decode_createTable_of_quotes :
    let b := build "t\" (" .create
      [.column (.text "a\", \"b") [.default (.string "', '")], .unique ["a\""]]
    CreateTable.decode (b.createTable .sqlite).text = some (b.createTable .sqlite) :=
  (decode_createTable .sqlite (by decide)).1

end Blueprint

end SchemaPlan
