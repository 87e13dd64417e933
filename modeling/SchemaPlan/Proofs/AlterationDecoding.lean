import SchemaPlan.Proofs.Alteration
import SchemaPlan.Proofs.Decoding
import SchemaPlan.Proofs.Structure

namespace SchemaPlan

open Sql

namespace Sql

/-- One elementary change to a table, as PostgreSQL is asked for it. A unique constraint is dropped
under two names. -/
inductive Alteration where
  | addColumn (table : String) (clause : ColumnClause)
  | createIndex (name table column : String)
  | dropColumn (table column : String)
  | renameColumn (table old new : String)
  | modifyColumn (table column : String) (type : Option String) (nullable : Bool)
      (default : Option String)
  | dropIndex (name : String)
  | dropUnique (table name key : String)
  | dropPrimary (table name : String)
deriving DecidableEq, Repr

namespace Alteration

def actions (type : Option String) (nullable : Bool) (default : Option String) :
    List ColumnAction :=
  (type.map .setType).toList ++ [if nullable then .dropNotNull else .setNotNull] ++
    (default.map .setDefault).toList

def statement : Alteration → Statement
  | .addColumn table clause => .addColumn table clause
  | .createIndex name table column => .createIndex name table [column]
  | .dropColumn table column => .dropColumn table column
  | .renameColumn table old new => .renameColumn table old new
  | .modifyColumn table column type nullable default =>
    .alterColumn table column (actions type nullable default)
  | .dropIndex name => .dropIndex name
  | .dropUnique table name key => .dropConstraints table [name, key]
  | .dropPrimary table name => .dropConstraints table [name]

def IsPlain : Alteration → Prop
  | .addColumn _ clause => clause.IsPlain
  | .modifyColumn _ _ type _ default => (∀ t ∈ type, IsTypeName t) ∧ ∀ v ∈ default, IsLiteral v
  | _ => True

def lead (table column : String) : String :=
  Statement.altering table ++ (" ALTER COLUMN " ++ quoteName column)

def dropLead (table : String) : String :=
  Statement.altering table ++ " DROP CONSTRAINT IF EXISTS "

def nullability (nullable : Bool) : String :=
  if nullable then " DROP NOT NULL" else " SET NOT NULL"

/-- The constraint of the key has one name, a unique constraint two. -/
def ofDropped (table name : String) : Option String → Alteration
  | some key => .dropUnique table name key
  | none => .dropPrimary table name

section Text

variable (table column : String)

theorem text_modifyColumn (type : Option String) (nullable : Bool) (default : Option String) :
    (modifyColumn table column type nullable default).statement.text =
      "ALTER TABLE " ++ (quoteName table ++ (" ALTER COLUMN " ++ (quoteName column ++
        (led " TYPE " (type.map fun t => t ++ ("; " ++ lead table column)) ++
          (nullability nullable ++
            led "; " (default.map fun v => lead table column ++ (" SET DEFAULT " ++ v))))))) := by
  have hpart : ∀ a : ColumnAction,
      Statement.alterColumnPart table column a = lead table column ++ a.text := by
    intro a
    rw [Statement.alterColumnPart_eq]
    simp only [lead, String.append_assoc]
  have hlead : ∀ s, "ALTER TABLE " ++ (quoteName table ++ (" ALTER COLUMN " ++
      (quoteName column ++ s))) = lead table column ++ s := by
    intro s
    simp only [lead, Statement.altering, String.append_assoc]
  rw [hlead]
  have htype : ∀ t, (ColumnAction.setType t).text = " TYPE " ++ t := fun _ => rfl
  have hnull : (if nullable then ColumnAction.dropNotNull else .setNotNull).text =
      nullability nullable := by cases nullable <;> rfl
  have hdefault : ∀ v, (ColumnAction.setDefault v).text = " SET DEFAULT " ++ v := fun _ => rfl
  change "; ".intercalate ((actions type nullable default).map _) = _
  cases type <;> cases default <;>
    simp only [actions, Option.map_none, Option.map_some, Option.toList_none, Option.toList_some,
      List.nil_append, List.append_nil, List.cons_append, List.map_cons, List.map_nil, hpart, htype,
      hnull, hdefault, String.intercalate_cons_cons, String.intercalate_singleton, led,
      String.empty_append, String.append_empty, String.append_assoc]

theorem text_dropped (name : String) (key : Option String) :
    (ofDropped table name key).statement.text =
      "ALTER TABLE " ++ (quoteName table ++ (" DROP CONSTRAINT IF EXISTS " ++ (quoteName name ++
        led "; " (key.map fun k => dropLead table ++ quoteName k)))) := by
  have hlead : ∀ s, "ALTER TABLE " ++ (quoteName table ++ (" DROP CONSTRAINT IF EXISTS " ++ s)) =
      dropLead table ++ s := by
    intro s
    simp only [dropLead, Statement.altering, String.append_assoc]
  have hpart : ∀ n, Statement.dropConstraintPart table n = dropLead table ++ quoteName n :=
    fun _ => rfl
  rw [hlead]
  cases key with
  | none =>
    change "; ".intercalate [Statement.dropConstraintPart table name] = _
    rw [String.intercalate_singleton, hpart, Option.map_none, led, String.append_empty]
  | some k =>
    change "; ".intercalate [Statement.dropConstraintPart table name,
      Statement.dropConstraintPart table k] = _
    rw [String.intercalate_cons_cons, String.intercalate_singleton, hpart, hpart, Option.map_some,
      led]
    simp only [String.append_assoc]

theorem text_createIndex (name : String) :
    (createIndex name table column).statement.text = "CREATE INDEX " ++ (quoteName name ++
      (" ON " ++ (quoteName table ++ (" (" ++ (quoteName column ++ ")"))))) := by
  rw [statement, Statement.text_createIndex, nameList, List.map_singleton,
    String.intercalate_singleton]

end Text

end Alteration

namespace Reader

open Alteration

def isNullable : Reader Bool := do
  if ← flag " DROP NOT NULL" then return true
  skip " SET NOT NULL"
  return false

/-- A new type. The parts behind it begin with `front` too. -/
def newType (front : String) : Reader String := do
  let type ← typeName
  skip "; "
  skip front
  return type

def newDefault (front : String) : Reader String := do
  skip front
  skip " SET DEFAULT "
  literal

def redefinition (table column : String) : Reader Alteration := do
  let type ← behind " TYPE " (newType (lead table column))
  let nullable ← isNullable
  let default ← behind "; " (newDefault (lead table column))
  return .modifyColumn table column type nullable default

def newName (table : String) : Reader Alteration := do
  let old ← name
  skip " TO "
  let new ← name
  return .renameColumn table old new

def nextDropped (table : String) : Reader String := do
  skip (dropLead table)
  name

def droppedNames (table : String) : Reader Alteration := do
  let first ← name
  let key ← behind "; " (nextDropped table)
  return ofDropped table first key

def alteredTable (table : String) : Reader Alteration := do
  if ← flag " ADD COLUMN " then
    let clause ← columnClause
    return .addColumn table clause
  else if ← flag " DROP COLUMN " then
    let column ← name
    return .dropColumn table column
  else if ← flag " RENAME COLUMN " then
    newName table
  else if ← flag " ALTER COLUMN " then
    let column ← name
    redefinition table column
  else
    skip " DROP CONSTRAINT IF EXISTS "
    droppedNames table

def tableWords : List String :=
  [" ADD COLUMN ", " DROP COLUMN ", " RENAME COLUMN ", " ALTER COLUMN ",
    " DROP CONSTRAINT IF EXISTS "]

def statementWords : List String :=
  ["CREATE INDEX ", "DROP INDEX IF EXISTS ", "ALTER TABLE "]

def newIndex : Reader Alteration := do
  let index ← name
  skip " ON "
  let table ← name
  skip " ("
  let column ← name
  skip ")"
  return .createIndex index table column

def alteration : Reader Alteration := do
  if ← flag "CREATE INDEX " then
    newIndex
  else if ← flag "DROP INDEX IF EXISTS " then
    let index ← name
    return .dropIndex index
  else
    skip "ALTER TABLE "
    let table ← name
    alteredTable table

/-- An alteration with a parenthesis behind it, where the reader stops as it does in a table. -/
def closedAlteration : Reader Alteration := do
  let a ← alteration
  skip ")"
  return a

end Reader

namespace Alteration

def decode (s : String) : Option Alteration :=
  match Reader.closedAlteration (s ++ ")").toList with
  | some (a, []) => some a
  | _ => none

end Alteration

namespace Recovers

open Reader Alteration

variable {ws : List String}

theorem isNullable (nullable : Bool) :
    Recovers [" DROP NOT NULL", " SET NOT NULL"] ws isNullable (nullability nullable) nullable := by
  cases nullable with
  | true =>
    have h : Recovers [" DROP NOT NULL"] ws Reader.isNullable (" DROP NOT NULL" ++ "") true :=
      .taken " DROP NOT NULL" (.pure true)
    exact h.widen (by simp)
  | false =>
    have h : Recovers [" SET NOT NULL"] ws (Reader.skip " SET NOT NULL") " SET NOT NULL" () :=
      skip " SET NOT NULL"
    exact ((h.map fun _ => false).passed (by decide)).widen (by simp)

theorem newType {type : String} (h : IsTypeName type) (front : String) :
    Recovers [""] ws (newType front) (type ++ ("; " ++ front)) type := by
  have hname : Recovers [""] ["; "] Reader.typeName type type :=
    typeName h (by decide) (by decide) (by decide)
  exact hname.bind <| (skip "; ").bind <| (skip front).map fun _ => type

theorem newDefault {v : String} (h : IsLiteral v) (front : String) :
    Recovers [front] [")"] (newDefault front) (front ++ (" SET DEFAULT " ++ v)) v := by
  have hvalue : Recovers [""] [")"] Reader.literal v v := literal h (by decide) (by decide)
  exact (skip front).bind <| (skip " SET DEFAULT ").bind hvalue

theorem redefinition (table column : String) {type default : Option String} (nullable : Bool)
    (htype : ∀ t ∈ type, IsTypeName t) (hdefault : ∀ v ∈ default, IsLiteral v) :
    Recovers [" TYPE ", " DROP NOT NULL", " SET NOT NULL"] [")"] (redefinition table column)
      (led " TYPE " (type.map fun t => t ++ ("; " ++ lead table column)) ++
        (nullability nullable ++
          led "; " (default.map fun v => lead table column ++ (" SET DEFAULT " ++ v))))
      (.modifyColumn table column type nullable default) := by
  -- A type is closed by the same mark that a default begins with, but only behind the word for it.
  have hlast : Recovers ["; ", ")"] [")"] _ _ default :=
    behind "; " default (fun v hv => newDefault (hdefault v hv) (lead table column)) (by decide)
  exact (behind " TYPE " type (fun t ht => newType (htype t ht) (lead table column))
    (by decide)).bind <| (isNullable nullable).bind <|
    hlast.map (modifyColumn table column type nullable)

section Table

variable (table : String)

-- The words are tried in their order: each form is passed by the words before its own.
theorem addColumn {c : ColumnClause} (h : c.IsPlain) :
    Recovers tableWords [")"] (alteredTable table) (" ADD COLUMN " ++ c.text)
      (.addColumn table c) := by
  have hclause : Recovers [nameMark.toString] [")"] Reader.columnClause c.text c :=
    (columnClause h).mono (by simp)
  exact ((hclause.map (Alteration.addColumn table)).taken " ADD COLUMN ").widen
    (by simp [tableWords])

theorem dropColumn (column : String) :
    Recovers tableWords [")"] (alteredTable table) (" DROP COLUMN " ++ quoteName column)
      (.dropColumn table column) := by
  have hname : Recovers [nameMark.toString] [")"] Reader.name (quoteName column) column :=
    name column (by decide)
  exact (((hname.map (Alteration.dropColumn table)).taken " DROP COLUMN ").passed
    (by decide)).widen (by simp [tableWords])

theorem newName (old new : String) :
    Recovers [nameMark.toString] [")"] (newName table)
      (quoteName old ++ (" TO " ++ quoteName new)) (.renameColumn table old new) :=
  (name old (by decide)).bind <| (skip " TO ").bind <|
    (name new (by decide)).map (Alteration.renameColumn table old)

theorem renameColumn (old new : String) :
    Recovers tableWords [")"] (alteredTable table)
      (" RENAME COLUMN " ++ (quoteName old ++ (" TO " ++ quoteName new)))
      (.renameColumn table old new) :=
  ((((newName table old new).taken " RENAME COLUMN ").passed (by decide)).passed
    (by decide)).widen (by simp [tableWords])

theorem modifyColumn (column : String) {type default : Option String} (nullable : Bool)
    (htype : ∀ t ∈ type, IsTypeName t) (hdefault : ∀ v ∈ default, IsLiteral v) :
    Recovers tableWords [")"] (alteredTable table)
      (" ALTER COLUMN " ++ (quoteName column ++
        (led " TYPE " (type.map fun t => t ++ ("; " ++ lead table column)) ++
          (nullability nullable ++
            led "; " (default.map fun v => lead table column ++ (" SET DEFAULT " ++ v))))))
      (.modifyColumn table column type nullable default) := by
  have hname : Recovers [nameMark.toString] [" TYPE ", " DROP NOT NULL", " SET NOT NULL"]
      Reader.name (quoteName column) column := name column (by decide)
  have hcolumn := hname.bind (redefinition table column nullable htype hdefault)
  exact ((((hcolumn.taken " ALTER COLUMN ").passed (by decide)).passed (by decide)).passed
    (by decide)).widen (by simp [tableWords])

theorem nextDropped (n : String) :
    Recovers [dropLead table] [")"] (nextDropped table) (dropLead table ++ quoteName n) n :=
  (skip (dropLead table)).bind (name n (by decide))

theorem droppedNames (first : String) (key : Option String) :
    Recovers [nameMark.toString] [")"] (droppedNames table)
      (quoteName first ++ led "; " (key.map fun k => dropLead table ++ quoteName k))
      (ofDropped table first key) := by
  have hkey : Recovers ["; ", ")"] [")"] _ _ key :=
    behind "; " key (fun k _ => nextDropped table k) (by decide)
  have hfirst : Recovers [nameMark.toString] ["; ", ")"] Reader.name (quoteName first) first :=
    name first (by decide)
  exact hfirst.bind (hkey.map (Alteration.ofDropped table first))

theorem ofDropped (first : String) (key : Option String) :
    Recovers tableWords [")"] (alteredTable table)
      (" DROP CONSTRAINT IF EXISTS " ++ (quoteName first ++
        led "; " (key.map fun k => dropLead table ++ quoteName k)))
      (ofDropped table first key) := by
  have hnames := droppedNames table first key
  exact ((((((skip " DROP CONSTRAINT IF EXISTS ").bind hnames).passed (by decide)).passed
    (by decide)).passed (by decide)).passed (by decide)).widen (by simp [tableWords])

end Table

theorem newIndex (index table column : String) :
    Recovers [nameMark.toString] [")"] newIndex
      (quoteName index ++ (" ON " ++ (quoteName table ++ (" (" ++ (quoteName column ++ ")")))))
      (.createIndex index table column) :=
  (name index (by decide)).bind <| (skip " ON ").bind <| (name table (by decide)).bind <|
    (skip " (").bind <| (name column (by decide)).bind <|
    (skip ")").map fun _ => Alteration.createIndex index table column

theorem altering (table : String) {s : String} {a : Alteration}
    (h : Recovers tableWords [")"] (alteredTable table) s a) :
    Recovers statementWords [")"] Reader.alteration ("ALTER TABLE " ++ (quoteName table ++ s))
      a := by
  have hname : Recovers [nameMark.toString] tableWords Reader.name (quoteName table) table :=
    name table (by decide)
  exact ((((skip "ALTER TABLE ").bind (hname.bind h)).passed (by decide)).passed
    (by decide)).widen (by simp [statementWords])

theorem alteration {a : Alteration} (h : a.IsPlain) :
    Recovers statementWords [")"] Reader.alteration a.statement.text a := by
  cases a with
  | addColumn table clause =>
    rw [statement, Statement.text_addColumn, Statement.altering_append]
    exact altering table (addColumn table h)
  | createIndex index table column =>
    rw [text_createIndex]
    exact ((newIndex index table column).taken "CREATE INDEX ").widen (by simp [statementWords])
  | dropColumn table column =>
    rw [statement, Statement.text_dropColumn, Statement.altering_append]
    exact altering table (dropColumn table column)
  | renameColumn table old new =>
    rw [statement, Statement.text_renameColumn, Statement.altering_append]
    exact altering table (renameColumn table old new)
  | modifyColumn table column type nullable default =>
    rw [text_modifyColumn]
    exact altering table (modifyColumn table column nullable h.1 h.2)
  | dropIndex index =>
    have hname : Recovers [nameMark.toString] [")"] Reader.name (quoteName index) index :=
      name index (by decide)
    exact (((hname.map Alteration.dropIndex).taken "DROP INDEX IF EXISTS ").passed
      (by decide)).widen (by simp [statementWords])
  | dropUnique table first key =>
    have htext := text_dropped table first (some key)
    rw [Alteration.ofDropped] at htext
    rw [htext]
    exact altering table (ofDropped table first (some key))
  | dropPrimary table first =>
    have htext := text_dropped table first none
    rw [Alteration.ofDropped] at htext
    rw [htext]
    exact altering table (ofDropped table first none)

theorem closedAlteration {a : Alteration} (h : a.IsPlain) :
    Recovers statementWords [""] closedAlteration (a.statement.text ++ ")") a :=
  (alteration h).bind ((skip ")").map fun _ => a)

end Recovers

theorem Alteration.decode_text {a : Alteration} (h : a.IsPlain) :
    decode a.statement.text = some a := by
  have hread := (Recovers.closedAlteration h).reads [] ⟨"", by simp, by simp⟩
  rw [List.append_nil] at hread
  rw [decode, hread]

theorem Alteration.mapM_decode {as : List Alteration} (h : ∀ a ∈ as, a.IsPlain) :
    (as.map fun a => a.statement.text).mapM decode = some as := by
  induction as with
  | nil => rfl
  | cons a as ih =>
    obtain ⟨ha, has⟩ := List.forall_mem_cons.mp h
    rw [List.map_cons, List.mapM_cons, decode_text ha, ih has]
    rfl

end Sql

namespace Command

def alterations (table : String) : Command → List Alteration
  | .add c =>
    .addColumn table
      { name := c.name, type := Dialect.postgres.columnTypeName c, key := c.primary,
        counting := false, notNull := !c.nullable && !c.isSerial, unique := c.unique,
        default := c.default.map Dialect.postgres.defaultSql, references := c.references } ::
    if c.index then [.createIndex (derivedName table [c.name] "index") table c.name] else []
  | .drop columns => columns.map (.dropColumn table)
  | .rename old new => [.renameColumn table old new]
  | .modify c =>
    [.modifyColumn table c.name (c.type.map Dialect.postgres.typeName) c.nullable
      (c.default.map Dialect.postgres.defaultSql)]
  | .dropIndex columns => [.dropIndex (derivedName table columns "index")]
  | .dropUnique columns =>
    [.dropUnique table (derivedName table columns "unique") (derivedName table columns "key")]
  | .dropPrimary => [.dropPrimary table (table ++ "_pkey")]

variable (table : String)

theorem plan_postgres (c : Command) :
    c.plan .postgres table = (c.alterations table).map Alteration.statement := by
  cases c with
  | add c =>
    have hclause : Dialect.postgres.columnClause c c.primary =
        { name := c.name, type := Dialect.postgres.columnTypeName c, key := c.primary,
          counting := false, notNull := !c.nullable && !c.isSerial, unique := c.unique,
          default := c.default.map Dialect.postgres.defaultSql, references := c.references } := by
      simp [Dialect.columnClause, Dialect.clauseHasKey, Dialect.impliesNotNull]
    rw [plan, alterations, hclause, List.map_cons, Column.createIndex?]
    cases c.index <;> rfl
  | drop columns =>
    rw [plan, alterations, List.map_map]
    rfl
  | modify c =>
    refine congrArg (fun actions => [Statement.alterColumn table c.name actions]) ?_
    simp only [ColumnChange.actions, Alteration.actions, Option.map_map, Function.comp_def]
  | _ => rfl

theorem isPlain_alterations {c : Command} (h : ∀ v ∈ c.default?, v.isExpression = false) :
    ∀ a ∈ c.alterations table, a.IsPlain := by
  have hliteral : ∀ s ∈ c.default?.map Dialect.postgres.defaultSql, IsLiteral s := by
    intro s hs
    obtain ⟨v, hv, rfl⟩ := Option.map_eq_some_iff.mp hs
    exact Dialect.isLiteral_defaultSql .postgres v (h v hv)
  cases c with
  | add c =>
    refine List.forall_mem_cons.mpr ⟨⟨Dialect.isTypeName_columnTypeName .postgres c, hliteral⟩, ?_⟩
    cases c.index <;> simp [Alteration.IsPlain]
  | modify c =>
    refine List.forall_mem_singleton.mpr ⟨fun t ht => ?_, hliteral⟩
    obtain ⟨type, -, rfl⟩ := Option.map_eq_some_iff.mp ht
    exact Dialect.isTypeName_typeName .postgres type
  | _ => simp [alterations, Alteration.IsPlain]

end Command

namespace Blueprint

def alterations (b : Blueprint) : List Alteration :=
  b.commands.flatMap (·.alterations b.table)

theorem alter_postgres_eq (b : Blueprint) :
    b.alter .postgres = .ok (b.alterations.map Alteration.statement) := by
  refine (alter_eq_ok_iff .postgres).mpr ⟨fun c _ => c.isSupported_postgres, ?_⟩
  simp only [Command.plan_postgres, alterations, List.map_flatMap]

theorem isPlain_alterations {b : Blueprint}
    (h : ∀ c ∈ b.commands, ∀ v ∈ c.default?, v.isExpression = false) :
    ∀ a ∈ b.alterations, a.IsPlain := by
  intro a ha
  obtain ⟨c, hc, ha⟩ := List.mem_flatMap.mp ha
  exact Command.isPlain_alterations b.table (h c hc) a ha

/-- In PostgreSQL the texts of all changes read back as the elementary alterations that were asked
for, whatever the names. So blueprints that alter a table by the same texts ask for the same. -/
theorem decode_alter {b : Blueprint}
    (h : ∀ c ∈ b.commands, ∀ v ∈ c.default?, v.isExpression = false) :
    ∃ ss, b.alter .postgres = .ok ss ∧
      (ss.map Statement.text).mapM Alteration.decode = some b.alterations ∧
      ∀ b' : Blueprint, (∀ c ∈ b'.commands, ∀ v ∈ c.default?, v.isExpression = false) →
        ∀ ss', b'.alter .postgres = .ok ss' → ss'.map Statement.text = ss.map Statement.text →
          b'.alterations = b.alterations := by
  have hdecode : ∀ b : Blueprint, (∀ c ∈ b.commands, ∀ v ∈ c.default?, v.isExpression = false) →
      ∀ ss, b.alter .postgres = .ok ss →
        (ss.map Statement.text).mapM Alteration.decode = some b.alterations := by
    intro b h ss hss
    obtain rfl := Except.ok.inj (b.alter_postgres_eq.symm.trans hss)
    rw [List.map_map]
    exact Alteration.mapM_decode (isPlain_alterations h)
  have hss := b.alter_postgres_eq
  refine ⟨_, hss, hdecode b h _ hss, fun b' h' ss' hss' htext => ?_⟩
  have hb' := hdecode b' h' ss' hss'
  rw [htext, hdecode b h _ hss] at hb'
  exact (Option.some.inj hb').symm

theorem decode_alter_of_quotes :
    let status : ColumnChange :=
      { name := "a\"; ALTER TABLE", type := some .text,
        default := some (.string "'; ALTER TABLE \"t\"") }
    let b : Blueprint :=
      { table := "t\"", mode := .alter, commands := [.modify status, .dropUnique ["; "]] }
    (∀ c ∈ b.commands, ∀ v ∈ c.default?, v.isExpression = false) ∧
      ∃ ss, b.alter .postgres = .ok ss ∧
        (ss.map Statement.text).mapM Alteration.decode = some
          [.modifyColumn "t\"" "a\"; ALTER TABLE" (some "TEXT") false
              (some "'''; ALTER TABLE \"t\"'"),
            .dropUnique "t\"" "t\"_; _unique" "t\"_; _key"] := by
  intro status b
  have h : ∀ c ∈ b.commands, ∀ v ∈ c.default?, v.isExpression = false := by decide
  obtain ⟨ss, hss, hdecode, -⟩ := decode_alter h
  refine ⟨h, ss, hss, hdecode.trans ?_⟩
  decide

end Blueprint

end SchemaPlan
