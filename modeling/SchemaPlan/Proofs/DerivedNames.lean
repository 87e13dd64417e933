import Mathlib.Data.List.Forall2
import SchemaPlan.Proofs.Compile

namespace SchemaPlan

open Sql

/-- The text makes an index over columns, under the name given for it. Without one it has the name
that dropping the index over these columns drops. -/
inductive MakesIndex (d : Dialect) (table : String) (columns : List String) :
    Option String → String → Prop
  | given (name : String) : MakesIndex d table columns (some name)
      ("CREATE INDEX " ++ quoteName name ++ " ON " ++ quoteName table ++
        " (" ++ nameList columns ++ ")")
  | derived {name : String} (dropped : List.map Statement.text <$>
      (Command.dropIndex columns).statements d table =
        .ok ["DROP INDEX IF EXISTS " ++ quoteName name]) :
      MakesIndex d table columns none
        ("CREATE INDEX " ++ quoteName name ++ " ON " ++ quoteName table ++
          " (" ++ nameList columns ++ ")")

/-- The clause makes a unique constraint over columns, under the name given for it. Without one it
has the name that dropping the constraint over these columns drops first. -/
inductive MakesUnique (table : String) (columns : List String) : Option String → String → Prop
  | given (name : String) : MakesUnique table columns (some name)
      ("CONSTRAINT " ++ quoteName name ++ " UNIQUE (" ++ nameList columns ++ ")")
  | derived {name second : String} (dropped : List.map Statement.text <$>
      (Command.dropUnique columns).statements .postgres table =
        .ok [Statement.dropConstraintPart table name ++ "; " ++ second]) :
      MakesUnique table columns none
        ("CONSTRAINT " ++ quoteName name ++ " UNIQUE (" ++ nameList columns ++ ")")

def Blueprint.indexRequests (b : Blueprint) : List (Option String × List String) :=
  (b.indexes.filter (·.kind = .index)).map (fun i => (i.name, i.columns)) ++
    (b.columns.filter (·.index)).map fun c => (none, [c.name])

def Sql.Statement.isCreateIndex : Statement → Bool
  | .createIndex .. => true
  | _ => false

/-- What a change is planned as: the index of a column that is added follows that column, and no
other index is made. -/
inductive Command.IndexedPlan (d : Dialect) (table : String) : Command → List Statement → Prop
  | plainAdd {c : Column} (flag : c.index = false) :
      IndexedPlan d table (.add c) [.addColumn table (d.columnClause c c.primary)]
  | indexedAdd {c : Column} {st : Statement} (flag : c.index = true)
      (index : MakesIndex d table [c.name] none st.text) :
      IndexedPlan d table (.add c) [.addColumn table (d.columnClause c c.primary), st]
  | other {c : Command} {ss : List Statement} (kind : c.kind ≠ .add)
      (none : ∀ st ∈ ss, st.isCreateIndex = false) : IndexedPlan d table c ss

section

variable (d : Dialect) (table : String) (columns : List String)

theorem makesIndex_derivedName :
    MakesIndex d table columns none
      (Statement.createIndex (derivedName table columns "index") table columns).text := by
  have h : (Command.dropIndex columns).statements d table =
      .ok [.dropIndex (derivedName table columns "index")] := by
    cases d <;> rfl
  exact .derived (by rw [h]; rfl)

theorem makesIndex_nameFor (i : Index) (h : i.kind = .index) :
    MakesIndex d table i.columns i.name
      (Statement.createIndex (i.nameFor table) table i.columns).text := by
  unfold Index.nameFor
  cases i.name with
  | none =>
    rw [h]
    exact makesIndex_derivedName d table i.columns
  | some name => exact .given name

theorem createIndex?_eq_none {c : Column} (h : c.index = false) : c.createIndex? table = none := by
  unfold Column.createIndex?
  rw [h]
  rfl

theorem makesIndex_createIndex? (c : Column) (h : c.index = true) :
    ∃ st, c.createIndex? table = some st ∧ MakesIndex d table [c.name] none st.text := by
  unfold Column.createIndex?
  rw [if_pos h]
  exact ⟨_, rfl, makesIndex_derivedName d table [c.name]⟩

theorem makesUnique_nameFor (i : Index) (h : i.kind = .unique) :
    MakesUnique table i.columns i.name (UniqueClause.text ⟨i.nameFor table, i.columns⟩) := by
  unfold Index.nameFor
  cases i.name with
  | none =>
    rw [h]
    exact .derived rfl
  | some name => exact .given name

theorem Command.indexedPlan (c : Command) : IndexedPlan d table c (c.plan d table) := by
  cases c with
  | add c =>
    cases hflag : c.index with
    | false =>
      rw [plan, createIndex?_eq_none table hflag]
      exact .plainAdd hflag
    | true =>
      obtain ⟨st, hst, hmakes⟩ := makesIndex_createIndex? d table c hflag
      rw [plan, hst]
      exact .indexedAdd hflag hmakes
  | _ => exact .other (by simp [kind]) (by simp [plan, Statement.isCreateIndex])

end

/-- What a list gives stands item by item against the items that give something. -/
theorem forall₂_filterMap {α β : Type} {R : α → β → Prop} {p : α → Bool} {f : α → Option β}
    (xs : List α) (hnone : ∀ x, p x = false → f x = none)
    (hsome : ∀ x, p x = true → ∃ y, f x = some y ∧ R x y) :
    List.Forall₂ R (xs.filter p) (xs.filterMap f) := by
  induction xs with
  | nil => exact .nil
  | cons x xs ih =>
    cases hp : p x with
    | false =>
      rw [List.filter_cons_of_neg (by simp [hp]), List.filterMap_cons_none (hnone x hp)]
      exact ih
    | true =>
      obtain ⟨y, hy, hr⟩ := hsome x hp
      rw [List.filter_cons_of_pos hp, List.filterMap_cons_some hy]
      exact .cons hr ih

namespace Blueprint

variable (b : Blueprint) (d : Dialect)

theorem makesIndex_createIndexes :
    List.Forall₂ (fun r sql => MakesIndex d b.table r.2 r.1 sql) b.indexRequests
      (b.createIndexes.map Statement.text) := by
  unfold indexRequests createIndexes
  rw [List.map_append]
  refine List.rel_append ?_ ?_
  · rw [List.forall₂_map_left_iff, List.forall₂_map_right_iff]
    refine forall₂_filterMap _ (fun i hi => ?_) fun i hi => ?_
    · exact if_neg (of_decide_eq_false hi)
    · have hi := of_decide_eq_true hi
      exact ⟨_, if_pos hi, makesIndex_nameFor d b.table i hi⟩
  · rw [List.forall₂_map_left_iff, List.forall₂_map_right_iff]
    refine forall₂_filterMap _ (fun c hc => ?_) fun c hc => ?_
    · exact createIndex?_eq_none b.table hc
    · exact makesIndex_createIndex? d b.table c hc

theorem indexedPlan_alter {ss : List Statement} (h : b.alter d = .ok ss) :
    ∃ plans : List (List Statement), plans.flatten = ss ∧
      List.Forall₂ (Command.IndexedPlan d b.table) b.commands plans := by
  obtain ⟨-, rfl⟩ := (alter_eq_ok_iff d).mp h
  refine ⟨b.commands.map (·.plan d b.table), rfl, ?_⟩
  rw [List.forall₂_map_right_iff]
  exact List.forall₂_same.mpr fun c _ => c.indexedPlan d b.table

theorem makesUnique_createTable :
    ∃ front last, (b.createTable d).clauses = front ++ last ∧
      List.Forall₂ (fun i sql => MakesUnique b.table i.columns i.name sql)
        (b.indexes.filter (·.kind = .unique)) last := by
  refine ⟨_, _, rfl, ?_⟩
  rw [List.forall₂_map_right_iff]
  refine forall₂_filterMap _ (fun i hi => ?_) fun i hi => ?_
  · exact if_neg (of_decide_eq_false hi)
  · have hi := of_decide_eq_true hi
    exact ⟨_, if_pos hi, makesUnique_nameFor b.table i hi⟩

end Blueprint

/-- The constraint of a definition is dropped first, then that of a column flagged unique. -/
theorem statements_dropUnique (table column : String) :
    List.map Statement.text <$> (Command.dropUnique [column]).statements .postgres table =
      .ok [Statement.dropConstraintPart table (table ++ "_" ++ column ++ "_unique") ++ "; " ++
        Statement.dropConstraintPart table (table ++ "_" ++ column ++ "_key")] := by
  have hname (suffix : String) :
      derivedName table [column] suffix = table ++ "_" ++ column ++ ("_" ++ suffix) := by
    simp [derivedName, underscored, String.append_assoc]
  have hunique : derivedName table [column] "unique" = table ++ "_" ++ column ++ "_unique" :=
    hname "unique"
  have hkey : derivedName table [column] "key" = table ++ "_" ++ column ++ "_key" := hname "key"
  rw [← hunique, ← hkey]
  rfl

/-- What is made under a name that was not given can be dropped: each index that creating a table
makes or that an added column is given, each unique constraint of a definition, and the constraint
that PostgreSQL names after the table and the column that is flagged unique. -/
theorem Blueprint.derived_names_dropped (b : Blueprint) (d : Dialect) :
    List.Forall₂ (fun r sql => MakesIndex d b.table r.2 r.1 sql) b.indexRequests
      (b.createIndexes.map Statement.text) ∧
    (∀ ss, b.alter d = .ok ss → ∃ plans : List (List Statement), plans.flatten = ss ∧
      List.Forall₂ (Command.IndexedPlan d b.table) b.commands plans) ∧
    (∃ front last, (b.createTable d).clauses = front ++ last ∧
      List.Forall₂ (fun i sql => MakesUnique b.table i.columns i.name sql)
        (b.indexes.filter (·.kind = .unique)) last) ∧
    ∀ c ∈ b.columns, c.unique = true →
      List.map Statement.text <$> (Command.dropUnique [c.name]).statements .postgres b.table =
        .ok [Statement.dropConstraintPart b.table (b.table ++ "_" ++ c.name ++ "_unique") ++ "; " ++
          Statement.dropConstraintPart b.table (b.table ++ "_" ++ c.name ++ "_key")] :=
  ⟨b.makesIndex_createIndexes d, fun _ h => b.indexedPlan_alter d h, b.makesUnique_createTable d,
    fun c _ _ => statements_dropUnique b.table c.name⟩

theorem Blueprint.derived_names_dropped_users :
    let email : Column := { name := "email", type := .text, unique := true }
    let age : Column := { name := "age", type := .integer, nullable := true, index := true }
    let b : Blueprint :=
      { table := "users", mode := .alter, columns := [email], commands := [.add age, .drop ["x"]] }
    b.alter .sqlite = .ok [.addColumn "users" (Dialect.sqlite.columnClause age false),
        .createIndex "users_age_index" "users" ["age"], .dropColumn "users" "x"] ∧
      (∃ plans : List (List Statement), plans.flatten =
          [.addColumn "users" (Dialect.sqlite.columnClause age false),
            .createIndex "users_age_index" "users" ["age"], .dropColumn "users" "x"] ∧
        List.Forall₂ (Command.IndexedPlan .sqlite "users") [.add age, .drop ["x"]] plans) ∧
      List.map Statement.text <$> (Command.dropUnique ["email"]).statements .postgres "users" =
        .ok ["ALTER TABLE \"users\" DROP CONSTRAINT IF EXISTS \"users_email_unique\"; " ++
          "ALTER TABLE \"users\" DROP CONSTRAINT IF EXISTS \"users_email_key\""] := by
  intro email age b
  have halter : b.alter .sqlite = .ok [.addColumn "users" (Dialect.sqlite.columnClause age false),
      .createIndex "users_age_index" "users" ["age"], .dropColumn "users" "x"] := by decide +kernel
  obtain ⟨-, hplans, -, hkeys⟩ := derived_names_dropped b .sqlite
  exact ⟨halter, hplans _ halter, (hkeys email List.mem_cons_self rfl).trans (by decide +kernel)⟩

end SchemaPlan
