import Mathlib.Data.List.Basic
import SchemaPlan.Sql.Compile

namespace SchemaPlan

open Sql

/-- The parts of names between their underscores, those of one name before those of the next. -/
def nameParts (names : List String) : List (List Char) :=
  names.flatMap fun name => name.toList.splitOn '_'

section Parts

variable {names : List String}

/-- Every name has an underscore behind it, so what follows begins a part of its own. -/
theorem splitOn_underscored (names : List String) (rest : List Char) :
    ((underscored names).toList ++ rest).splitOn '_' = nameParts names ++ rest.splitOn '_' := by
  induction names with
  | nil => rfl
  | cons name names ih =>
    have htext : (underscored (name :: names)).toList ++ rest =
        name.toList ++ '_' :: ((underscored names).toList ++ rest) := by
      simp [underscored]
    rw [htext, List.splitOn_append_cons_self, ih, ← List.append_assoc]
    rfl

theorem splitOn_derivedName (table suffix : String) (columns : List String) :
    (derivedName table columns suffix).toList.splitOn '_' =
      table.toList.splitOn '_' ++ (nameParts columns ++ suffix.toList.splitOn '_') := by
  rw [derivedName, String.toList_append, splitOn_underscored, ← List.append_assoc]
  rfl

theorem splitOn_injective {s t : String} (h : s.toList.splitOn '_' = t.toList.splitOn '_') :
    s = t := by
  have htext := congrArg ['_'].intercalate h
  rw [List.intercalate_splitOn, List.intercalate_splitOn] at htext
  exact String.toList_injective htext

theorem nameParts_of_notMem (h : ∀ name ∈ names, '_' ∉ name.toList) :
    nameParts names = names.map String.toList := by
  induction names with
  | nil => rfl
  | cons name names ih =>
    obtain ⟨hname, hnames⟩ := List.forall_mem_cons.mp h
    change name.toList.splitOn '_' ++ nameParts names = _
    rw [List.splitOn_eq_singleton hname, ih hnames]
    rfl

end Parts

section Names

variable (table : String) (k l : IndexKind) (columns others : List String)

/-- A derived name shows the parts of its columns, but not which of them belong together. -/
theorem derivedName_eq_iff_of_length {s t : String}
    (h : (s.toList.splitOn '_').length = (t.toList.splitOn '_').length) :
    derivedName table columns s = derivedName table others t ↔
      nameParts columns = nameParts others ∧ s = t := by
  constructor
  · intro heq
    have hsplit := congrArg (fun name => name.toList.splitOn '_') heq
    rw [splitOn_derivedName, splitOn_derivedName] at hsplit
    obtain ⟨hparts, hlast⟩ := List.append_inj' (List.append_cancel_left hsplit) h
    exact ⟨hparts, splitOn_injective hlast⟩
  · rintro ⟨hparts, rfl⟩
    refine splitOn_injective ?_
    rw [splitOn_derivedName, splitOn_derivedName, hparts]

theorem derivedName_eq_iff (suffix : String) :
    derivedName table columns suffix = derivedName table others suffix ↔
      nameParts columns = nameParts others :=
  (derivedName_eq_iff_of_length table columns others rfl).trans (and_iff_left rfl)

theorem suffix_inj {k l : IndexKind} : k.suffix = l.suffix ↔ k = l := by
  constructor
  · cases k <;> cases l <;> decide
  · exact congrArg _

theorem length_splitOn_suffix : (k.suffix.toList.splitOn '_').length = 1 := by
  cases k <;> rfl

theorem derivedName_kind_eq_iff :
    derivedName table columns k.suffix = derivedName table others l.suffix ↔
      k = l ∧ nameParts columns = nameParts others := by
  have hlength := (length_splitOn_suffix k).trans (length_splitOn_suffix l).symm
  rw [derivedName_eq_iff_of_length table columns others hlength, suffix_inj, and_comm]

theorem derivedName_ne_key :
    derivedName table columns k.suffix ≠ derivedName table others "key" := by
  have hlength : (k.suffix.toList.splitOn '_').length = ("key".toList.splitOn '_').length :=
    length_splitOn_suffix k
  rw [ne_eq, derivedName_eq_iff_of_length table columns others hlength]
  rintro ⟨-, h⟩
  cases k <;> simp [IndexKind.suffix] at h

end Names

namespace Sql.Statement

def made : Statement → List String
  | .createTable t => t.uniques.map UniqueClause.name
  | .createIndex name _ _ => [name]
  | _ => []

def dropped : Statement → List String
  | .dropIndex name => [name]
  | .dropConstraints _ names => names
  | _ => []

end Sql.Statement

/-- A blueprint asks for an index or a unique constraint over columns and gives it no name. -/
inductive Blueprint.AsksFor (b : Blueprint) : IndexKind → List String → Prop
  | definition {i : Index} (mem : i ∈ b.indexes) (kind : i.kind ≠ .primary)
      (unnamed : i.name = none) : b.AsksFor i.kind i.columns
  | flag {c : Column} (mem : c ∈ b.columns) (flagged : c.index = true) :
      b.AsksFor .index [c.name]

namespace Blueprint

variable (b : Blueprint) (d : Dialect)

theorem made_create : (b.create d).flatMap Statement.made =
    (b.createTable d).uniques.map UniqueClause.name ++ b.createIndexes.flatMap Statement.made := rfl

theorem mem_made_of_createIndex (name : String) (columns : List String)
    (h : .createIndex name b.table columns ∈ b.createIndexes) :
    name ∈ (b.create d).flatMap Statement.made := by
  rw [made_create]
  exact List.mem_append_right _ (List.mem_flatMap.mpr ⟨_, h, List.mem_singleton.mpr rfl⟩)

theorem mem_made_of_definition {i : Index} (mem : i ∈ b.indexes) (kind : i.kind ≠ .primary) :
    i.nameFor b.table ∈ (b.create d).flatMap Statement.made := by
  cases hkind : i.kind with
  | primary => exact absurd hkind kind
  | unique =>
    have hclause : ⟨i.nameFor b.table, i.columns⟩ ∈ (b.createTable d).uniques :=
      List.mem_filterMap.mpr ⟨i, mem, if_pos hkind⟩
    rw [made_create]
    exact List.mem_append_left _ (List.mem_map.mpr ⟨_, hclause, rfl⟩)
  | index =>
    refine b.mem_made_of_createIndex d _ i.columns (List.mem_append_left _ ?_)
    exact List.mem_filterMap.mpr ⟨i, mem, if_pos hkind⟩

theorem mem_made_of_asksFor {k : IndexKind} {columns : List String} (h : b.AsksFor k columns) :
    derivedName b.table columns k.suffix ∈ (b.create d).flatMap Statement.made := by
  cases h with
  | @definition i mem kind unnamed =>
    have hname := b.mem_made_of_definition d mem kind
    rw [Index.nameFor, unnamed] at hname
    exact hname
  | @flag c mem flagged =>
    refine b.mem_made_of_createIndex d _ [c.name] (List.mem_append_right _ ?_)
    exact List.mem_filterMap.mpr ⟨c, mem, if_pos flagged⟩

end Blueprint

section Dropping

variable (table : String) (columns others : List String) (k : IndexKind)

theorem mem_dropped_dropIndex :
    derivedName table others k.suffix ∈
        (Statement.dropIndex (derivedName table columns "index")).dropped ↔
      k = .index ∧ nameParts columns = nameParts others := by
  rw [Statement.dropped, List.mem_singleton, eq_comm (b := nameParts others)]
  exact derivedName_kind_eq_iff table k .index others columns

theorem mem_dropped_dropUnique :
    derivedName table others k.suffix ∈ (Statement.dropConstraints table
        [derivedName table columns "unique", derivedName table columns "key"]).dropped ↔
      k = .unique ∧ nameParts columns = nameParts others := by
  rw [Statement.dropped, List.mem_pair, or_iff_left (derivedName_ne_key table k others columns),
    eq_comm (b := nameParts others)]
  exact derivedName_kind_eq_iff table k .unique others columns

end Dropping

/-- Within a table, what is made without a name of its own has the name of every other such thing of
its kind whose columns have the same parts, and is dropped for these columns too. Only where no
column has an underscore do the parts tell the columns. -/
theorem Blueprint.derived_names_identify (b : Blueprint) :
    (∀ (d : Dialect) (k : IndexKind) (xs : List String), b.AsksFor k xs →
      derivedName b.table xs k.suffix ∈ (b.create d).flatMap Statement.made) ∧
    (∀ suffix xs ys, derivedName b.table xs suffix = derivedName b.table ys suffix ↔
      nameParts xs = nameParts ys) ∧
    (∀ (k l : IndexKind) (xs ys : List String),
      derivedName b.table xs k.suffix = derivedName b.table ys l.suffix ↔
        k = l ∧ nameParts xs = nameParts ys) ∧
    (∀ d xs, ∃ ss, (Command.dropIndex xs).statements d b.table = .ok ss ∧
      ∀ (k : IndexKind) (ys : List String),
        derivedName b.table ys k.suffix ∈ ss.flatMap Statement.dropped ↔
          k = .index ∧ nameParts xs = nameParts ys) ∧
    (∀ xs, ∃ ss, (Command.dropUnique xs).statements .postgres b.table = .ok ss ∧
      ∀ (k : IndexKind) (ys : List String),
        derivedName b.table ys k.suffix ∈ ss.flatMap Statement.dropped ↔
          k = .unique ∧ nameParts xs = nameParts ys) ∧
    ∀ xs ys, (∀ x ∈ xs, '_' ∉ x.toList) → (∀ y ∈ ys, '_' ∉ y.toList) →
      (nameParts xs = nameParts ys ↔ xs = ys) := by
  refine ⟨fun d k xs h => b.mem_made_of_asksFor d h, fun suffix xs ys =>
    derivedName_eq_iff b.table xs ys suffix, fun k l xs ys =>
    derivedName_kind_eq_iff b.table k l xs ys, fun d xs => ?_, fun xs => ?_, fun xs ys hx hy => ?_⟩
  · have hplan : (Command.dropIndex xs).statements d b.table =
        .ok [.dropIndex (derivedName b.table xs "index")] := by cases d <;> rfl
    refine ⟨_, hplan, fun k ys => ?_⟩
    rw [List.flatMap_singleton]
    exact mem_dropped_dropIndex b.table xs ys k
  · refine ⟨_, rfl, fun k ys => ?_⟩
    rw [Command.plan, List.flatMap_singleton]
    exact mem_dropped_dropUnique b.table xs ys k
  · rw [nameParts_of_notMem hx, nameParts_of_notMem hy]
    exact List.map_inj_right fun _ _ => String.toList_injective

theorem Blueprint.derived_names_identify_items :
    let pair : Index := { kind := .unique, columns := ["order_id", "sku"] }
    let sku : Column := { name := "sku", type := .text, index := true }
    let b : Blueprint := { table := "items", mode := .create, columns := [sku], indexes := [pair] }
    (b.AsksFor .unique ["order_id", "sku"] ∧ b.AsksFor .index ["sku"]) ∧
      ("items_order_id_sku_unique" ∈ (b.create .postgres).flatMap Statement.made ∧
        "items_sku_index" ∈ (b.create .postgres).flatMap Statement.made) ∧
      ((∀ x ∈ ["sku"], '_' ∉ x.toList) ∧ ∀ x ∈ ["sku", "id"], '_' ∉ x.toList) ∧
      nameParts ["sku"] ≠ nameParts ["sku", "id"] := by
  intro pair sku b
  obtain ⟨hmade, -, -, -, -, hplain⟩ := derived_names_identify b
  have hpair : b.AsksFor .unique ["order_id", "sku"] :=
    .definition (i := pair) List.mem_cons_self (by decide) rfl
  have hsku : b.AsksFor .index ["sku"] := .flag (c := sku) List.mem_cons_self rfl
  have hone : ∀ x ∈ ["sku"], '_' ∉ x.toList := by decide
  have htwo : ∀ x ∈ ["sku", "id"], '_' ∉ x.toList := by decide
  refine ⟨⟨hpair, hsku⟩, ⟨hmade .postgres _ _ hpair, hmade .postgres _ _ hsku⟩, ⟨hone, htwo⟩, ?_⟩
  rw [ne_eq, hplain ["sku"] ["sku", "id"] hone htwo]
  decide

/-- A column with an underscore in its name is taken for two. -/
theorem not_derivedName_injective :
    ¬∀ (table : String) (k : IndexKind) (xs ys : List String), xs ≠ [] → ys ≠ [] →
      derivedName table xs k.suffix = derivedName table ys k.suffix → xs = ys := by
  intro h
  have heq := h "t" .index ["a_b"] ["a", "b"] (by decide) (by decide) (by decide)
  exact absurd heq (by decide)

end SchemaPlan
