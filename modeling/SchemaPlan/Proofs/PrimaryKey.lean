import Mathlib.Data.List.Basic
import SchemaPlan.Blueprint.Call
import SchemaPlan.Sql.Compile

namespace SchemaPlan

open Sql

namespace Sql.CreateTable

/-- How many clauses of the statement declare a primary key: those of columns, and the one for the
table as a whole. -/
def primaryKeys (t : CreateTable) : Nat :=
  t.columns.countP (·.key) + t.key.toList.length

def keyColumns (t : CreateTable) : List String :=
  (t.columns.filter (·.key)).map (·.name) ++ t.key.getD []

end Sql.CreateTable

/-- Whether a column's clause declares the key whatever else the blueprint holds. -/
def Dialect.keysItself (d : Dialect) (c : Column) : Bool :=
  c.isSerial && (d == .sqlite || c.primary)

namespace Blueprint

variable (b : Blueprint) (d : Dialect)

def declaredKey : List String :=
  (b.columns.filter (·.primary)).map Column.name ++
    (b.indexes.filter (·.kind = .primary)).flatMap Index.columns

theorem mem_addMissing (names : List String) (x n : String) :
    n ∈ addMissing names x ↔ n ∈ names ∨ n = x := by
  unfold addMissing
  split
  · rename_i hx
    constructor
    · exact .inl
    · rintro (h | rfl)
      · exact h
      · exact hx
  · rw [List.mem_append, List.mem_singleton]

theorem mem_foldl_addMissing (xs names : List String) (n : String) :
    n ∈ xs.foldl addMissing names ↔ n ∈ names ∨ n ∈ xs := by
  induction xs generalizing names with
  | nil => simp
  | cons x xs ih => rw [List.foldl_cons, ih, mem_addMissing, List.mem_cons, or_assoc]

theorem mem_key_columns (n : String) :
    n ∈ b.key.columns ↔ n ∈ b.flaggedNames ∨ n ∈ b.definedNames :=
  mem_foldl_addMissing _ _ n

theorem mem_serialNames (n : String) :
    n ∈ b.serialNames ↔ ∃ c ∈ b.columns, c.isSerial = true ∧ c.name = n := by
  simp [serialNames, and_assoc]

theorem mem_flaggedNames (n : String) :
    n ∈ b.flaggedNames ↔
      ∃ c ∈ b.columns, c.primary = true ∧ c.isSerial = false ∧ c.name = n := by
  simp [flaggedNames, and_assoc]

theorem mem_definedNames (n : String) :
    n ∈ b.definedNames ↔
      (∃ i ∈ b.indexes, i.kind = .primary ∧ n ∈ i.columns) ∧ n ∉ b.serialNames := by
  simp [definedNames, and_assoc]

theorem mem_declaredKey (n : String) :
    n ∈ b.declaredKey ↔ (∃ c ∈ b.columns, c.primary = true ∧ c.name = n) ∨
      ∃ i ∈ b.indexes, i.kind = .primary ∧ n ∈ i.columns := by
  simp [declaredKey, and_assoc]

theorem key_columns_eq_nil :
    b.key.columns = [] ↔ b.flaggedNames = [] ∧ b.definedNames = [] := by
  simp only [List.eq_nil_iff_forall_not_mem, mem_key_columns, not_or, forall_and]

/-- Only two names that flags give, or one that a definition gives, make a key of the table. -/
theorem isTableLevel_iff :
    b.key.isTableLevel = true ↔ 1 < b.flaggedNames.length ∨ b.definedNames ≠ [] := by
  by_cases hd : b.definedNames = []
  · simp [Key.isTableLevel, key, hd]
  · have hf : b.definedNames.isEmpty = false := by simpa using hd
    simp [Key.isTableLevel, key, hd, hf]

/-- The test for an empty key in a table's statement never fails. -/
theorem createTable_key :
    (b.createTable d).key = if b.key.isTableLevel then some b.key.columns else none := by
  by_cases ht : b.key.isTableLevel = true
  · have hne : b.key.columns ≠ [] := by
      rw [Ne, key_columns_eq_nil]
      rintro ⟨hf, hd⟩
      rcases b.isTableLevel_iff.mp ht with h | h
      · simp [hf] at h
      · exact h hd
    have hf : b.key.columns.isEmpty = false := by simpa using hne
    simp [createTable, ht, hf]
  · simp [createTable, ht]

theorem clauseHasKey_hasInlineKey (c : Column) :
    d.clauseHasKey c (b.hasInlineKey c) =
      (d.keysItself c || (c.primary && !c.isSerial && !b.key.isTableLevel)) := by
  unfold Dialect.clauseHasKey hasInlineKey Dialect.keysItself
  cases c.primary <;> cases c.isSerial <;> cases b.key.isTableLevel <;> cases d <;> rfl

theorem length_flaggedNames :
    b.flaggedNames.length = b.columns.countP fun c => c.primary && !c.isSerial := by
  simp [flaggedNames, List.countP_eq_length_filter]

theorem countP_clauseHasKey (cs : List Column) :
    cs.countP (fun c => d.clauseHasKey c (b.hasInlineKey c)) =
      cs.countP d.keysItself +
        if b.key.isTableLevel then 0 else cs.countP fun c => c.primary && !c.isSerial := by
  induction cs with
  | nil => simp
  | cons c cs ih =>
    rw [List.countP_cons, ih, clauseHasKey_hasInlineKey, List.countP_cons, List.countP_cons]
    -- a serial column counts on the left of the sum only, any other on the right only
    by_cases hs : c.isSerial = true
    · cases b.key.isTableLevel <;> simp [hs, Nat.add_right_comm]
    · have hk : d.keysItself c = false := by simp [Dialect.keysItself, hs]
      cases b.key.isTableLevel <;> simp [hk, hs, Nat.add_assoc]

/-- The columns that are not serial have one key among them, if any. Every serial column that keys
itself adds one. -/
theorem primaryKeys_createTable :
    (b.createTable d).primaryKeys =
      b.columns.countP d.keysItself + if b.key.columns = [] then 0 else 1 := by
  have hc : (b.createTable d).columns.countP (·.key) =
      b.columns.countP fun c => d.clauseHasKey c (b.hasInlineKey c) := by
    rw [createTable, List.countP_map]
    rfl
  rw [CreateTable.primaryKeys, hc, createTable_key, countP_clauseHasKey, ← length_flaggedNames]
  simp only [key_columns_eq_nil]
  by_cases ht : b.key.isTableLevel = true
  · have hn : ¬(b.flaggedNames = [] ∧ b.definedNames = []) := by
      rintro ⟨hf, hd⟩
      simpa [hf, hd] using b.isTableLevel_iff.mp ht
    simp [ht, hn]
  · have hl := mt b.isTableLevel_iff.mpr ht
    rw [not_or, not_not, Nat.not_lt] at hl
    obtain ⟨hf, hd⟩ := hl
    cases hb : b.flaggedNames with
    | nil => simp [ht, hd]
    | cons n ns =>
      have hns : ns = [] := by simpa [hb] using hf
      simp [ht, hns]

theorem key_columns_eq_nil_iff :
    b.key.columns = [] ↔ (∀ c ∈ b.columns, c.primary = true → c.isSerial = true) ∧
      ∀ i ∈ b.indexes, i.kind = .primary → ∀ n ∈ i.columns, n ∈ b.serialNames := by
  rw [key_columns_eq_nil]
  simp only [List.eq_nil_iff_forall_not_mem, mem_flaggedNames, mem_definedNames]
  constructor
  · rintro ⟨hf, hd⟩
    refine ⟨fun c hc hp => ?_, fun i hi hk n hn => ?_⟩
    · by_contra hs
      exact hf c.name ⟨c, hc, hp, by simpa using hs, rfl⟩
    · by_contra hs
      exact hd n ⟨⟨i, hi, hk, hn⟩, hs⟩
  · rintro ⟨hf, hd⟩
    refine ⟨?_, ?_⟩
    · rintro n ⟨c, hc, hp, hs, -⟩
      simp [hf c hc hp] at hs
    · rintro n ⟨⟨i, hi, hk, hn⟩, hs⟩
      exact hs (hd i hi hk n hn)

/-- A statement declares one key at most if no serial column keys itself, or if just one does and
no other column is flagged or listed in a definition; and in no other case. -/
theorem primaryKeys_le_one_iff :
    (b.createTable d).primaryKeys =
        b.columns.countP d.keysItself + (if b.key.columns = [] then 0 else 1) ∧
      ((b.createTable d).primaryKeys ≤ 1 ↔
        b.columns.countP d.keysItself = 0 ∨
          b.columns.countP d.keysItself = 1 ∧
            (∀ c ∈ b.columns, c.primary = true → c.isSerial = true) ∧
            ∀ i ∈ b.indexes, i.kind = .primary → ∀ n ∈ i.columns, n ∈ b.serialNames) := by
  refine ⟨b.primaryKeys_createTable d, ?_⟩
  rw [primaryKeys_createTable, ← key_columns_eq_nil_iff]
  by_cases hk : b.key.columns = []
  · simp only [hk, if_true, and_true]
    omega
  · simp only [hk, if_false, and_false, or_false]
    omega

/-- A serial column that keys itself and one that is flagged make two keys. -/
theorem not_primaryKeys_le_one :
    let b := build "t" .create [.column .id [], .column (.string "code" none) [.primary]]
    ¬(b.createTable .sqlite).primaryKeys ≤ 1 ∧ ¬(b.createTable .postgres).primaryKeys ≤ 1 := by
  decide

theorem mem_keyColumns (n : String) :
    n ∈ (b.createTable d).keyColumns ↔
      (∃ c ∈ b.columns, d.keysItself c = true ∧ c.name = n) ∨ n ∈ b.key.columns := by
  have hc : n ∈ ((b.createTable d).columns.filter (·.key)).map (·.name) ↔
      ∃ c ∈ b.columns, d.clauseHasKey c (b.hasInlineKey c) = true ∧ c.name = n := by
    simp [createTable, Dialect.columnClause, and_assoc]
  rw [CreateTable.keyColumns, List.mem_append, hc, createTable_key]
  simp only [clauseHasKey_hasInlineKey, mem_key_columns]
  by_cases ht : b.key.isTableLevel = true
  · simp [ht, mem_key_columns]
  · have hl := mt b.isTableLevel_iff.mpr ht
    rw [not_or, not_not] at hl
    simp [ht, hl.2, mem_flaggedNames, or_and_right, and_or_left, exists_or, and_assoc]

theorem mem_keyColumns_sqlite (n : String) :
    n ∈ (b.createTable .sqlite).keyColumns ↔ n ∈ b.declaredKey ∨ n ∈ b.serialNames := by
  rw [mem_keyColumns, mem_key_columns, mem_flaggedNames, mem_definedNames, mem_declaredKey]
  have hs : (∃ c ∈ b.columns, Dialect.keysItself .sqlite c = true ∧ c.name = n) ↔
      n ∈ b.serialNames := by simp [Dialect.keysItself, mem_serialNames]
  rw [hs]
  constructor
  · rintro (h | ⟨c, hc, hp, -, hn⟩ | ⟨h, -⟩)
    · exact .inr h
    · exact .inl (.inl ⟨c, hc, hp, hn⟩)
    · exact .inl (.inr h)
  · rintro ((⟨c, hc, hp, hn⟩ | h) | h)
    · cases hc' : c.isSerial with
      | true => exact .inl (b.mem_serialNames n |>.mpr ⟨c, hc, hc', hn⟩)
      | false => exact .inr (.inl ⟨c, hc, hp, hc', hn⟩)
    · by_cases hn : n ∈ b.serialNames
      · exact .inl hn
      · exact .inr (.inr ⟨h, hn⟩)
    · exact .inl h

theorem mem_keyColumns_postgres (n : String) :
    n ∈ (b.createTable .postgres).keyColumns ↔
      (∃ c ∈ b.columns, c.primary = true ∧ c.name = n) ∨ n ∈ b.definedNames := by
  rw [mem_keyColumns, mem_key_columns, mem_flaggedNames]
  constructor
  · rintro (⟨c, hc, hk, hn⟩ | ⟨c, hc, hp, -, hn⟩ | h)
    · have hp : c.primary = true := by
        simp only [Dialect.keysItself, Bool.and_eq_true] at hk
        exact hk.2
      exact .inl ⟨c, hc, hp, hn⟩
    · exact .inl ⟨c, hc, hp, hn⟩
    · exact .inr h
  · rintro (⟨c, hc, hp, hn⟩ | h)
    · cases hs : c.isSerial with
      | true => exact .inl ⟨c, hc, by simp [Dialect.keysItself, hs, hp], hn⟩
      | false => exact .inr (.inl ⟨c, hc, hp, hs, hn⟩)
    · exact .inr (.inr h)

/-- In SQLite a serial column is a key, asked for or not. In PostgreSQL nothing is added to what is
declared, and no column that is not serial is lost. Where every serial column is flagged, either
dialect has the declared key. -/
theorem keyColumns_iff_declaredKey :
    (∀ n, n ∈ (b.createTable .sqlite).keyColumns ↔ n ∈ b.declaredKey ∨ n ∈ b.serialNames) ∧
      (∀ n ∈ (b.createTable .postgres).keyColumns, n ∈ b.declaredKey) ∧
      (∀ n ∈ b.declaredKey,
        (∀ c ∈ b.columns, c.name = n → c.isSerial = true → c.primary = true) →
          n ∈ (b.createTable .postgres).keyColumns) ∧
      ((∀ c ∈ b.columns, c.isSerial = true → c.primary = true) →
        ∀ d n, n ∈ (b.createTable d).keyColumns ↔ n ∈ b.declaredKey) := by
  have hadd : ∀ n ∈ (b.createTable .postgres).keyColumns, n ∈ b.declaredKey := by
    intro n hn
    rw [mem_declaredKey]
    rcases (b.mem_keyColumns_postgres n).mp hn with h | h
    · exact .inl h
    · exact .inr ((b.mem_definedNames n).mp h).1
  have hkeep : ∀ n ∈ b.declaredKey,
      (∀ c ∈ b.columns, c.name = n → c.isSerial = true → c.primary = true) →
        n ∈ (b.createTable .postgres).keyColumns := by
    intro n hn hserial
    rw [mem_keyColumns_postgres]
    rcases (b.mem_declaredKey n).mp hn with h | h
    · exact .inl h
    · by_cases hs : n ∈ b.serialNames
      · obtain ⟨c, hc, hs', rfl⟩ := (b.mem_serialNames n).mp hs
        exact .inl ⟨c, hc, hserial c hc rfl hs', rfl⟩
      · exact .inr ((b.mem_definedNames n).mpr ⟨h, hs⟩)
  refine ⟨b.mem_keyColumns_sqlite, hadd, hkeep, fun hflag d n => ?_⟩
  cases d with
  | sqlite =>
    have hs : n ∈ b.serialNames → n ∈ b.declaredKey := by
      rw [mem_serialNames, mem_declaredKey]
      rintro ⟨c, hc, hs, hn⟩
      exact .inl ⟨c, hc, hflag c hc hs, hn⟩
    rw [mem_keyColumns_sqlite]
    exact ⟨fun h => h.elim id hs, .inl⟩
  | postgres => exact ⟨hadd n, fun hn => hkeep n hn fun c hc _ => hflag c hc⟩

theorem keyColumns_iff_declaredKey_composite :
    let b := build "t" .create [.column .id [], .column (.text "code") [],
      .primary ["id", "code"]]
    ("id" ∈ b.declaredKey ∧ "code" ∈ b.declaredKey) ∧
      (∀ c ∈ b.columns, c.isSerial = true → c.primary = true) ∧
      ("id" ∈ (b.createTable .postgres).keyColumns ∧
        "code" ∈ (b.createTable .postgres).keyColumns) ∧
      ∀ d n, n ∈ (b.createTable d).keyColumns ↔ n ∈ b.declaredKey := by
  intro b
  have hid : "id" ∈ b.declaredKey := by decide
  have hcode : "code" ∈ b.declaredKey := by decide
  have hflag : ∀ c ∈ b.columns, c.isSerial = true → c.primary = true := by decide
  obtain ⟨-, -, hkeep, hall⟩ := keyColumns_iff_declaredKey b
  refine ⟨⟨hid, hcode⟩, hflag, ⟨?_, ?_⟩, hall hflag⟩
  · exact hkeep "id" hid fun c hc _ => hflag c hc
  · exact hkeep "code" hcode fun c hc _ => hflag c hc

/-- A serial column that no one declares a key is one in SQLite, and one that a definition lists
but no flag names is none in PostgreSQL. -/
theorem not_keyColumns_iff_declaredKey :
    (¬∀ b : Blueprint, b.mode = .create → (b.columns.map Column.name).Nodup →
        ∀ n, n ∈ (b.createTable .sqlite).keyColumns ↔ n ∈ b.declaredKey) ∧
      ¬∀ b : Blueprint, b.mode = .create → (b.columns.map Column.name).Nodup →
        ∀ n, n ∈ (b.createTable .postgres).keyColumns ↔ n ∈ b.declaredKey := by
  constructor
  · intro h
    have hn := h (build "t" .create [.column (.integer "n") [.autoIncrement]])
      (by decide) (by decide) "n"
    exact absurd (hn.mp (by decide)) (by decide)
  · intro h
    have hn := h (build "t" .create [.column (.integer "n") [.autoIncrement], .primary ["n"]])
      (by decide) (by decide) "n"
    exact absurd (hn.mpr (by decide)) (by decide)

end Blueprint

end SchemaPlan
