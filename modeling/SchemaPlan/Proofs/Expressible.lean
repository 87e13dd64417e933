import SchemaPlan.Proofs.Building
import SchemaPlan.Proofs.Injection
import SchemaPlan.Proofs.LiteralForm
import SchemaPlan.Proofs.ReplayedColumn
import SchemaPlan.Proofs.RoundTrip

namespace SchemaPlan

open Decimal Manifest

/-- What a manifest cannot say: an index without columns, an expression as the new default of a
column, and a default that is a float but no number. -/
structure Blueprint.IsExpressible (b : Blueprint) : Prop where
  indexes : ∀ i ∈ b.indexes, i.columns ≠ []
  changes : ∀ c, .modify c ∈ b.commands → ∀ sql, c.default ≠ some (.expression sql)
  floats : ∀ v ∈ b.defaults, v.IsFinite

namespace DefaultValue

/-- The value that stands for a literal, none for an expression or a float that is no number. -/
def json? : DefaultValue → Option Json
  | .string s => some (.string s)
  | .bool b => some (.bool b)
  | .integer n =>
    some (.integer n.toInt ⟨Int64.le_toInt n, Int.lt_trans (Int64.toInt_lt n) (by decide)⟩)
  | .float x => if h : x.isFinite = true then some (.float ⟨x, h⟩) else none
  | .expression _ => none

def expression? : DefaultValue → Option String
  | .expression sql => some sql
  | _ => none

theorem exists_json? {v : DefaultValue} (hv : v.isExpression = false) (h : v.IsFinite) :
    ∃ j, v.json? = some j ∧ ∀ name, defaultValue name j = .ok v := by
  cases v with
  | integer n =>
    refine ⟨_, rfl, fun name => (if_pos (Int64.toInt_lt n)).trans ?_⟩
    rw [Int64.ofInt_toInt]
  | float x => exact ⟨_, dif_pos h, fun name => rfl⟩
  | expression sql => cases hv
  | _ => exact ⟨_, rfl, fun name => rfl⟩

theorem isKept_json? (v : DefaultValue) (place : Place) : IsKept place v.json? := by
  cases v with
  | float x =>
    rw [json?]
    split <;> rfl
  | _ => rfl

theorem expression?_eq_none {v : DefaultValue} (hv : v.isExpression = false) :
    v.expression? = none := by
  cases v with
  | expression sql => cases hv
  | _ => rfl

end DefaultValue

namespace ColumnType

def kind : ColumnType → ColumnKind
  | .integer => .integer
  | .bigInteger => .bigInteger
  | .string _ => .string
  | .text => .text
  | .boolean => .boolean
  | .decimal _ _ => .decimal
  | .float => .float
  | .dateTime => .dateTime
  | .timestamp => .timestamp

def length? : ColumnType → Option UInt32
  | .string length => some length
  | _ => none

def precision? : ColumnType → Option UInt16
  | .decimal precision _ => some precision
  | _ => none

def scale? : ColumnType → Option UInt16
  | .decimal _ scale => some scale
  | _ => none

theorem columnType_kind (name : String) (t : ColumnType) :
    columnType name t.length? t.precision? t.scale? t.kind = .ok t := by
  cases t <;> rfl

theorem isPlain_kind (t : ColumnType) : t.kind.isKey = false ∧ t.kind.isUnsigned = false := by
  cases t <;> exact ⟨rfl, rfl⟩

end ColumnType

def Column.entry (c : Column) : ColumnEntry where
  name := c.name
  kind := c.type.kind
  length := c.type.length?
  precision := c.type.precision?
  scale := c.type.scale?
  nullable := c.nullable
  default := c.default.bind (·.json?)
  defaultExpr := c.default.bind (·.expression?)
  unique := c.unique
  index := c.index
  primary := c.primary
  autoIncrement := c.autoIncrement
  unsigned := c.unsigned
  comment := c.comment
  references := c.references

def ColumnChange.entry (c : ColumnChange) : ModifyEntry where
  name := c.name
  kind := c.type.map (·.kind)
  length := c.type.bind (·.length?)
  precision := c.type.bind (·.precision?)
  scale := c.type.bind (·.scale?)
  nullable := c.nullable
  default := c.default.bind (·.json?)

def Index.entry (i : Index) : IndexEntry :=
  ⟨i.kind, i.columns, i.name⟩

def Command.entry : Command → CommandEntry
  | .add c => .add c.entry
  | .drop columns => .drop columns
  | .rename old new => .rename old new
  | .modify c => .modify c.entry
  | .dropIndex columns => .dropIndex columns
  | .dropUnique columns => .dropUnique columns
  | .dropPrimary => .dropPrimary

def Blueprint.entry (b : Blueprint) : TableEntry where
  table := b.table
  mode := b.mode
  columns := b.columns.map (·.entry)
  indexes := b.indexes.map (·.entry)
  commands := b.commands.map (·.entry)

namespace Manifest

theorem defaultValue?_json? (name : String) {default : Option DefaultValue}
    (hv : ∀ v ∈ default, v.isExpression = false) (h : ∀ v ∈ default, v.IsFinite) :
    defaultValue? name (default.bind (·.json?)) = .ok default := by
  cases default with
  | none => rfl
  | some v =>
    obtain ⟨j, hj, hback⟩ := DefaultValue.exists_json? (hv v rfl) (h v rfl)
    rw [Option.bind_some, hj, defaultValue?_eq_ok_iff, Option.map_some, hback, Option.map_some]

theorem isKept_bind_json? (place : Place) (default : Option DefaultValue) :
    IsKept place (default.bind (·.json?)) := by
  cases default with
  | none => rfl
  | some v => exact v.isKept_json? place

theorem columnOf_entry (c : Column) {literal : Option DefaultValue}
    (h : c.entry.chosenDefault literal = c.default) : c.entry.columnOf c.type literal = c := by
  obtain ⟨hkey, hunsigned⟩ := c.type.isPlain_kind
  unfold ColumnEntry.columnOf
  rw [h]
  simp [Column.entry, hkey, hunsigned]

/-- An expression is found again in its own field, and a literal where there is no expression. -/
theorem column_entry (c : Column) (h : ∀ v ∈ c.default, v.IsFinite) : c.entry.column = .ok c := by
  refine c.entry.column_eq_ok_iff.mpr ⟨_, c.type.columnType_kind c.name, ?_⟩
  by_cases hv : ∀ v ∈ c.default, v.isExpression = false
  · refine ⟨c.default, defaultValue?_json? c.name hv h, columnOf_entry c ?_⟩
    have hsql : c.default.bind (·.expression?) = none :=
      Option.bind_eq_none_iff.mpr fun v hmem => DefaultValue.expression?_eq_none (hv v hmem)
    simp [ColumnEntry.chosenDefault, Column.entry, hsql]
  · obtain ⟨v, hmem, hv⟩ : ∃ v, c.default = some v ∧ v.isExpression ≠ false := by
      simpa using hv
    cases v with
    | expression sql =>
      refine ⟨none, ?_, columnOf_entry c ?_⟩
      · simp [Column.entry, hmem, DefaultValue.json?, defaultValue?]
      · simp [ColumnEntry.chosenDefault, Column.entry, hmem, DefaultValue.expression?]
    | _ => exact absurd rfl hv

theorem change_entry (c : ColumnChange) (hv : ∀ v ∈ c.default, v.isExpression = false)
    (h : ∀ v ∈ c.default, v.IsFinite) : c.entry.change = .ok c := by
  refine c.entry.change_eq_ok_iff.mpr ⟨c.type, ?_, c.default, defaultValue?_json? c.name hv h, rfl⟩
  unfold ModifyEntry.type? ColumnChange.entry
  cases c.type with
  | none => rfl
  | some t =>
    dsimp only [Option.map_some, Option.bind_some]
    rw [t.columnType_kind]
    rfl

theorem index_entry (i : Index) (h : i.columns ≠ []) (hname : i.kind = .primary → i.name = none) :
    i.entry.index = .ok i := by
  obtain ⟨kind, columns, name⟩ := i
  unfold IndexEntry.index Index.entry
  rw [if_neg h]
  split
  · next hkind => rw [show name = none from hname hkind]
  · rfl

theorem command_entry (c : Command) (h : ∀ v ∈ c.default?, v.IsFinite)
    (hv : ∀ change, c = .modify change → ∀ v ∈ change.default, v.isExpression = false) :
    c.entry.command = .ok c := by
  cases c with
  | add c => exact map_eq_ok_iff.mpr ⟨c, column_entry c h, rfl⟩
  | modify c => exact map_eq_ok_iff.mpr ⟨c, change_entry c (hv c rfl) h, rfl⟩
  | _ => rfl

end Manifest

namespace Blueprint

/-- Declarations never name a primary key. -/
theorem name_primary_build {table : String} {mode : Mode} {calls : List Call} {i : Index}
    (hi : i ∈ (build table mode calls).indexes) (hkind : i.kind = .primary) : i.name = none := by
  rw [build_eq] at hi
  obtain ⟨call, -, hcall⟩ := List.mem_flatMap.mp hi
  cases call with
  | indexNamed name columns | uniqueNamed name columns =>
    obtain rfl := List.mem_singleton.mp hcall
    cases hkind
  | index columns | unique columns | primary columns =>
    obtain rfl := List.mem_singleton.mp hcall
    rfl
  | _ => cases hcall

theorem mem_defaults {b : Blueprint} {v : DefaultValue} :
    v ∈ b.defaults ↔
      (∃ c ∈ b.columns, c.default = some v) ∨ ∃ k ∈ b.commands, k.default? = some v := by
  rw [defaults, List.mem_append, List.mem_filterMap, List.mem_filterMap]

theorem isKept_entry (b : Blueprint) : b.entry.IsKept where
  columns c hc := by
    obtain ⟨column, -, rfl⟩ := List.mem_map.mp hc
    exact isKept_bind_json? _ column.default
  commands k hk := by
    obtain ⟨command, -, rfl⟩ := List.mem_map.mp hk
    cases command with
    | add c => exact isKept_bind_json? _ c.default
    | modify c => exact isKept_bind_json? _ c.default
    | _ => trivial

namespace IsExpressible

variable {b : Blueprint} (h : b.IsExpressible)

include h

theorem blueprint_entry (hname : ∀ i ∈ b.indexes, i.kind = .primary → i.name = none) :
    b.entry.blueprint = .ok b := by
  have hcolumns : b.entry.columns.mapM ColumnEntry.column = .ok b.columns :=
    mapM_map_eq_ok fun c hc => column_entry c fun v hv =>
      h.floats v (mem_defaults.mpr (.inl ⟨c, hc, hv⟩))
  have hindexes : b.entry.indexes.mapM IndexEntry.index = .ok b.indexes :=
    mapM_map_eq_ok fun i hi => index_entry i (h.indexes i hi) (hname i hi)
  have hcommands : b.entry.commands.mapM CommandEntry.command = .ok b.commands := by
    refine mapM_map_eq_ok fun k hk => command_entry k (fun v hv => ?_) fun c hc v hv => ?_
    · exact h.floats v (mem_defaults.mpr (.inr ⟨k, hk, hv⟩))
    · subst hc
      cases v with
      | expression sql => exact absurd hv (h.changes c hk sql)
      | _ => rfl
  unfold TableEntry.blueprint
  rw [hcolumns, hindexes, hcommands]
  rfl

end IsExpressible

end Blueprint

namespace Manifest

theorem isLiteral_of_defaultValue {name : String} {j : Json} {v : DefaultValue}
    (h : defaultValue name j = .ok v) : v.isExpression = false ∧ v.IsFinite := by
  cases j with
  | string s | bool b =>
    obtain rfl := Except.ok.inj h
    exact ⟨rfl, trivial⟩
  | integer n hn =>
    rw [defaultValue] at h
    split at h
    · obtain rfl := Except.ok.inj h
      exact ⟨rfl, trivial⟩
    · split at h
      · next x hx =>
        obtain rfl := Except.ok.inj h
        exact ⟨rfl, x.isFinite⟩
      · cases h
  | float x =>
    obtain rfl := Except.ok.inj h
    exact ⟨rfl, x.isFinite⟩
  | _ => cases h

theorem isLiteral_of_defaultValue? {name : String} {default : Option Json}
    {literal : Option DefaultValue} (h : defaultValue? name default = .ok literal) :
    ∀ v ∈ literal, v.isExpression = false ∧ v.IsFinite := by
  rintro v rfl
  obtain ⟨j, -, hj⟩ := Option.map_eq_some_iff.mp (defaultValue?_eq_ok_iff.mp h)
  exact isLiteral_of_defaultValue hj

theorem isFinite_of_column {c : ColumnEntry} {column : Column} (h : c.column = .ok column) :
    ∀ v ∈ column.default, v.IsFinite := by
  obtain ⟨type, -, literal, hliteral, rfl⟩ := c.column_eq_ok_iff.mp h
  intro v hv
  change c.chosenDefault literal = some v at hv
  unfold ColumnEntry.chosenDefault at hv
  split at hv
  · obtain rfl := Option.some.inj hv
    trivial
  · rcases Option.or_eq_some_iff.mp hv with hexpr | ⟨-, hv⟩
    · obtain ⟨sql, -, rfl⟩ := Option.map_eq_some_iff.mp hexpr
      trivial
    · exact (isLiteral_of_defaultValue? hliteral v hv).2

theorem isLiteral_of_change {m : ModifyEntry} {change : ColumnChange} (h : m.change = .ok change) :
    ∀ v ∈ change.default, v.isExpression = false ∧ v.IsFinite := by
  obtain ⟨type, -, literal, hliteral, rfl⟩ := m.change_eq_ok_iff.mp h
  exact isLiteral_of_defaultValue? hliteral

theorem isFinite_of_command {k : CommandEntry} {command : Command} (h : k.command = .ok command) :
    ∀ v ∈ command.default?, v.IsFinite := by
  cases k with
  | add c =>
    obtain ⟨column, hcolumn, rfl⟩ := map_eq_ok_iff.mp h
    exact isFinite_of_column hcolumn
  | modify m =>
    obtain ⟨change, hchange, rfl⟩ := map_eq_ok_iff.mp h
    exact fun v hv => (isLiteral_of_change hchange v hv).2
  | _ =>
    obtain rfl := Except.ok.inj h
    exact fun v hv => nomatch hv

theorem isLiteral_of_modify {k : CommandEntry} {change : ColumnChange}
    (h : k.command = .ok (.modify change)) : ∀ v ∈ change.default, v.isExpression = false := by
  cases k with
  | modify m =>
    obtain ⟨change', hchange, heq⟩ := map_eq_ok_iff.mp h
    obtain rfl := Command.modify.inj heq
    exact fun v hv => (isLiteral_of_change hchange v hv).1
  | add c =>
    obtain ⟨column, -, heq⟩ := map_eq_ok_iff.mp h
    cases heq
  | _ => cases h

theorem columns_ne_nil_of_index {i : IndexEntry} {index : Index} (h : i.index = .ok index) :
    index.columns ≠ [] := by
  unfold IndexEntry.index at h
  split at h
  · cases h
  · next hne =>
    obtain rfl := Except.ok.inj h
    exact hne

theorem TableEntry.isExpressible {t : TableEntry} {b : Blueprint} (h : t.blueprint = .ok b) :
    b.IsExpressible := by
  obtain ⟨columns, hcolumns, h⟩ := bind_eq_ok_iff.mp h
  obtain ⟨indexes, hindexes, h⟩ := bind_eq_ok_iff.mp h
  obtain ⟨commands, hcommands, h⟩ := bind_eq_ok_iff.mp h
  obtain rfl := Except.ok.inj h
  constructor
  · intro i hi
    obtain ⟨entry, hentry⟩ := exists_of_mem_mapM hindexes hi
    exact columns_ne_nil_of_index hentry
  · intro change hchange sql hsql
    obtain ⟨entry, hentry⟩ := exists_of_mem_mapM hcommands hchange
    cases isLiteral_of_modify hentry _ hsql
  · intro v hv
    rcases Blueprint.mem_defaults.mp hv with ⟨c, hc, hv⟩ | ⟨k, hk, hv⟩
    · obtain ⟨entry, hentry⟩ := exists_of_mem_mapM hcolumns hc
      exact isFinite_of_column hentry v hv
    · obtain ⟨entry, hentry⟩ := exists_of_mem_mapM hcommands hk
      exact isFinite_of_command hentry v hv

end Manifest

/-- A table of a manifest says what declarations built exactly if none of the three gaps is in it.
Then its own entry says it, also once it is written out as a document. -/
theorem Blueprint.isExpressible_iff (table : String) (mode : Mode) (calls : List Call) :
    let b := build table mode calls
    ((∃ t : TableEntry, t.blueprint = .ok b) ↔ b.IsExpressible) ∧
      ((∃ document t, decodeTables document = .ok [t] ∧ t.blueprint = .ok b) ↔
        b.IsExpressible) ∧
      (b.IsExpressible →
        decodeTables (encodeTable b.entry) = .ok [b.entry] ∧ b.entry.blueprint = .ok b) := by
  intro b
  have hentry (h : b.IsExpressible) : b.entry.blueprint = .ok b :=
    h.blueprint_entry fun i hi hkind => name_primary_build hi hkind
  have hdecode : decodeTables (encodeTable b.entry) = .ok [b.entry] :=
    map_eq_ok_iff.mpr ⟨b.entry, decodeTable_encodeTable (isKept_entry b), rfl⟩
  refine ⟨⟨?_, ?_⟩, ⟨?_, ?_⟩, fun h => ⟨hdecode, hentry h⟩⟩
  · rintro ⟨t, ht⟩
    exact TableEntry.isExpressible ht
  · exact fun h => ⟨b.entry, hentry h⟩
  · rintro ⟨document, t, -, ht⟩
    exact TableEntry.isExpressible ht
  · exact fun h => ⟨encodeTable b.entry, b.entry, hdecode, hentry h⟩

end SchemaPlan
