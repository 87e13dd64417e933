import SchemaPlan.Manifest.Replay
import SchemaPlan.Proofs.Results

namespace SchemaPlan.Manifest

def ColumnKind.isKey : ColumnKind → Bool
  | .id | .increments | .bigIncrements => true
  | _ => false

def ColumnKind.isUnsigned (kind : ColumnKind) : Bool :=
  kind.isKey || kind == .foreignId

namespace ColumnEntry

variable (c : ColumnEntry)

def chosenDefault (literal : Option DefaultValue) : Option DefaultValue :=
  if c.useCurrent then some .currentTimestamp
  else (c.defaultExpr.map .expression).or literal

/-- The column of an entry whose type and literal are known: what its kind says and what its fields
ask for. -/
def columnOf (type : ColumnType) (literal : Option DefaultValue) : Column where
  name := c.name
  type := type
  nullable := c.nullable
  default := c.chosenDefault literal
  autoIncrement := c.kind.isKey || c.autoIncrement
  primary := c.kind.isKey || c.primary
  unique := c.unique
  index := c.index
  unsigned := c.kind.isUnsigned || c.unsigned
  comment := c.comment
  references := c.references

end ColumnEntry

section Modify

variable (c : Column)

theorem modify_kind (name : String) (type : ColumnType) (kind : ColumnKind) :
    Column.modify { name, type } kind.modifiers =
      { name, type, autoIncrement := kind.isKey, primary := kind.isKey,
        unsigned := kind.isUnsigned } := by
  cases kind <;> rfl

theorem modify_flags (unique index primary autoIncrement unsigned : Bool) :
    ((((c.modify (flag unique .unique)).modify (flag index .index)).modify
        (flag primary .primary)).modify (flag autoIncrement .autoIncrement)).modify
        (flag unsigned .unsigned) =
      { c with
        unique := c.unique || unique
        index := c.index || index
        primary := c.primary || primary
        autoIncrement := c.autoIncrement || autoIncrement
        unsigned := c.unsigned || unsigned } := by
  cases unique <;> cases index <;> cases primary <;> cases autoIncrement <;> cases unsigned <;>
    simp [flag, Modifier.apply]

theorem modify_defaults (e : ColumnEntry) (literal : Option DefaultValue) :
    ((c.modify (given .default literal)).modify (given .defaultExpr e.defaultExpr)).modify
        (flag e.useCurrent .useCurrent) =
      { c with default := (e.chosenDefault literal).or c.default } := by
  unfold ColumnEntry.chosenDefault
  cases e.useCurrent <;> cases e.defaultExpr <;> cases literal <;> rfl

theorem modify_comment (text : Option String) :
    c.modify (given .comment text) = { c with comment := text.or c.comment } := by
  cases text <;> rfl

theorem modify_references (r : Option Reference) :
    c.modify ((r.map referenceModifiers).getD []) = { c with references := r.or c.references } := by
  cases r with
  | none => rfl
  | some r =>
    obtain ⟨table, column, onDelete, onUpdate⟩ := r
    cases onDelete <;> cases onUpdate <;> rfl

end Modify

namespace ColumnEntry

variable (c : ColumnEntry)

theorem modify_modifiers_eq (type : ColumnType) (literal : Option DefaultValue) :
    Column.modify { name := c.name, type } (c.modifiers literal) = c.columnOf type literal := by
  have hnullable (column : Column) : column.modify (flag c.nullable .nullable) =
      { column with nullable := column.nullable || c.nullable } := by
    cases c.nullable <;> simp [flag, Modifier.apply]
  unfold modifiers
  simp only [Column.modify_append]
  rw [modify_references, modify_comment, modify_flags, modify_defaults, hnullable, modify_kind]
  simp [columnOf]

theorem column_eq_ok_iff {column : Column} :
    c.column = .ok column ↔
      ∃ type, c.type = .ok type ∧ ∃ literal, defaultValue? c.name c.default = .ok literal ∧
        c.columnOf type literal = column := by
  unfold ColumnEntry.column
  simp only [bind_eq_ok_iff, modify_modifiers_eq, pure, Except.pure, Except.ok.injEq]

end ColumnEntry

theorem ModifyEntry.change_eq_ok_iff (m : ModifyEntry) {change : ColumnChange} :
    m.change = .ok change ↔
      ∃ type, m.type? = .ok type ∧ ∃ literal, defaultValue? m.name m.default = .ok literal ∧
        ⟨m.name, type, m.nullable, literal⟩ = change := by
  unfold ModifyEntry.change
  simp only [bind_eq_ok_iff, pure, Except.pure, Except.ok.injEq]

theorem defaultValue?_eq_ok_iff {name : String} {default : Option Json}
    {literal : Option DefaultValue} :
    defaultValue? name default = .ok literal ↔
      default.map (defaultValue name) = literal.map .ok := by
  cases default with
  | none => cases literal <;> simp [defaultValue?]
  | some v => cases literal <;> simp [defaultValue?, map_eq_ok_iff]

end SchemaPlan.Manifest
