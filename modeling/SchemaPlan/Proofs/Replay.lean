import SchemaPlan.Manifest.Replay
import SchemaPlan.Sql.Compile
import SchemaPlan.Proofs.Building
import SchemaPlan.Proofs.Results

namespace SchemaPlan

/-- How to add a column that begins so: a column that numbers the rows or holds the key of another
table is added by its type, with modifiers for what it is beyond that. -/
def ColumnStart.added : ColumnStart → ColumnStart × List Modifier
  | .id => (.ofType "id" .bigInteger, [.autoIncrement, .primary, .unsigned])
  | .bigIncrements name => (.ofType name .bigInteger, [.autoIncrement, .primary, .unsigned])
  | .increments name => (.ofType name .integer, [.autoIncrement, .primary, .unsigned])
  | .foreignId name => (.ofType name .bigInteger, [.unsigned])
  | start => (start, [])

theorem ColumnStart.modify_added (start : ColumnStart) :
    start.added.1.column.modify start.added.2 = start.column := by
  cases start <;> rfl

def Reference.modifiers (r : Reference) : List Modifier :=
  match r.onDelete, r.onUpdate with
  | none, none => [.references r.table r.column]
  | some action, none => [.references r.table r.column, .onDelete action]
  | none, some action => [.references r.table r.column, .onUpdate action]
  | some deletion, some update =>
    [.references r.table r.column, .onDelete deletion, .onUpdate update]

/-- The literal for a JSON value. A number is given as a whole one if a signed 64-bit word holds it,
else as a float. -/
def DefaultValue.ofJson? : Json → Option DefaultValue
  | .string s => some (.string s)
  | .bool b => some (.bool b)
  | .integer n _ =>
    if (Int64.ofInt n).toInt = n then some (.integer (Int64.ofInt n))
    else (Decimal.Finite64.ofInt? n).map fun x => .float x.val
  | .float x => some (.float x.val)
  | .null | .array _ | .object _ => none

namespace Manifest

/-- The typed way to begin a column of some kind, none for a decimal without its sizes. -/
def ColumnKind.start? (name : String) (length : Option UInt32) (precision scale : Option UInt16) :
    ColumnKind → Option ColumnStart
  | .id | .bigIncrements => some (.bigIncrements name)
  | .increments => some (.increments name)
  | .foreignId => some (.foreignId name)
  | .string => some (.string name length)
  | .text => some (.text name)
  | .integer => some (.integer name)
  | .bigInteger => some (.bigInteger name)
  | .boolean => some (.boolean name)
  | .decimal => do return .decimal name (← precision) (← scale)
  | .float => some (.float name)
  | .dateTime => some (.dateTime name)
  | .timestamp => some (.timestamp name)

/-- The literal for a default that may be absent. One that is there must have a literal. -/
def literal? : Option Json → Option (Option DefaultValue)
  | none => some none
  | some v => (DefaultValue.ofJson? v).map some

namespace ColumnEntry

variable (c : ColumnEntry)

def start? : Option ColumnStart :=
  c.kind.start? c.name c.length c.precision c.scale

/-- Of the defaults that an entry asks for, the current time comes before an expression, and that
before a literal. -/
def defaultModifiers (literal : Option DefaultValue) : List Modifier :=
  if c.useCurrent then [.useCurrent]
  else match c.defaultExpr, literal with
    | some sql, _ => [.defaultExpr sql]
    | none, some value => [.default value]
    | none, none => []

def fieldModifiers (literal : Option DefaultValue) : List Modifier :=
  (if c.nullable then [.nullable] else []) ++ c.defaultModifiers literal ++
    (if c.unique then [.unique] else []) ++ (if c.index then [.index] else []) ++
    (if c.primary then [.primary] else []) ++
    (if c.autoIncrement then [.autoIncrement] else []) ++
    (if c.unsigned then [.unsigned] else []) ++
    (match c.comment with
      | some text => [.comment text]
      | none => []) ++
    match c.references with
    | some r => r.modifiers
    | none => []

def call? : Option Call := do
  let start ← c.start?
  let literal ← literal? c.default
  pure (.column start (c.fieldModifiers literal))

def addCall? : Option Call := do
  let start ← c.start?
  let literal ← literal? c.default
  pure (.add start.added.1 (start.added.2 ++ c.fieldModifiers literal))

end ColumnEntry

def IndexEntry.call? (i : IndexEntry) : Option Call :=
  if i.columns = [] then none
  else match i.kind, i.name with
    | .primary, _ => some (.primary i.columns)
    | .unique, none => some (.unique i.columns)
    | .unique, some name => some (.uniqueNamed name i.columns)
    | .index, none => some (.index i.columns)
    | .index, some name => some (.indexNamed name i.columns)

namespace ModifyEntry

variable (m : ModifyEntry)

/-- The setter of the new type, if there is one: the type is that of a column of the same kind. -/
def setters? : Option (List ChangeModifier) :=
  match m.kind with
  | none => some []
  | some kind =>
    (kind.start? m.name m.length m.precision m.scale).map fun start => [.type start.column.type]

def call? : Option Call := do
  let setters ← m.setters?
  let literal ← literal? m.default
  pure (.modify m.name
    (setters ++ (if m.nullable then [.nullable] else []) ++
      match literal with
      | some value => [.default value]
      | none => []))

end ModifyEntry

def CommandEntry.call? : CommandEntry → Option Call
  | .add c => c.addCall?
  | .drop columns => some (.drop columns)
  | .rename old new => some (.rename old new)
  | .modify m => m.call?
  | .dropIndex columns => some (.dropIndex columns)
  | .dropUnique columns => some (.dropUnique columns)
  | .dropPrimary => some .dropPrimary

def TableEntry.calls? (t : TableEntry) : Option (List Call) := do
  let columns ← t.columns.mapM ColumnEntry.call?
  let indexes ← t.indexes.mapM IndexEntry.call?
  let commands ← t.commands.mapM CommandEntry.call?
  pure (columns ++ indexes ++ commands)

section Kind

variable {name : String} {length : Option UInt32} {precision scale : Option UInt16}
  {kind : ColumnKind}

theorem toOption_columnType :
    (columnType name length precision scale kind).toOption =
      (kind.start? name length precision scale).map (·.column.type) := by
  cases kind with
  | decimal => cases precision <;> cases scale <;> rfl
  | _ => rfl

theorem column_start {start : ColumnStart}
    (h : kind.start? name length precision scale = some start) :
    start.column = Column.modify { name, type := start.column.type } kind.modifiers := by
  cases kind with
  | decimal =>
    cases precision with
    | none => cases h
    | some p =>
      cases scale with
      | none => cases h
      | some s =>
        obtain rfl := Option.some.inj h
        rfl
  | _ =>
    obtain rfl := Option.some.inj h
    rfl

end Kind

section Default

theorem toInt_ofInt_eq_iff {n : Int} (h : IsWord n) :
    (Int64.ofInt n).toInt = n ↔ n < 0x8000000000000000 := by
  constructor
  · intro hn
    rw [← hn]
    exact Int64.toInt_lt _
  · exact Int64.toInt_ofInt_of_le h.1

theorem toOption_defaultValue (name : String) (v : Json) :
    (defaultValue name v).toOption = DefaultValue.ofJson? v := by
  cases v with
  | integer n h =>
    rw [defaultValue, DefaultValue.ofJson?]
    by_cases hn : n < 0x8000000000000000
    · rw [if_pos hn, if_pos ((toInt_ofInt_eq_iff h).mpr hn)]
      rfl
    · rw [if_neg hn, if_neg ((toInt_ofInt_eq_iff h).not.mpr hn)]
      cases Decimal.Finite64.ofInt? n <;> rfl
  | _ => rfl

theorem toOption_defaultValue? (name : String) (v : Option Json) :
    (defaultValue? name v).toOption = literal? v := by
  cases v with
  | none => rfl
  | some v => rw [defaultValue?, toOption_map, toOption_defaultValue, literal?]

end Default

theorem referenceModifiers_eq (r : Reference) : referenceModifiers r = r.modifiers := by
  obtain ⟨table, column, onDelete, onUpdate⟩ := r
  cases onDelete <;> cases onUpdate <;> rfl

namespace ColumnEntry

variable (c : ColumnEntry) (literal : Option DefaultValue)

theorem fieldModifiers_eq :
    c.fieldModifiers literal =
      flag c.nullable .nullable ++ c.defaultModifiers literal ++ flag c.unique .unique ++
        flag c.index .index ++ flag c.primary .primary ++ flag c.autoIncrement .autoIncrement ++
        flag c.unsigned .unsigned ++ given .comment c.comment ++
        (c.references.map referenceModifiers).getD [] := by
  unfold fieldModifiers
  cases c.comment <;> cases c.references <;> simp only [Option.map, referenceModifiers_eq] <;> rfl

/-- Of several defaults the last one stays. -/
theorem modify_defaultModifiers (column : Column) :
    ((column.modify (given .default literal)).modify (given .defaultExpr c.defaultExpr)).modify
        (flag c.useCurrent .useCurrent) =
      column.modify (c.defaultModifiers literal) := by
  unfold defaultModifiers
  cases c.useCurrent <;> cases c.defaultExpr <;> cases literal <;> rfl

theorem modify_modifiers {start : ColumnStart} (h : c.start? = some start) :
    Column.modify { name := c.name, type := start.column.type } (c.modifiers literal) =
      start.column.modify (c.fieldModifiers literal) := by
  rw [fieldModifiers_eq]
  simp only [modifiers, Column.modify_append]
  rw [← column_start h, modify_defaultModifiers]

theorem toOption_column :
    c.column.toOption = c.start?.bind fun start =>
      (literal? c.default).map fun literal => start.column.modify (c.fieldModifiers literal) := by
  have ht : c.type.toOption = c.start?.map (·.column.type) := toOption_columnType
  have hl := toOption_defaultValue? c.name c.default
  unfold column
  rw [toOption_bind, ht, ← hl]
  cases hs : c.start? with
  | none => rfl
  | some start =>
    rw [Option.map_some, Option.bind_some, Option.bind_some, toOption_bind]
    cases (defaultValue? c.name c.default).toOption with
    | none => rfl
    | some literal => exact congrArg some (c.modify_modifiers literal hs)

theorem entries_call? :
    c.call?.map Call.entries = c.column.toOption.map ({ columns := [·] }) := by
  rw [toOption_column]
  unfold call?
  cases c.start? <;> cases literal? c.default <;> rfl

theorem entries_addCall? :
    c.addCall?.map Call.entries = c.column.toOption.map ({ commands := [.add ·] }) := by
  rw [toOption_column]
  unfold addCall?
  cases c.start? with
  | none => rfl
  | some start =>
    cases literal? c.default with
    | none => rfl
    | some literal =>
      refine congrArg some ?_
      change ({ commands := [.add (start.added.1.column.modify _)] } : Entries) = _
      rw [Column.modify_append, ColumnStart.modify_added]

theorem entries_addCall?_eq :
    c.addCall?.map Call.entries =
      c.call?.map fun call => { commands := call.entries.columns.map .add } := by
  have h := congrArg (Option.map fun e : Entries => ({ commands := e.columns.map .add } : Entries))
    c.entries_call?
  rw [Option.map_map, Option.map_map] at h
  exact c.entries_addCall?.trans h.symm

end ColumnEntry

namespace IndexEntry

theorem entries_call? (i : IndexEntry) :
    i.call?.map Call.entries = i.index.toOption.map ({ indexes := [·] }) := by
  obtain ⟨kind, columns, name⟩ := i
  unfold call? index
  by_cases h : columns = []
  · rw [if_pos h, if_pos h]
    rfl
  · rw [if_neg h, if_neg h]
    cases kind <;> cases name <;> rfl

end IndexEntry

namespace ModifyEntry

variable (m : ModifyEntry)

theorem setters?_eq : m.setters? = m.type?.toOption.map fun type => (type.map .type).toList := by
  unfold setters? type?
  cases m.kind with
  | none => rfl
  | some kind =>
    dsimp only
    rw [toOption_map, toOption_columnType, Option.map_map, Option.map_map]
    rfl

theorem entries_call? :
    m.call?.map Call.entries = m.change.toOption.map ({ commands := [.modify ·] }) := by
  unfold call? change
  rw [setters?_eq, ← toOption_defaultValue? m.name]
  cases m.type? with
  | error e => rfl
  | ok type =>
    cases defaultValue? m.name m.default with
    | error e => rfl
    | ok literal =>
      cases m.nullable <;> cases type <;> cases literal <;> rfl

end ModifyEntry

theorem CommandEntry.entries_call? (c : CommandEntry) :
    c.call?.map Call.entries = c.command.toOption.map ({ commands := [·] }) := by
  cases c with
  | add c =>
    rw [command, toOption_map, Option.map_map]
    exact c.entries_addCall?
  | modify m =>
    rw [command, toOption_map, Option.map_map]
    exact m.entries_call?
  | _ => rfl

/-- Declarations for each item of a list add what they would each add by themselves. -/
theorem allEntries_mapM {α β : Type} {call? : α → Option Call} {f : α → Replayed β}
    {g : β → Entries} {G : List β → Entries}
    (h : ∀ a, (call? a).map Call.entries = (f a).toOption.map g)
    (hnil : G [] = {}) (hcons : ∀ b bs, G (b :: bs) = g b ++ G bs) (xs : List α) :
    (xs.mapM call?).map Call.allEntries = (xs.mapM f).toOption.map G := by
  induction xs with
  | nil => exact congrArg some hnil.symm
  | cons x xs ih =>
    rw [List.mapM_cons, List.mapM_cons, toOption_bind]
    obtain ⟨hc, hb⟩ | ⟨c, b, hc, hb, hg⟩ := none_or_some_of_map_eq (h x)
    · rw [hc, hb]
      rfl
    rw [hc, hb, Option.bind_some, toOption_bind]
    obtain ⟨hcs, hbs⟩ | ⟨cs, bs, hcs, hbs, hG⟩ := none_or_some_of_map_eq ih
    · rw [hcs, hbs]
      rfl
    rw [hcs, hbs]
    refine congrArg some ?_
    rw [Call.allEntries_cons, hcons, hg, hG]

namespace TableEntry

variable (t : TableEntry)

/-- What a table says and the declarations it stands for build the same blueprint, and a table that
stands for none has declarations that cannot be made. -/
theorem toOption_blueprint_eq_build :
    t.blueprint.toOption = t.calls?.map (Blueprint.build t.table t.mode) := by
  unfold blueprint calls?
  rw [toOption_bind]
  -- Each of the three lists has its entries on both sides or on neither.
  obtain ⟨hc, hb⟩ | ⟨cs, columns, hc, hb, hcs⟩ := none_or_some_of_map_eq
    (allEntries_mapM (G := ({ columns := · })) ColumnEntry.entries_call? rfl (fun _ _ => rfl)
      t.columns)
  · rw [hc, hb]
    rfl
  rw [hc, hb, Option.bind_some, toOption_bind]
  obtain ⟨hc, hb⟩ | ⟨is, indexes, hc, hb, his⟩ := none_or_some_of_map_eq
    (allEntries_mapM (G := ({ indexes := · })) IndexEntry.entries_call? rfl (fun _ _ => rfl)
      t.indexes)
  · rw [hc, hb]
    rfl
  rw [hc, hb, Option.bind_some, toOption_bind]
  obtain ⟨hc, hb⟩ | ⟨ks, commands, hc, hb, hks⟩ := none_or_some_of_map_eq
    (allEntries_mapM (G := ({ commands := · })) CommandEntry.entries_call? rfl (fun _ _ => rfl)
      t.commands)
  · rw [hc, hb]
    rfl
  rw [hc, hb]
  refine congrArg some ?_
  have he : ({ columns } ++ { indexes } ++ { commands } : Entries) =
      ⟨columns, indexes, commands⟩ := by
    change (⟨columns ++ [] ++ [], indexes ++ [], commands⟩ : Entries) = _
    rw [List.append_nil, List.append_nil, List.append_nil]
  rw [Blueprint.build_eq, Call.allEntries_append, Call.allEntries_append, hcs, his, hks, he]

/-- A table that can be built is built by the declarations it stands for, so both have the same
statements; and an entry stands for the same column among the columns and in a command. -/
theorem toOption_blueprint :
    t.blueprint.toOption = t.calls?.map (Blueprint.build t.table t.mode) ∧
      (∀ c : ColumnEntry, c.addCall?.map Call.entries =
        c.call?.map fun call => { commands := call.entries.columns.map .add }) ∧
      ∀ d, t.blueprint.toOption.map (·.compile d) =
        t.calls?.map fun calls => (Blueprint.build t.table t.mode calls).compile d := by
  refine ⟨t.toOption_blueprint_eq_build, ColumnEntry.entries_addCall?_eq, fun d => ?_⟩
  rw [toOption_blueprint_eq_build, Option.map_map]
  rfl

end TableEntry

end Manifest

end SchemaPlan
