import SchemaPlan.Proofs.Alteration
import SchemaPlan.Proofs.KeyCoverage
import SchemaPlan.Proofs.Reader
import SchemaPlan.Proofs.Text

namespace SchemaPlan

open Sql

namespace Sql

namespace ColumnClause

variable (c : ColumnClause)

def behindKey : String :=
  onlyIf c.counting " AUTOINCREMENT" ++ (onlyIf c.notNull " NOT NULL" ++
    (onlyIf c.unique " UNIQUE" ++ (led " DEFAULT " c.default ++
      led " REFERENCES " (c.references.map referent))))

theorem text_eq_behindKey :
    c.text = quoteName c.name ++ (" " ++ (c.type ++
      (onlyIf c.key " PRIMARY KEY" ++ c.behindKey))) :=
  c.text_eq

/-- Whatever the default of a clause is, no key is told where none is. -/
theorem not_prefix_behindKey :
    ¬" PRIMARY KEY".toList <+: (c.behindKey ++ ")").toList := by
  have hclose : Begins [")"] ")".toList := ⟨")", List.mem_singleton_self _, List.prefix_refl _⟩
  have hbegins := ((((hclose.led " REFERENCES " (c.references.map referent)).led " DEFAULT "
    c.default).onlyIf " UNIQUE" c.unique).onlyIf " NOT NULL" c.notNull).onlyIf " AUTOINCREMENT"
    c.counting
  unfold behindKey
  simp only [String.append_assoc]
  exact hbegins.not_prefix (by decide)

variable {c} {c' : ColumnClause}

theorem key_of_text_eq (hname : c.name = c'.name) (htype : c.type = c'.type)
    (h : c.text = c'.text) (hkey : c.key = true) : c'.key = true := by
  rw [text_eq_behindKey, text_eq_behindKey, hname, htype, String.append_right_inj,
    String.append_right_inj, String.append_right_inj, hkey] at h
  by_contra hkey'
  have hbehind : " PRIMARY KEY" ++ c.behindKey = c'.behindKey := by
    rw [Bool.not_eq_true] at hkey'
    rw [hkey'] at h
    exact h.trans String.empty_append
  refine c'.not_prefix_behindKey ?_
  rw [← hbehind, String.append_assoc, String.toList_append]
  exact List.prefix_append _ _

/-- Of clauses for one name and one type, the text tells whether the key is in it. -/
theorem key_eq_of_text_eq (hname : c.name = c'.name) (htype : c.type = c'.type)
    (h : c.text = c'.text) : c.key = c'.key :=
  Bool.eq_iff_iff.mpr ⟨key_of_text_eq hname htype h, key_of_text_eq hname.symm htype.symm h.symm⟩

end ColumnClause

end Sql

namespace Dialect

variable (d : Dialect) (c : Column)

/-- All that hangs on the question whether a column may have its key beside itself is whether it
has one. -/
theorem columnClause_congr {x y : Bool} (h : d.clauseHasKey c x = d.clauseHasKey c y) :
    d.columnClause c x = d.columnClause c y := by
  have hnull : d.impliesNotNull c x = d.impliesNotNull c y := by
    cases d with
    | sqlite => exact h
    | postgres => rfl
  unfold columnClause
  rw [h, hnull]

theorem text_columnClause_eq_iff (x y : Bool) :
    (d.columnClause c x).text = (d.columnClause c y).text ↔
      d.clauseHasKey c x = d.clauseHasKey c y := by
  constructor
  · exact ColumnClause.key_eq_of_text_eq rfl rfl
  · intro h
    rw [d.columnClause_congr c h]

theorem clauseHasKey_primary :
    d.clauseHasKey c c.primary = (d.keysItself c || (c.primary && !c.isSerial)) := by
  unfold clauseHasKey keysItself
  cases c.primary <;> cases c.isSerial <;> cases d <;> rfl

end Dialect

/-- What one item of a list gives has its place among what the list gives. -/
theorem filterMap_set {α β : Type} {f : α → Option β} {xs : List α} {i : Nat} {x : α}
    (h : xs[i]? = some x) :
    ∃ front back, xs.filterMap f = front ++ (f x).toList ++ back ∧
      ∀ y, (xs.set i y).filterMap f = front ++ (f y).toList ++ back := by
  have hcons : ∀ y ys, (y :: ys).filterMap f = (f y).toList ++ ys.filterMap f := by
    intro y ys
    cases hy : f y <;> simp [hy]
  induction xs generalizing i with
  | nil => cases h
  | cons z zs ih =>
    cases i with
    | zero =>
      obtain rfl := Option.some.inj h
      exact ⟨[], zs.filterMap f, hcons z zs, fun y => hcons y zs⟩
    | succ i =>
      obtain ⟨front, back, hself, hset⟩ := ih h
      refine ⟨(f z).toList ++ front, back, ?_, fun y => ?_⟩
      · rw [hcons, hself]
        simp only [List.append_assoc]
      · rw [List.set_cons_succ, hcons, hset]
        simp only [List.append_assoc]

namespace Blueprint

variable (b : Blueprint) (d : Dialect) (c : Column)

/-- Among its own columns, a column has lost its key to the one that is written for the table. -/
structure KeyMoved (b : Blueprint) (d : Dialect) (c : Column) : Prop where
  primary : c.primary = true
  notSerial : c.isSerial = false
  tableKey : (b.createTable d).key.isSome = true

theorem keyMoved_iff :
    b.KeyMoved d c ↔ c.primary = true ∧ c.isSerial = false ∧ b.key.isTableLevel = true := by
  have hkey : (b.createTable d).key.isSome = b.key.isTableLevel := by
    rw [createTable_key]
    cases b.key.isTableLevel <;> rfl
  rw [← hkey]
  exact ⟨fun h => ⟨h.primary, h.notSerial, h.tableKey⟩, fun ⟨hp, hs, hk⟩ => ⟨hp, hs, hk⟩⟩

theorem text_added_eq_iff :
    (d.columnClause c c.primary).text = (d.columnClause c (b.hasInlineKey c)).text ↔
      ¬b.KeyMoved d c := by
  rw [d.text_columnClause_eq_iff, d.clauseHasKey_primary, clauseHasKey_hasInlineKey, keyMoved_iff]
  have hserial : c.isSerial = false → d.keysItself c = false := by
    intro hs
    rw [Dialect.keysItself, hs, Bool.false_and]
  cases hs : c.isSerial with
  | true => simp
  | false => simp [hserial hs]

variable {b d c}

theorem KeyMoved.key_added (h : b.KeyMoved d c) : (d.columnClause c c.primary).key = true := by
  change d.clauseHasKey c c.primary = true
  rw [d.clauseHasKey_primary, h.primary, h.notSerial]
  exact Bool.or_true _

/-- Where the key has moved, a column may have to say again that it has no nulls. -/
theorem KeyMoved.created_eq (h : b.KeyMoved d c) :
    d.columnClause c (b.hasInlineKey c) =
      { d.columnClause c c.primary with key := false, notNull := !c.nullable } := by
  obtain ⟨-, hserial, htable⟩ := (b.keyMoved_iff d c).mp h
  have hinline : b.hasInlineKey c = false := by
    rw [hasInlineKey, hserial, htable]
    exact Bool.and_false _
  have hkey : d.clauseHasKey c false = false := by
    rw [Dialect.clauseHasKey, hserial, Bool.and_false]
    rfl
  have hnull : d.impliesNotNull c false = false := by
    cases d with
    | sqlite => exact hkey
    | postgres => exact hserial
  rw [hinline]
  unfold Dialect.columnClause
  rw [hkey, hnull, Bool.not_false, Bool.and_true]

variable (b d c)

def withColumn (b : Blueprint) (i : Nat) (c : Column) : Blueprint :=
  { b with columns := b.columns.set i c }

theorem createIndexes_withColumn {i : Nat} (h : b.columns[i]? = some c) :
    ∃ front back, b.createIndexes = front ++ (c.createIndex? b.table).toList ++ back ∧
      ∀ c', (b.withColumn i c').createIndexes =
        front ++ (c'.createIndex? b.table).toList ++ back := by
  obtain ⟨front, back, hself, hset⟩ := filterMap_set (f := (·.createIndex? b.table)) h
  refine ⟨b.indexes.filterMap (·.create? b.table) ++ front, back, ?_, fun c' => ?_⟩
  · rw [createIndexes, hself]
    simp only [List.append_assoc]
  · change b.indexes.filterMap (·.create? b.table) ++
      (b.columns.set i c').filterMap (·.createIndex? b.table) = _
    rw [hset]
    simp only [List.append_assoc]

theorem alter_add (pre post : List Command) :
    (b.withCommands (pre ++ .add c :: post)).alter d = do
      let front ← (b.withCommands pre).alter d
      let back ← (b.withCommands post).alter d
      return front ++ .addColumn b.table (d.columnClause c c.primary) ::
        (c.createIndex? b.table).toList ++ back := by
  have hadd : Command.isSupported d (Command.add c).kind = true := by cases d <;> rfl
  change Command.allStatements d b.table (pre ++ .add c :: post) = do
    let front ← Command.allStatements d b.table pre
    let back ← Command.allStatements d b.table post
    return front ++ (Command.add c).plan d b.table ++ back
  rw [Command.allStatements_append, Command.allStatements_cons, if_pos hadd]
  cases Command.allStatements d b.table pre with
  | error e => rfl
  | ok front =>
    cases Command.allStatements d b.table post with
    | error e => rfl
    | ok back => exact congrArg Except.ok (List.append_assoc front _ back).symm

theorem length_createIndex? (table : String) :
    (c.createIndex? table).toList.length = if c.index then 1 else 0 := by
  unfold Column.createIndex?
  cases c.index <;> rfl

/-- A column reads as the one among the columns of its table does when it is added, unless its key
has moved: then it has the key beside itself again. In either case it brings the index that its flag
brings to the table. -/
theorem added_as_created {i : Nat} (h : b.columns[i]? = some c) :
    ∃ (added created : ColumnClause) (index : List Statement),
      (∀ pre post, (b.withCommands (pre ++ .add c :: post)).alter d = do
        let front ← (b.withCommands pre).alter d
        let back ← (b.withCommands post).alter d
        return front ++ .addColumn b.table added :: index ++ back) ∧
      (Statement.addColumn b.table added).text =
        "ALTER TABLE " ++ quoteName b.table ++ " ADD COLUMN " ++ added.text ∧
      (b.createTable d).columns[i]? = some created ∧
      (b.createTable d).clauses[i]? = some created.text ∧
      (added.text = created.text ↔ ¬b.KeyMoved d c) ∧
      (b.KeyMoved d c →
        added.key = true ∧ created = { added with key := false, notNull := !c.nullable }) ∧
      index.length = (if c.index then 1 else 0) ∧
      ∃ front back, b.createIndexes = front ++ index ++ back ∧
        (b.withColumn i { c with index := false }).createIndexes = front ++ back := by
  obtain ⟨front, back, hself, hset⟩ := b.createIndexes_withColumn c h
  have hcreated : (b.createTable d).columns[i]? = some (d.columnClause c (b.hasInlineKey c)) := by
    change (b.columns.map fun c => d.columnClause c (b.hasInlineKey c))[i]? = _
    rw [List.getElem?_map, h]
    rfl
  refine ⟨d.columnClause c c.primary, _, (c.createIndex? b.table).toList, b.alter_add d c, rfl,
    hcreated, ?_, b.text_added_eq_iff d c, fun hmoved => ⟨hmoved.key_added, hmoved.created_eq⟩,
    length_createIndex? c b.table, front, back, hself, ?_⟩
  · rw [clauses_createTable, List.append_assoc, List.getElem?_append_left ?_, List.getElem?_map, h]
    · rfl
    · obtain ⟨hi, -⟩ := List.getElem?_eq_some_iff.mp h
      rwa [List.length_map]
  · have hnone : ({ c with index := false } : Column).createIndex? b.table = none := rfl
    rw [hset, hnone, Option.toList_none, List.append_nil]

theorem added_as_created_composite :
    let a : Column := { name := "a", type := .text, primary := true, index := true }
    let x : Index := ⟨.primary, ["x"], none⟩
    let b : Blueprint := { table := "t", mode := .create, columns := [a], indexes := [x] }
    b.columns[0]? = some a ∧ b.KeyMoved .sqlite a ∧
      ∃ (added created : ColumnClause) (index : List Statement),
        (b.withCommands [.add a]).alter .sqlite = .ok (.addColumn "t" added :: index) ∧
        (b.createTable .sqlite).columns[0]? = some created ∧ added.text ≠ created.text ∧
        index.length = 1 ∧ index <:+: b.createIndexes := by
  intro a x b
  have ha : b.columns[0]? = some a := rfl
  have hmoved : b.KeyMoved .sqlite a := ⟨rfl, rfl, by decide⟩
  obtain ⟨added, created, index, hadd, -, hcreated, -, htext, -, hlength, front, back, hindex, -⟩ :=
    added_as_created b .sqlite a ha
  have halter : (b.withCommands [.add a]).alter .sqlite =
      .ok (.addColumn "t" added :: (index ++ [])) := hadd [] []
  rw [List.append_nil] at halter
  exact ⟨ha, hmoved, added, created, index, halter, hcreated, fun heq => htext.mp heq hmoved,
    hlength, front, back, hindex.symm⟩

end Blueprint

end SchemaPlan
