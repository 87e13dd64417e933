import SchemaPlan.Sql.Statement

namespace SchemaPlan.Sql

def referent (r : Reference) : String :=
  quoteName r.table ++ (" (" ++ (quoteName r.column ++ (")" ++
    (led " ON DELETE " (r.onDelete.map (·.sql)) ++ led " ON UPDATE " (r.onUpdate.map (·.sql))))))

theorem led_referenceText (r : Option Reference) :
    led "" (r.map referenceText) = led " REFERENCES " (r.map referent) := by
  cases r with
  | none => rfl
  | some r =>
    rw [Option.map_some, Option.map_some]
    unfold led referenceText referent
    simp only [String.empty_append, String.append_assoc]

theorem ColumnClause.text_eq (c : ColumnClause) :
    c.text = quoteName c.name ++ (" " ++ (c.type ++ (onlyIf c.key " PRIMARY KEY" ++
      (onlyIf c.counting " AUTOINCREMENT" ++ (onlyIf c.notNull " NOT NULL" ++
        (onlyIf c.unique " UNIQUE" ++ (led " DEFAULT " c.default ++
          led " REFERENCES " (c.references.map referent)))))))) := by
  unfold ColumnClause.text ColumnClause.constraints
  rw [led_referenceText]
  simp only [String.append_assoc]

theorem UniqueClause.text_eq (u : UniqueClause) :
    u.text = "CONSTRAINT " ++ (quoteName u.name ++ (" UNIQUE (" ++
      (nameList u.columns ++ ")"))) := by
  unfold UniqueClause.text
  simp only [String.append_assoc]

namespace CreateTable

theorem keyText_eq (columns : List String) :
    keyText columns = "PRIMARY KEY (" ++ (nameList columns ++ ")") :=
  String.append_assoc

theorem text_eq (t : CreateTable) :
    t.text = "CREATE TABLE " ++ (quoteName t.table ++ (" (" ++
      (", ".intercalate t.clauses ++ ")"))) := by
  unfold CreateTable.text
  simp only [String.append_assoc]

end CreateTable

namespace Statement

theorem altering_append (table s : String) :
    altering table ++ s = "ALTER TABLE " ++ (quoteName table ++ s) :=
  String.append_assoc

theorem alterColumnPart_eq (table column : String) (a : ColumnAction) :
    alterColumnPart table column a =
      altering table ++ (" ALTER COLUMN " ++ (quoteName column ++ a.text)) := by
  unfold alterColumnPart
  simp only [String.append_assoc]

theorem dropConstraintPart_eq (table name : String) :
    dropConstraintPart table name =
      altering table ++ (" DROP CONSTRAINT IF EXISTS " ++ quoteName name) :=
  String.append_assoc

theorem text_createIndex (name table : String) (columns : List String) :
    (createIndex name table columns).text = "CREATE INDEX " ++ (quoteName name ++ (" ON " ++
      (quoteName table ++ (" (" ++ (nameList columns ++ ")"))))) := by
  unfold Statement.text
  simp only [String.append_assoc]

theorem text_addColumn (table : String) (clause : ColumnClause) :
    (addColumn table clause).text = altering table ++ (" ADD COLUMN " ++ clause.text) :=
  String.append_assoc

theorem text_dropColumn (table column : String) :
    (dropColumn table column).text = altering table ++ (" DROP COLUMN " ++ quoteName column) :=
  String.append_assoc

theorem text_renameColumn (table old new : String) :
    (renameColumn table old new).text =
      altering table ++ (" RENAME COLUMN " ++ (quoteName old ++ (" TO " ++ quoteName new))) := by
  unfold Statement.text
  simp only [String.append_assoc]

theorem text_dropTable (table : String) (ifExists : Bool) :
    (dropTable table ifExists).text =
      "DROP TABLE " ++ (onlyIf ifExists "IF EXISTS " ++ quoteName table) :=
  String.append_assoc

theorem text_renameTable (old new : String) :
    (renameTable old new).text = altering old ++ (" RENAME TO " ++ quoteName new) :=
  String.append_assoc

end Statement

end SchemaPlan.Sql
