import SchemaPlan.Proofs.Alike
import SchemaPlan.Proofs.Renaming
import SchemaPlan.Proofs.Text

namespace SchemaPlan

open Sql

namespace Sql

variable {n : Nat}

theorem isWordChar_flat {c : Char} (h : isWordChar c = true) :
    isMark c = false ∧ c ≠ '(' ∧ c ≠ ')' ∧ c ≠ ';' := by
  refine ⟨?_, ?_, ?_, ?_⟩
  · by_contra hm
    rcases eq_of_isMark (by simpa using hm) with rfl | rfl <;> exact absurd h (by decide)
  all_goals
    rintro rfl
    exact absurd h (by decide)

theorem IsLiteral.alike {v : String} (h : IsLiteral v) : Alike n n 0 v v := by
  cases h with
  | string s => exact .lastString s s
  | word w hw => exact .flat fun c hc => isWordChar_flat (hw c hc)

theorem isWordChar_of_isUpper {c : Char} (h : c.isUpper = true) : isWordChar c = true := by
  change (((c.isUpper || c.isLower) || c.isDigit) || c == '-' || c == '.') = true
  rw [h, Bool.true_or, Bool.true_or, Bool.true_or, Bool.true_or]

theorem isSizeChar_flat {c : Char} (h : isSizeChar c = true) :
    isMark c = false ∧ c ≠ '(' ∧ c ≠ ')' ∧ c ≠ ';' := by
  simp only [isSizeChar, Bool.or_eq_true, beq_iff_eq] at h
  rcases h with (h | rfl) | rfl
  · exact isWordChar_flat (Decimal.isWordChar_of_isDigit h)
  · decide
  · decide

theorem IsTypeName.alike {t : String} (h : IsTypeName t) : Alike n n 0 t t := by
  have hword : ∀ {w : String}, (∀ c ∈ w.toList, c.isUpper = true) → Alike n n 0 w w :=
    fun hw => .flat fun c hc => isWordChar_flat (isWordChar_of_isUpper (hw c hc))
  cases h with
  | word w hw => exact hword hw
  | sized w sizes hw hs =>
    have hsizes : Alike (n + 1) (n + 1) 0 sizes sizes :=
      .flat fun c hc => isSizeChar_flat (hs c hc)
    exact (hword hw).append (.words "(" rfl rfl (hsizes.append .lastClose))
  | double => exact (Follows.last "DOUBLE PRECISION" rfl rfl).toAlike

theorem follows_onlyIf (b : Bool) {l : String} (h : Follows n n 0 l l) :
    Follows n n 0 (onlyIf b l) (onlyIf b l) := by
  cases b with
  | false => exact .nil
  | true => exact h

theorem alike_onlyIf (b : Bool) {l s t : String} (hl : isWords l = true)
    (hn : nesting n l.toList = some n) (h : Alike n n 0 s t) :
    Alike n n 0 (onlyIf b l ++ s) (onlyIf b l ++ t) := by
  cases b with
  | false => simpa [onlyIf] using h
  | true => exact .words l hl hn h

theorem alike_action (a : ReferentialAction) : Alike n n 0 a.sql a.sql := by
  cases a <;> exact (Follows.last _ rfl rfl).toAlike

theorem follows_onDelete (a : Option ReferentialAction) :
    Follows n n 0 (led " ON DELETE " (a.map (·.sql))) (led " ON DELETE " (a.map (·.sql))) := by
  cases a with
  | none => exact .nil
  | some a => exact .words _ rfl rfl (alike_action a)

theorem follows_onUpdate (a : Option ReferentialAction) :
    Follows n n 0 (led " ON UPDATE " (a.map (·.sql))) (led " ON UPDATE " (a.map (·.sql))) := by
  cases a with
  | none => exact .nil
  | some a => exact .words _ rfl rfl (alike_action a)

theorem alike_referent (ρ : String → String) (r : Reference) :
    Alike n n 0 (referent r) (referent (r.rename ρ)) := by
  have hactions := (follows_onDelete (n := n) r.onDelete).append (follows_onUpdate r.onUpdate)
  exact .name _ _ (.words " (" rfl rfl (.name _ _ (.close hactions.toAlike)))

theorem follows_references (ρ : String → String) (r : Option Reference) :
    Follows n n 0 (led " REFERENCES " (r.map referent))
      (led " REFERENCES " ((r.map (·.rename ρ)).map referent)) := by
  cases r with
  | none => exact .nil
  | some r => exact .words _ rfl rfl (alike_referent ρ r)

/-- Two clauses with the same type and flags, whose defaults are alike, are alike whatever the
names. -/
theorem ColumnClause.alike (c : ColumnClause) (ht : IsTypeName c.type) (ρ : String → String)
    (name : String) (default : Option String)
    (hd : Follows n n 0 (led " DEFAULT " c.default) (led " DEFAULT " default)) :
    Alike n n 0 c.text { c with
      name, default, references := c.references.map (·.rename ρ) : ColumnClause }.text := by
  have hkey := follows_onlyIf (n := n) c.key (.last " PRIMARY KEY" rfl rfl)
  have hcounting := follows_onlyIf (n := n) c.counting (.last " AUTOINCREMENT" rfl rfl)
  have hnotNull := follows_onlyIf (n := n) c.notNull (.last " NOT NULL" rfl rfl)
  have hunique := follows_onlyIf (n := n) c.unique (.last " UNIQUE" rfl rfl)
  have hconstraints := ((hkey.append hcounting).append hnotNull).append hunique
  have htail := hconstraints.append (hd.append (follows_references ρ c.references))
  simp only [String.append_assoc] at htail
  rw [ColumnClause.text_eq, ColumnClause.text_eq]
  exact .name _ _ (.words " " rfl rfl (ht.alike.append htail))

theorem UniqueClause.alike (u v : UniqueClause) (h : u.columns.length = v.columns.length) :
    Alike n n 0 u.text v.text := by
  rw [u.text_eq, v.text_eq]
  have hcolumns := (Alike.nameList (d := n + 1) h).append .lastClose
  exact .words _ rfl rfl (.name _ _ (.words " UNIQUE (" rfl rfl hcolumns))

theorem CreateTable.alike_keyText {xs ys : List String} (h : xs.length = ys.length) :
    Alike n n 0 (keyText xs) (keyText ys) := by
  rw [keyText_eq, keyText_eq]
  exact .words _ rfl rfl ((Alike.nameList h).append .lastClose)

theorem CreateTable.alike {t t' : CreateTable}
    (h : List.Forall₂ (Alike 1 1 0) t.clauses t'.clauses) : Alike 0 0 0 t.text t'.text := by
  rw [t.text_eq, t'.text_eq]
  exact .words _ rfl rfl (.name _ _ (.words " (" rfl rfl ((Alike.commas h).append .lastClose)))

end Sql

theorem forall₂_toList {α : Type} {R : α → α → Prop} {o o' : Option α} (h : Option.Rel R o o') :
    List.Forall₂ R o.toList o'.toList := by
  cases h with
  | none => exact .nil
  | some h => exact .cons h .nil

variable (d : Dialect) {n : Nat} {ρ : String → String}

theorem Dialect.alike_default {v w : DefaultValue} (h : v.Reworded w)
    (hv : v.isExpression = false) : Alike n n 0 (d.defaultSql v) (d.defaultSql w) := by
  cases h with
  | string s t =>
    rw [Dialect.defaultSql, Dialect.defaultSql, DefaultValue.sql_string, DefaultValue.sql_string]
    exact .lastString s t
  | same => exact (d.isLiteral_defaultSql v hv).alike

theorem Dialect.follows_default {v w : Option DefaultValue}
    (h : Option.Rel DefaultValue.Reworded v w) (hv : ∀ x ∈ v, x.isExpression = false) :
    Follows n n 0 (led " DEFAULT " (v.map d.defaultSql))
      (led " DEFAULT " (w.map d.defaultSql)) := by
  cases h with
  | none => exact .nil
  | some h => exact .words _ rfl rfl (d.alike_default h (hv _ rfl))

theorem Dialect.alike_columnClause {c c' : Column} (h : c.Renamed ρ c')
    (hv : ∀ v ∈ c.default, v.isExpression = false) (inlineKey : Bool) :
    Alike n n 0 (d.columnClause c inlineKey).text (d.columnClause c' inlineKey).text := by
  obtain ⟨v, hd, rfl⟩ := h
  exact ColumnClause.alike (d.columnClause c inlineKey) (d.isTypeName_columnTypeName c) ρ _ _
    (d.follows_default hd hv)

namespace Sql.Statement

/-- The texts differ inside quotes only, and hold `k` semicolons outside them. -/
def Alike (k : Nat) (s t : Statement) : Prop :=
  Sql.Alike 0 0 k s.text t.text

theorem alike_createIndex (name table name' table' : String) {xs ys : List String}
    (h : xs.length = ys.length) :
    (createIndex name table xs).Alike 0 (createIndex name' table' ys) := by
  rw [Alike, text_createIndex, text_createIndex]
  exact .words _ rfl rfl (.name _ _ (.words " ON " rfl rfl (.name _ _
    (.words " (" rfl rfl ((Alike.nameList h).append .lastClose)))))

theorem follows_setDefault {v w : Option DefaultValue}
    (h : Option.Rel DefaultValue.Reworded v w) (hv : ∀ x ∈ v, x.isExpression = false) :
    List.Forall₂ (fun a a' => Follows 0 0 0 (ColumnAction.text a) (ColumnAction.text a'))
      (v.map (.setDefault <| d.defaultSql ·)).toList
      (w.map (.setDefault <| d.defaultSql ·)).toList := by
  cases h with
  | none => exact .nil
  | some h => exact .cons (.words " SET DEFAULT " rfl rfl (d.alike_default h (hv _ rfl))) .nil

theorem follows_actions (c : ColumnChange) (name : String) {v : Option DefaultValue}
    (h : Option.Rel DefaultValue.Reworded c.default v)
    (hv : ∀ x ∈ c.default, x.isExpression = false) :
    List.Forall₂ (fun a a' => Follows 0 0 0 (ColumnAction.text a) (ColumnAction.text a'))
      (c.actions d) ({ c with name, default := v : ColumnChange }.actions d) := by
  refine List.rel_append (List.rel_append ?_ ?_) (follows_setDefault d h hv)
  · cases c.type with
    | none => exact .nil
    | some t => exact .cons (.words " TYPE " rfl rfl (d.isTypeName_typeName t).alike) .nil
  · cases c.nullable with
    | false => exact .cons (.last " SET NOT NULL" rfl rfl) .nil
    | true => exact .cons (.last " DROP NOT NULL" rfl rfl) .nil

theorem alike_altering (table table' : String) {k : Nat} {s t : String} (h : Follows 0 0 k s t) :
    Sql.Alike 0 0 k (altering table ++ s) (altering table' ++ t) := by
  rw [altering_append, altering_append]
  exact .words _ rfl rfl (.name _ _ h)

/-- Parts joined by semicolons make one statement, with a semicolon less than parts. -/
theorem alike_parts {k : Nat} {ss ts : List String} (h : List.Forall₂ (Sql.Alike 0 0 0) ss ts)
    (hk : ss.length = k + 1) : Sql.Alike 0 0 k ("; ".intercalate ss) ("; ".intercalate ts) := by
  simpa [hk] using Sql.Alike.intercalate "; " (by decide) rfl (by decide) h

theorem alike_alterColumn (table column table' column' : String) {k : Nat}
    {as as' : List ColumnAction}
    (h : List.Forall₂ (fun a a' => Follows 0 0 0 (ColumnAction.text a) (ColumnAction.text a'))
      as as') (hk : as.length = k + 1) :
    (alterColumn table column as).Alike k (alterColumn table' column' as') := by
  refine alike_parts ?_ (by simpa using hk)
  rw [List.forall₂_map_left_iff, List.forall₂_map_right_iff]
  refine h.imp fun a a' ha => ?_
  rw [alterColumnPart_eq, alterColumnPart_eq]
  exact alike_altering _ _ (.words _ rfl rfl (.name _ _ ha))

theorem alike_dropConstraints (table table' : String) {k : Nat} {names names' : List String}
    (h : names.length = names'.length) (hk : names.length = k + 1) :
    (dropConstraints table names).Alike k (dropConstraints table' names') := by
  refine alike_parts ?_ (by simpa using hk)
  rw [List.forall₂_map_left_iff, List.forall₂_map_right_iff]
  refine List.forall₂_iff_get.mpr ⟨h, fun i _ _ => ?_⟩
  rw [dropConstraintPart_eq, dropConstraintPart_eq]
  exact alike_altering _ _ (.words " DROP CONSTRAINT IF EXISTS " rfl rfl (.lastName _ _))

theorem alike_dropTable (table table' : String) (ifExists : Bool) :
    (dropTable table ifExists).Alike 0 (dropTable table' ifExists) := by
  rw [Alike, text_dropTable, text_dropTable]
  exact .words _ rfl rfl (alike_onlyIf ifExists rfl rfl (.lastName _ _))

theorem alike_renameTable (old new old' new' : String) :
    (renameTable old new).Alike 0 (renameTable old' new') := by
  rw [Alike, text_renameTable, text_renameTable]
  exact alike_altering _ _ (.words " RENAME TO " rfl rfl (.lastName _ _))

end Sql.Statement

theorem Sql.TableCount.alike (table table' : String) :
    Alike 0 0 0 (TableCount.mk d table).text (TableCount.mk d table').text := by
  unfold TableCount.text
  cases d with
  | sqlite =>
    have hq : "SELECT COUNT(*) FROM sqlite_master WHERE type = 'table' AND name = " =
        "SELECT COUNT(*) FROM sqlite_master WHERE type = " ++
          (quoteString "table" ++ " AND name = ") := by decide
    simp only [hq, String.append_assoc]
    exact .words _ rfl rfl
      (.quote (by decide) _ _ (.words " AND name = " rfl rfl (.lastString _ _)))
  | postgres =>
    simp only [String.append_assoc]
    exact .words _ rfl rfl (.words _ rfl rfl (.lastString _ _))

theorem Column.alike_createIndex? {c c' : Column} (h : c.Renamed ρ c') (table table' : String) :
    Option.Rel (Statement.Alike 0) (c.createIndex? table) (c'.createIndex? table') := by
  obtain ⟨v, -, rfl⟩ := h
  unfold createIndex?
  cases c.index with
  | false => exact .none
  | true => exact .some (Statement.alike_createIndex _ _ _ _ rfl)

namespace Command

def default? : Command → Option DefaultValue
  | .add c => c.default
  | .modify c => c.default
  | _ => none

/-- How many semicolons join what a change is asked for into one statement. -/
def joints : Command → Nat
  | .modify c => c.type.isSome.toNat + c.default.isSome.toNat
  | .dropUnique _ => 1
  | _ => 0

theorem length_actions (c : ColumnChange) :
    (c.actions d).length = (modify c).joints + 1 := by
  cases ht : c.type <;> cases hd : c.default <;> simp [ColumnChange.actions, joints, ht, hd]

theorem alike_plan {c c' : Command} (h : c.Renamed ρ c')
    (hv : ∀ v ∈ c.default?, v.isExpression = false) (table table' : String) :
    List.Forall₂ (Statement.Alike c.joints) (c.plan d table) (c'.plan d table') := by
  cases h with
  | @add c c' hc =>
    have hp : c'.primary = c.primary := by
      obtain ⟨v, -, rfl⟩ := hc
      rfl
    refine .cons ?_ (forall₂_toList (Column.alike_createIndex? hc table table'))
    rw [Statement.Alike, Statement.text_addColumn, Statement.text_addColumn, hp]
    exact Statement.alike_altering _ _ (.words _ rfl rfl (d.alike_columnClause hc hv _))
  | drop names =>
    change List.Forall₂ _ (names.map (Statement.dropColumn table))
      ((names.map ρ).map (Statement.dropColumn table'))
    rw [List.map_map, List.forall₂_map_left_iff, List.forall₂_map_right_iff]
    refine List.forall₂_same.mpr fun n _ => ?_
    rw [Function.comp_apply, Statement.Alike, Statement.text_dropColumn, Statement.text_dropColumn]
    exact Statement.alike_altering _ _ (.words " DROP COLUMN " rfl rfl (.lastName _ _))
  | rename old new =>
    refine .cons ?_ .nil
    rw [Statement.Alike, Statement.text_renameColumn, Statement.text_renameColumn]
    exact Statement.alike_altering _ _
      (.words " RENAME COLUMN " rfl rfl (.name _ _ (.words " TO " rfl rfl (.lastName _ _))))
  | modify c h =>
    exact .cons (Statement.alike_alterColumn _ _ _ _ (Statement.follows_actions d c _ h hv)
      (length_actions d c)) .nil
  | dropIndex names =>
    exact .cons (.words "DROP INDEX IF EXISTS " rfl rfl (.lastName _ _)) .nil
  | dropUnique names => exact .cons (Statement.alike_dropConstraints _ _ rfl rfl) .nil
  | dropPrimary => exact .cons (Statement.alike_dropConstraints _ _ rfl rfl) .nil

end Command

end SchemaPlan
