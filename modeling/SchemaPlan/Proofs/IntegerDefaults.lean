import SchemaPlan.Proofs.LargeInteger
import SchemaPlan.Proofs.LiteralForm
import SchemaPlan.Proofs.ReplayedColumn
import SchemaPlan.Sql.Compile

namespace SchemaPlan

open Decimal Sql

namespace Sql.ColumnClause

variable (c : ColumnClause)

def textWith (value : String) : String :=
  quoteName c.name ++ " " ++ c.type ++ c.constraints ++ " DEFAULT " ++ value ++
    led "" (c.references.map referenceText)

theorem text_eq_textWith {value : String} (h : c.default = some value) :
    c.text = c.textWith value := by
  simp only [text, textWith, h, led, String.append_assoc]

theorem textWith_inj {value value' : String} :
    c.textWith value = c.textWith value' ↔ value = value' := by
  rw [textWith, textWith, String.append_left_inj, String.append_right_inj]

end Sql.ColumnClause

theorem ColumnChange.text_actions {d : Dialect} {c : ColumnChange} {value : String}
    (h : c.default.map d.defaultSql = some value) (table : String) :
    let before := ({ c with default := none } : ColumnChange).actions d
    (Statement.alterColumn table c.name (c.actions d)).text =
      (Statement.alterColumn table c.name before).text ++ "; " ++
        (Statement.altering table ++ " ALTER COLUMN " ++ quoteName c.name ++
          (" SET DEFAULT " ++ value)) := by
  intro before
  have hactions : c.actions d = before ++ [.setDefault value] := by
    obtain ⟨v, hv, rfl⟩ := Option.map_eq_some_iff.mp h
    simp [before, ColumnChange.actions, hv]
  have hnonempty : before ≠ [] := by
    simp [before, ColumnChange.actions]
  have htext (actions : List ColumnAction) : (Statement.alterColumn table c.name actions).text =
      "; ".intercalate (actions.map (Statement.alterColumnPart table c.name)) := rfl
  rw [hactions, htext, htext, List.map_append,
    String.intercalate_append_of_ne_nil (by simpa using hnonempty) (by simp), List.map_singleton,
    String.intercalate_singleton]
  rfl

namespace Manifest

/-- Wherever a manifest gives the whole number `n` as a default, `text` is written behind the word
`DEFAULT`: for a column, also for one that is added, in both dialects, and for one that is modified
in PostgreSQL. -/
structure Writes (n : Int) (h : IsWord n) (text : String) : Prop where
  column (c : ColumnEntry) (column : Column) :
    c.default = some (.integer n h) → c.defaultExpr = none → c.useCurrent = false →
      c.column = .ok column → ∀ (d : Dialect) (inlineKey : Bool),
        (d.columnClause column inlineKey).text = (d.columnClause column inlineKey).textWith text
  add (c : ColumnEntry) (command : Command) :
    c.default = some (.integer n h) → c.defaultExpr = none → c.useCurrent = false →
      (CommandEntry.add c).command = .ok command → ∀ (d : Dialect) (table : String),
        ∃ clause indexes, command.statements d table = .ok (.addColumn table clause :: indexes) ∧
          clause.text = clause.textWith text
  modify (m : ModifyEntry) (command : Command) :
    m.default = some (.integer n h) → (CommandEntry.modify m).command = .ok command →
      ∀ table : String, ∃ statement actions,
        command.statements .postgres table = .ok [statement] ∧
          statement.text = (Statement.alterColumn table m.name actions).text ++ "; " ++
            (Statement.altering table ++ " ALTER COLUMN " ++ quoteName m.name ++
              (" SET DEFAULT " ++ text))

/-- The number that is written for a whole number: beyond the signed 64-bit words it is that of the
nearest float. -/
def written (n : Int) : Int :=
  if n < 0x8000000000000000 then n else Shortest.shown (roundHalfEven n.toNat 2048)

theorem written_eq_iff {n : Int} :
    written n = n ↔ n < 0x8000000000000000 ∨ Shortest.IsShortest n.toNat := by
  unfold written
  split
  · next h => simp [h]
  · next h =>
    rw [← Shortest.shown_roundHalfEven_eq_iff]
    omega

theorem write_ofInt? {n : Int} (hlow : 0x8000000000000000 ≤ n) (hhigh : n < 0x10000000000000000) :
    ∃ x, Finite64.ofInt? n = some x ∧ floatLayout.write x.val = Numeral.ofInt (written n) := by
  lift n to Nat using by omega
  have hbits := nearestBits_lt_infinityBits (n := n) (by omega) (by omega)
  have hwrite := write_nearestBits (n := n) (by omega) (by omega)
  have hsign : decide ((n : Int) < 0) = false := decide_eq_false (by omega)
  refine ⟨Finite64.ofBits false (nearestBits n 1) hbits, ?_, ?_⟩
  · unfold Finite64.ofInt? Finite64.ofRatio?
    rw [hsign, Int.natAbs_natCast]
    exact dif_pos hbits
  · have hval : (Finite64.ofBits false (nearestBits n 1) hbits).val =
        ⟨.ofNat (nearestBits n 1)⟩ := by
      simp [Finite64.ofBits]
    rw [hval, hwrite, written, if_neg (by omega), Int.toNat_natCast, Numeral.ofInt,
      if_neg (by omega), Int.natAbs_natCast]

theorem exists_defaultValue_integer (name : String) (n : Int) (h : IsWord n) :
    ∃ v, defaultValue name (.integer n h) = .ok v ∧
      ∀ d : Dialect, d.defaultSql v = Numeral.ofInt (written n) := by
  by_cases hn : n < 0x8000000000000000
  · refine ⟨.integer (.ofInt n), if_pos hn, fun d => ?_⟩
    have hback : (Int64.ofInt n).toInt = n := Int64.toInt_ofInt_of_le h.1 hn
    change Numeral.ofInt (Int64.ofInt n).toInt = _
    rw [hback, written, if_pos hn]
  · obtain ⟨x, hx, hwrite⟩ := write_ofInt? (Int.not_lt.mp hn) h.2
    refine ⟨.float x.val, ?_, fun d => hwrite⟩
    rw [defaultValue, if_neg hn, hx]

theorem literal_integer {name : String} {default : Option Json} {n : Int} {h : IsWord n}
    {literal : Option DefaultValue} (hdefault : default = some (.integer n h))
    (hliteral : defaultValue? name default = .ok literal) (d : Dialect) :
    literal.map d.defaultSql = some (Numeral.ofInt (written n)) := by
  obtain ⟨v, hv, hsql⟩ := exists_defaultValue_integer name n h
  rw [defaultValue?_eq_ok_iff, hdefault, Option.map_some, hv] at hliteral
  obtain ⟨w, rfl, hw⟩ := Option.map_eq_some_iff.mp hliteral.symm
  obtain rfl := Except.ok.inj hw
  exact congrArg some (hsql d)

/-- Without an expression and the current time, the literal is the default of the column. -/
theorem default_columnClause {c : ColumnEntry} {column : Column} {n : Int} {h : IsWord n}
    (hdefault : c.default = some (.integer n h)) (hexpr : c.defaultExpr = none)
    (hcurrent : c.useCurrent = false) (hcolumn : c.column = .ok column) (d : Dialect)
    (inlineKey : Bool) :
    (d.columnClause column inlineKey).default = some (Numeral.ofInt (written n)) := by
  obtain ⟨type, -, literal, hliteral, rfl⟩ := c.column_eq_ok_iff.mp hcolumn
  have hchosen : (c.columnOf type literal).default = literal := by
    simp [ColumnEntry.columnOf, ColumnEntry.chosenDefault, hexpr, hcurrent]
  change (c.columnOf type literal).default.map d.defaultSql = _
  rw [hchosen]
  exact literal_integer hdefault hliteral d

theorem writes_written (n : Int) (h : IsWord n) : Writes n h (Numeral.ofInt (written n)) where
  column c column hdefault hexpr hcurrent hcolumn d inlineKey :=
    ColumnClause.text_eq_textWith _
      (default_columnClause hdefault hexpr hcurrent hcolumn d inlineKey)
  add c command hdefault hexpr hcurrent hcommand d table := by
    obtain ⟨column, hcolumn, rfl⟩ := map_eq_ok_iff.mp hcommand
    refine ⟨d.columnClause column column.primary, (column.createIndex? table).toList,
      by cases d <;> rfl, ?_⟩
    exact ColumnClause.text_eq_textWith _
      (default_columnClause hdefault hexpr hcurrent hcolumn d column.primary)
  modify m command hdefault hcommand table := by
    obtain ⟨change, hchange, rfl⟩ := map_eq_ok_iff.mp hcommand
    obtain ⟨type, -, literal, hliteral, rfl⟩ := m.change_eq_ok_iff.mp hchange
    have hsql := literal_integer hdefault hliteral .postgres
    exact ⟨_, _, rfl, ColumnChange.text_actions hsql table⟩

theorem Writes.eq_written {n : Int} {h : IsWord n} {text : String} (hw : Writes n h text) :
    text = Numeral.ofInt (written n) := by
  obtain ⟨column, hcolumn⟩ : ∃ column, ColumnEntry.column
      { name := "n", kind := .bigInteger, default := some (.integer n h) } = .ok column := by
    obtain ⟨v, hv, -⟩ := exists_defaultValue_integer "n" n h
    exact ⟨_, (ColumnEntry.column_eq_ok_iff _).mpr
      ⟨_, rfl, some v, defaultValue?_eq_ok_iff.mpr (congrArg some hv), rfl⟩⟩
  have htext := hw.column _ column rfl rfl rfl hcolumn .sqlite false
  rw [(writes_written n h).column _ column rfl rfl rfl hcolumn .sqlite false] at htext
  exact ((ColumnClause.textWith_inj _).mp htext).symm

/-- The text written for a whole number is the one of a signed word itself, and beyond these that of
the shortest digits of the nearest float, which are the number's own only if it has three or more
zeros at the end. -/
theorem writes_iff (n : Int) (h : IsWord n) (text : String) :
    (Writes n h text ↔ text = Numeral.ofInt (written n)) ∧
      (Writes n h (Numeral.ofInt n) ↔
        n < 0x8000000000000000 ∨ Shortest.IsShortest n.toNat) := by
  have hiff (text : String) : Writes n h text ↔ text = Numeral.ofInt (written n) := by
    constructor
    · exact fun hw => hw.eq_written
    · rintro rfl
      exact writes_written n h
  refine ⟨hiff text, ?_⟩
  rw [hiff, ← written_eq_iff]
  constructor
  · intro heq
    have hread := congrArg String.toInt? heq
    rw [Numeral.toInt?_ofInt, Numeral.toInt?_ofInt] at hread
    exact (Option.some.inj hread).symm
  · intro heq
    rw [heq]

theorem writes_iff_words :
    let least : Int := -0x8000000000000000
    let beyond : Int := 0x8000000000000000
    let round : Int := 10000000000000000000
    (∃ h : IsWord least, Writes least h "-9223372036854775808") ∧
      (∃ h : IsWord beyond, Writes beyond h "9223372036854776000") ∧
        ∃ h : IsWord round, Writes round h "10000000000000000000" := by
  intro least beyond round
  have hleast : IsWord least := by decide
  have hbeyond : IsWord beyond := by decide
  have hround : IsWord round := by decide
  have hleastText : Numeral.ofInt least = "-9223372036854775808" := by decide +kernel
  have hroundText : Numeral.ofInt round = "10000000000000000000" := by decide +kernel
  refine ⟨⟨hleast, ?_⟩, ⟨hbeyond, ?_⟩, ⟨hround, ?_⟩⟩
  · rw [← hleastText]
    exact (writes_iff least hleast "").2.mpr (.inl (by decide))
  · exact (writes_iff beyond hbeyond _).1.mpr (by decide +kernel)
  · rw [← hroundText]
    exact (writes_iff round hround "").2.mpr (.inr (.inl (by decide)))

/-- The first word beyond the signed ones becomes a neighbour 192 above it. -/
theorem not_writes_ofInt : ¬∀ (n : Int) (h : IsWord n), Writes n h (Numeral.ofInt n) := by
  intro hwrites
  have htext := (hwrites 0x8000000000000000 (by decide)).eq_written
  revert htext
  decide +kernel

end Manifest

end SchemaPlan
