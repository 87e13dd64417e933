import Mathlib.Data.List.Basic
import SchemaPlan.Sql.Literal
import SchemaPlan.Sql.TypeName

namespace SchemaPlan

open Decimal Sql

def Sql.isWordChar (c : Char) : Bool :=
  c.isAlphanum || c == '-' || c == '.'

namespace Decimal

theorem isWordChar_of_isDigit {c : Char} (h : c.isDigit = true) : isWordChar c = true := by
  simp [isWordChar, Char.isAlphanum, h]

theorem Numeral.isDigit_ofNat (n : Nat) : ∀ c ∈ (Numeral.ofNat n).toList, c.isDigit = true := by
  intro c hc
  rw [Numeral.ofNat, String.toList_ofList] at hc
  exact Nat.isDigit_of_mem_toDigits (by decide) (by decide) hc

theorem Numeral.isWordChar_ofInt (n : Int) :
    ∀ c ∈ (Numeral.ofInt n).toList, isWordChar c = true := by
  intro c hc
  unfold Numeral.ofInt at hc
  split at hc
  · rw [String.toList_append, List.mem_append] at hc
    rcases hc with hc | hc
    · obtain rfl : c = '-' := by simpa using hc
      rfl
    · exact isWordChar_of_isDigit (Numeral.isDigit_ofNat _ c hc)
  · exact isWordChar_of_isDigit (Numeral.isDigit_ofNat _ c hc)

namespace Shortest

theorem mem_trimZeros {c : Char} {cs : List Char} (h : c ∈ trimZeros cs) : c ∈ cs := by
  rw [trimZeros, List.mem_reverse] at h
  exact List.mem_reverse.mp ((List.dropWhile_sublist _).mem h)

theorem isDigit_digitsOf (m : Nat) (e : Int) : ∀ c ∈ (digitsOf m e).toList, c.isDigit = true := by
  intro c hc
  have hd : ∀ x ∈ Nat.toDigits 10 m, x.isDigit = true := fun x hx =>
    Nat.isDigit_of_mem_toDigits (by decide) (by decide) hx
  unfold digitsOf at hc
  split at hc
  · obtain rfl : c = '0' := by simpa [Digits.toList] using hc
    rfl
  · rename_i x xs hm
    rw [hm] at hd
    rcases List.mem_cons.mp hc with rfl | hc
    · exact hd c (by simp)
    · exact hd c (List.mem_cons_of_mem x (mem_trimZeros hc))

theorem exists_shortest_eq_digitsOf (tie : Tie) (m : Nat) (q : Int) :
    ∃ n e, shortest tie m q = digitsOf n e := by
  unfold shortest
  dsimp only
  set found := List.findSome? _ _ with hf
  cases hd : found with
  | none => exact ⟨0, 0, rfl⟩
  | some d =>
    obtain ⟨n, -, hn⟩ := List.exists_of_findSome?_eq_some (hf.symm.trans hd)
    obtain ⟨k, -, hk⟩ := Option.map_eq_some_iff.mp hn
    exact ⟨k, _, hk.symm⟩

theorem isDigit_shortest (tie : Tie) (m : Nat) (q : Int) :
    ∀ c ∈ (shortest tie m q).toList, c.isDigit = true := by
  obtain ⟨n, e, h⟩ := exists_shortest_eq_digitsOf tie m q
  rw [h]
  exact isDigit_digitsOf n e

end Shortest

namespace Layout

theorem isWordChar_zeros (n : Int) : ∀ c ∈ zeros n, isWordChar c = true := by
  intro c hc
  obtain rfl : c = '0' := List.eq_of_mem_replicate hc
  rfl

theorem isWordChar_writePositional (d : Digits) (hd : ∀ c ∈ d.toList, c.isDigit = true) :
    ∀ c ∈ floatLayout.writePositional d, isWordChar c = true := by
  have hw : ∀ c ∈ d.toList, isWordChar c = true := fun c hc => isWordChar_of_isDigit (hd c hc)
  intro c hc
  unfold writePositional at hc
  dsimp only [floatLayout] at hc
  split at hc
  · simp only [List.mem_append, List.mem_cons, List.not_mem_nil, or_false] at hc
    rcases hc with ((rfl | rfl) | hc) | hc
    · rfl
    · rfl
    · exact isWordChar_zeros _ c hc
    · exact hw c hc
  · split at hc
    · simp only [List.append_nil, List.mem_append] at hc
      exact hc.elim (hw c) (isWordChar_zeros _ c)
    · simp only [List.mem_append, List.mem_cons] at hc
      rcases hc with hc | rfl | hc
      · exact hw c (List.mem_of_mem_take hc)
      · rfl
      · exact hw c (List.mem_of_mem_drop hc)

theorem isWordChar_writeMagnitude (m : Binary64.Magnitude) :
    ∀ c ∈ floatLayout.writeMagnitude m, isWordChar c = true := by
  cases m with
  | nan => exact List.all_eq_true.mp (by decide)
  | infinite => exact List.all_eq_true.mp (by decide)
  | finite n q =>
    cases n with
    | zero => simp [writeMagnitude, floatLayout, isWordChar]
    | succ n => exact isWordChar_writePositional _ (Shortest.isDigit_shortest _ _ _)

theorem isWordChar_write (x : Binary64) :
    ∀ c ∈ (floatLayout.write x).toList, isWordChar c = true := by
  intro c hc
  have hm := isWordChar_writeMagnitude x.magnitude
  simp only [write, String.toList_ofList] at hc
  split at hc
  · rcases List.mem_cons.mp hc with rfl | hc
    · rfl
    · exact hm c hc
  · exact hm c hc

end Layout

end Decimal

theorem Dialect.isWordChar_boolTokens (d : Dialect) (b : Bool) :
    ∀ c ∈ (d.boolTokens.ofBool b).toList, isWordChar c = true := by
  rw [← List.all_eq_true]
  cases d <;> cases b <;> decide

/-- A default that is no expression is a quoted string or one word. -/
inductive Sql.IsLiteral : String → Prop
  | string (s : String) : IsLiteral (quoteString s)
  | word (w : String) (h : ∀ c ∈ w.toList, isWordChar c = true) : IsLiteral w

theorem Dialect.isLiteral_defaultSql (d : Dialect) (v : DefaultValue) (h : v.isExpression = false) :
    IsLiteral (d.defaultSql v) := by
  cases v with
  | string s =>
    rw [Dialect.defaultSql, DefaultValue.sql_string]
    exact .string s
  | bool b => exact .word _ (d.isWordChar_boolTokens b)
  | integer n => exact .word _ (Numeral.isWordChar_ofInt _)
  | float x => exact .word _ (Layout.isWordChar_write x)
  | expression s => simp [DefaultValue.isExpression] at h

def Sql.isSizeChar (c : Char) : Bool :=
  c.isDigit || c == ',' || c == ' '

/-- The name of a type is one word, perhaps with sizes behind it, or two words in one case. -/
inductive Sql.IsTypeName : String → Prop
  | word (w : String) (h : ∀ c ∈ w.toList, c.isUpper = true) : IsTypeName w
  | sized (w sizes : String) (h : ∀ c ∈ w.toList, c.isUpper = true)
      (hs : ∀ c ∈ sizes.toList, isSizeChar c = true) : IsTypeName (w ++ ("(" ++ (sizes ++ ")")))
  | double : IsTypeName "DOUBLE PRECISION"

theorem Sql.IsTypeName.of_mem {w : String}
    (h : w ∈ ["INTEGER", "BIGINT", "TEXT", "BOOLEAN", "FLOAT", "DATETIME", "TIMESTAMP", "SERIAL",
      "BIGSERIAL"]) : IsTypeName w := by
  have hw : w.toList.all Char.isUpper = true := by
    revert w
    decide
  exact .word w (List.all_eq_true.mp hw)

namespace Dialect

theorem isSizeChar_ofNat (n : Nat) : ∀ c ∈ (Numeral.ofNat n).toList, isSizeChar c = true := by
  intro c hc
  simp [isSizeChar, Numeral.isDigit_ofNat n c hc]

theorem isTypeName_typeName (d : Dialect) (t : ColumnType) : IsTypeName (d.typeName t) := by
  cases t with
  | string n =>
    have h := IsTypeName.sized "VARCHAR" (Numeral.ofNat n.toNat)
      (List.all_eq_true.mp (by decide)) (isSizeChar_ofNat _)
    have hv : "VARCHAR(" = "VARCHAR" ++ "(" := rfl
    simpa only [typeName, hv, String.append_assoc] using h
  | decimal p s =>
    have hs : ∀ c ∈ (Numeral.ofNat p.toNat ++ (", " ++ Numeral.ofNat s.toNat)).toList,
        isSizeChar c = true := by
      intro c hc
      simp only [String.toList_append, List.mem_append] at hc
      rcases hc with hc | hc | hc
      · exact isSizeChar_ofNat _ c hc
      · exact List.all_eq_true.mp (by decide : ", ".toList.all isSizeChar = true) c hc
      · exact isSizeChar_ofNat _ c hc
    have h := IsTypeName.sized "DECIMAL" _ (List.all_eq_true.mp (by decide)) hs
    have hd : "DECIMAL(" = "DECIMAL" ++ "(" := rfl
    simpa only [typeName, hd, String.append_assoc] using h
  | float =>
    cases d with
    | sqlite => exact .of_mem (by simp [typeName])
    | postgres => exact .double
  | dateTime => cases d <;> exact .of_mem (by simp [typeName])
  | integer | bigInteger | text | boolean | timestamp => exact .of_mem (by simp [typeName])

theorem isTypeName_columnTypeName (d : Dialect) (c : Column) :
    IsTypeName (d.columnTypeName c) := by
  unfold columnTypeName
  split
  · cases d with
    | sqlite => exact .of_mem (by simp [serialTypeName])
    | postgres => cases c.type <;> exact .of_mem (by simp [serialTypeName])
  · exact d.isTypeName_typeName c.type

end Dialect

end SchemaPlan
