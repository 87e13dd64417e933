import Mathlib
import SchemaPlan.Proofs.Literal

-- The whole library, since none of its modules alone knows `Int.toInt?_repr`.

namespace SchemaPlan

open Decimal Sql Text

namespace Sql

def IsDigits (cs : List Char) : Prop :=
  cs ≠ [] ∧ ∀ c ∈ cs, c.isDigit = true

/-- Digits, or digits with a point and more digits behind it. -/
inductive IsUnsigned : List Char → Prop
  | whole {ds : List Char} (h : IsDigits ds) : IsUnsigned ds
  | fraction {ds fs : List Char} (h : IsDigits ds) (hf : IsDigits fs) : IsUnsigned (ds ++ '.' :: fs)

inductive IsNumber : List Char → Prop
  | unsigned {cs : List Char} (h : IsUnsigned cs) : IsNumber cs
  | negative {cs : List Char} (h : IsUnsigned cs) : IsNumber ('-' :: cs)

/-- The text is a literal for a value. A string is read back from between its quotes, and a whole
number from its digits. -/
inductive IsLiteralOf (d : Dialect) : DefaultValue → String → Prop
  | string {s text : String}
      (reads : Quoted.unquote stringMark text.toList = some (s.toList, [])) :
      IsLiteralOf d (.string s) text
  | bool (b : Bool) : IsLiteralOf d (.bool b) (d.boolTokens.ofBool b)
  | integer {n : Int64} {text : String} (number : IsNumber text.toList)
      (reads : text.toInt? = some n.toInt) : IsLiteralOf d (.integer n) text
  | float {x : Binary64} {text : String} (number : IsNumber text.toList) :
      IsLiteralOf d (.float x) text

theorem IsNumber.isNumberChar {cs : List Char} (h : IsNumber cs) :
    cs.all (fun c => c.isDigit || c == '-' || c == '.') = true := by
  have hdigits : ∀ {ds : List Char}, IsDigits ds →
      ds.all (fun c => c.isDigit || c == '-' || c == '.') = true := by
    intro ds hds
    refine List.all_eq_true.mpr fun c hc => ?_
    rw [hds.2 c hc]
    rfl
  have hunsigned : ∀ {cs : List Char}, IsUnsigned cs →
      cs.all (fun c => c.isDigit || c == '-' || c == '.') = true := by
    intro cs hcs
    cases hcs with
    | whole h => exact hdigits h
    | fraction h hf => simp [List.all_append, hdigits h, hdigits hf]
  cases h with
  | unsigned h => exact hunsigned h
  | negative h => simp [hunsigned h]

end Sql

def DefaultValue.IsFinite : DefaultValue → Prop
  | .float x => x.isFinite = true
  | _ => True

namespace Decimal

namespace Numeral

theorem isDigits_ofNat (n : Nat) : IsDigits (ofNat n).toList := by
  refine ⟨?_, isDigit_ofNat n⟩
  rw [ofNat, String.toList_ofList]
  exact Nat.toDigits_ne_nil

theorem isNumber_ofInt (n : Int) : IsNumber (ofInt n).toList := by
  unfold ofInt
  split
  · rw [String.toList_append]
    exact .negative (.whole (isDigits_ofNat _))
  · exact .unsigned (.whole (isDigits_ofNat _))

theorem ofInt_eq_repr (n : Int) : ofInt n = n.repr := by
  cases n with
  | ofNat n =>
    rw [ofInt, if_neg (by simp)]
    exact Nat.repr_eq_ofList_toDigits.symm
  | negSucc n =>
    rw [ofInt, if_pos (Int.negSucc_lt_zero n)]
    exact congrArg ("-" ++ ·) Nat.repr_eq_ofList_toDigits.symm

theorem toInt?_ofInt (n : Int) : (ofInt n).toInt? = some n := by
  rw [ofInt_eq_repr, Int.toInt?_repr]

end Numeral

namespace Layout

theorem isDigits_zero : IsDigits ['0'] :=
  ⟨List.cons_ne_nil _ _, List.forall_mem_singleton.mpr rfl⟩

theorem isDigits_zeros_append (n : Int) {ds : List Char} (h : IsDigits ds) :
    IsDigits (zeros n ++ ds) ∧ IsDigits (ds ++ zeros n) := by
  have hzeros : ∀ c ∈ zeros n, c.isDigit = true := by
    intro c hc
    obtain rfl : c = '0' := List.eq_of_mem_replicate hc
    rfl
  have hmem : ∀ c, c ∈ zeros n ∨ c ∈ ds → c.isDigit = true := fun c hc =>
    hc.elim (hzeros c) (h.2 c)
  refine ⟨⟨List.append_ne_nil_of_right_ne_nil _ h.1, fun c hc => ?_⟩,
    ⟨List.append_ne_nil_of_left_ne_nil h.1 _, fun c hc => ?_⟩⟩
  · exact hmem c (List.mem_append.mp hc)
  · exact hmem c (List.mem_append.mp hc).symm

theorem isUnsigned_writePositional (d : Digits) (hd : ∀ c ∈ d.toList, c.isDigit = true) :
    IsUnsigned (floatLayout.writePositional d) := by
  have hdigits : IsDigits d.toList := ⟨List.cons_ne_nil _ _, hd⟩
  unfold writePositional
  dsimp only [floatLayout]
  split
  · rw [List.append_assoc]
    exact .fraction isDigits_zero (isDigits_zeros_append (-d.point) hdigits).1
  · split
    · rw [List.append_nil]
      exact .whole (isDigits_zeros_append _ hdigits).2
    · -- The point stands behind the first digit and before the last.
      have htake : d.toList.take d.point.toNat ≠ [] := by
        rw [ne_eq, List.take_eq_nil_iff, not_or]
        exact ⟨by omega, hdigits.1⟩
      have hdrop : d.toList.drop d.point.toNat ≠ [] := by
        rw [ne_eq, List.drop_eq_nil_iff]
        omega
      exact .fraction ⟨htake, fun c hc => hd c (List.mem_of_mem_take hc)⟩
        ⟨hdrop, fun c hc => hd c (List.mem_of_mem_drop hc)⟩

theorem isUnsigned_writeMagnitude (m : Nat) (q : Int) :
    IsUnsigned (floatLayout.writeMagnitude (.finite m q)) := by
  cases m with
  | zero => exact .whole isDigits_zero
  | succ m => exact isUnsigned_writePositional _ (Shortest.isDigit_shortest _ _ _)

theorem exists_magnitude_eq {x : Binary64} (h : x.isFinite = true) :
    ∃ m q, x.magnitude = .finite m q := by
  have hfield : x.exponentField ≠ 0x7FF := by simpa [Binary64.isFinite] using h
  unfold Binary64.magnitude
  rw [if_neg hfield]
  split
  · exact ⟨_, _, rfl⟩
  · exact ⟨_, _, rfl⟩

theorem isNumber_write {x : Binary64} (h : x.isFinite = true) :
    IsNumber (floatLayout.write x).toList := by
  obtain ⟨m, q, hm⟩ := exists_magnitude_eq h
  have hunsigned := isUnsigned_writeMagnitude m q
  simp only [write, String.toList_ofList, hm]
  split
  · exact .negative hunsigned
  · exact .unsigned hunsigned

theorem write_of_not_isFinite {x : Binary64} (h : ¬x.isFinite = true) :
    floatLayout.write x ∈ ["NaN", "inf", "-inf"] := by
  have hfield : x.exponentField = 0x7FF := by simpa [Binary64.isFinite] using h
  unfold write Binary64.magnitude
  rw [if_pos hfield]
  by_cases hfraction : x.fraction = 0
  · rw [if_pos hfraction]
    cases x.isNegative <;> decide
  · rw [if_neg hfraction]
    cases x.isNegative <;> decide

end Layout

end Decimal

namespace Dialect

variable (d : Dialect)

theorem isLiteralOf_of_isFinite {v : DefaultValue} (hv : v.isExpression = false)
    (h : v.IsFinite) : IsLiteralOf d v (d.defaultSql v) := by
  cases v with
  | string s =>
    refine .string ?_
    have hquote : Quoted.unquote stringMark ((quoteString s).toList ++ []) =
        some (s.toList, []) :=
      Quoted.unquote_quote s [] (by simp)
    rw [List.append_nil] at hquote
    rwa [defaultSql, DefaultValue.sql_string]
  | bool b => exact .bool b
  | integer n => exact .integer (Numeral.isNumber_ofInt n.toInt) (Numeral.toInt?_ofInt n.toInt)
  | float x => exact .float (Layout.isNumber_write h)
  | expression sql => cases hv

theorem not_isLiteralOf_word {text : String} (h : text ∈ ["NaN", "inf", "-inf"])
    (v : DefaultValue) : ¬IsLiteralOf d v text := by
  have hchars : ∀ word ∈ ["NaN", "inf", "-inf"],
      word.toList.all (fun c => c.isDigit || c == '-' || c == '.') = false := by decide
  have hunquote : ∀ word ∈ ["NaN", "inf", "-inf"],
      Quoted.unquote stringMark word.toList = none := by decide
  have hnumber : ¬IsNumber text.toList := by
    intro hnumber
    exact Bool.false_ne_true ((hchars text h).symm.trans hnumber.isNumberChar)
  intro hv
  cases hv with
  | string reads =>
    rw [hunquote text h] at reads
    cases reads
  | bool b =>
    revert h
    cases d <;> cases b <;> decide
  | integer number => exact hnumber number
  | float number => exact hnumber number

/-- Every default but an expression is written as a literal for it, unless it is a float that is no
number. Such a float is written as a word that is no literal for anything. -/
theorem isLiteralOf_defaultSql_iff (v : DefaultValue) (hv : v.isExpression = false) :
    (IsLiteralOf d v (d.defaultSql v) ↔ v.IsFinite) ∧
      (¬v.IsFinite → d.defaultSql v ∈ ["NaN", "inf", "-inf"] ∧
        ∀ w, ¬IsLiteralOf d w (d.defaultSql v)) := by
  have hword : ¬v.IsFinite → d.defaultSql v ∈ ["NaN", "inf", "-inf"] := by
    intro h
    cases v with
    | float x => exact Layout.write_of_not_isFinite h
    | _ => exact absurd trivial h
  refine ⟨⟨fun hliteral => ?_, isLiteralOf_of_isFinite d hv⟩, fun h => ?_⟩
  · by_contra h
    exact not_isLiteralOf_word d (hword h) v hliteral
  · exact ⟨hword h, not_isLiteralOf_word d (hword h)⟩

theorem isLiteralOf_defaultSql_iff_infinity :
    let name : DefaultValue := .string "it's"
    let infinity : DefaultValue := .float ⟨0x7FF0000000000000⟩
    (name.isExpression = false ∧ IsLiteralOf .sqlite name "'it''s'") ∧
      infinity.isExpression = false ∧ ¬infinity.IsFinite ∧
        ∀ w, ¬IsLiteralOf .postgres w "inf" := by
  intro name infinity
  have hinfinity : ¬infinity.IsFinite := by
    change ¬Binary64.isFinite ⟨0x7FF0000000000000⟩ = true
    decide
  have hname := (isLiteralOf_defaultSql_iff .sqlite name rfl).1.mpr trivial
  have hword := ((isLiteralOf_defaultSql_iff .postgres infinity rfl).2 hinfinity).2
  exact ⟨⟨rfl, hname⟩, rfl, hinfinity, hword⟩

/-- A default may be a float that is not a number, and no literal says so. -/
theorem not_isLiteralOf_defaultSql :
    ¬∀ (d : Dialect) (v : DefaultValue), v.isExpression = false →
      IsLiteralOf d v (d.defaultSql v) := by
  intro h
  have hnan := h .sqlite (.float ⟨0x7FF8000000000000⟩) rfl
  have hword : Dialect.sqlite.defaultSql (.float ⟨0x7FF8000000000000⟩) ∈ ["NaN", "inf", "-inf"] :=
    List.mem_cons_self
  exact not_isLiteralOf_word .sqlite hword _ hnan

end Dialect

end SchemaPlan
