import Mathlib.Data.List.Nodup
import SchemaPlan.Proofs.PrimaryKey

namespace SchemaPlan.Blueprint

open Sql

variable (b : Blueprint) (d : Dialect)

theorem nodup_addMissing {names : List String} (h : names.Nodup) (n : String) :
    (addMissing names n).Nodup := by
  unfold addMissing
  split
  · exact h
  · rename_i hn
    refine List.nodup_append.mpr ⟨h, List.nodup_singleton n, fun m hm k hk => ?_⟩
    rw [List.mem_singleton.mp hk]
    rintro rfl
    exact hn hm

theorem nodup_foldl_addMissing (xs : List String) {names : List String} (h : names.Nodup) :
    (xs.foldl addMissing names).Nodup := by
  induction xs generalizing names with
  | nil => exact h
  | cons x xs ih => exact ih (nodup_addMissing h x)

/-- Behind the names that are there stand the missing ones, in the order of their first mention. -/
theorem foldl_addMissing_eq (xs names : List String) :
    xs.foldl addMissing names = names ++ (xs.filter (· ∉ names)).eraseDups := by
  induction xs generalizing names with
  | nil => simp
  | cons x xs ih =>
    rw [List.foldl_cons, ih]
    by_cases hx : x ∈ names
    · have hadd : addMissing names x = names := if_pos hx
      rw [hadd, List.filter_cons_of_neg (by simpa using hx)]
    · have hadd : addMissing names x = names ++ [x] := if_neg hx
      have hrest : xs.filter (· ∉ names ++ [x]) =
          (xs.filter (· ∉ names)).filter (!· == x) := by
        rw [List.filter_filter]
        refine List.filter_congr fun y _ => ?_
        simp [and_comm, beq_eq_decide]
      rw [hadd, List.filter_cons_of_pos (by simpa using hx), List.eraseDups_cons, hrest,
        List.append_assoc, List.singleton_append]

theorem key_columns_eq :
    b.key.columns =
      b.flaggedNames ++ (b.definedNames.filter (· ∉ b.flaggedNames)).eraseDups :=
  foldl_addMissing_eq b.definedNames b.flaggedNames

section Distinct

variable {b} (distinct : (b.columns.map Column.name).Nodup)

include distinct

theorem nodup_names_filter (p : Column → Bool) : ((b.columns.filter p).map Column.name).Nodup :=
  distinct.sublist (List.filter_sublist.map Column.name)

theorem nodup_key_columns : b.key.columns.Nodup :=
  nodup_foldl_addMissing b.definedNames (nodup_names_filter distinct _)

end Distinct

theorem definedNames_ne_nil :
    b.definedNames ≠ [] ↔
      ∃ i ∈ b.indexes, i.kind = .primary ∧ ∃ n ∈ i.columns, n ∉ b.serialNames := by
  simp only [ne_eq, List.eq_nil_iff_forall_not_mem, not_forall, not_not, mem_definedNames]
  constructor
  · rintro ⟨n, ⟨i, hi, hk, hn⟩, hs⟩
    exact ⟨i, hi, hk, n, hn, hs⟩
  · rintro ⟨i, hi, hk, n, hn, hs⟩
    exact ⟨n, ⟨i, hi, hk, hn⟩, hs⟩

theorem clauses_createTable :
    (b.createTable d).clauses =
      b.columns.map (fun c => (d.columnClause c (b.hasInlineKey c)).text) ++
        ((b.createTable d).key.map CreateTable.keyText).toList ++
        (b.indexes.filterMap (·.unique? b.table)).map UniqueClause.text := by
  simp only [CreateTable.clauses, createTable, List.map_map, Function.comp_def]

end SchemaPlan.Blueprint
