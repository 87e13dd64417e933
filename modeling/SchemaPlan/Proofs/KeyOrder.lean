import Mathlib.Data.List.Nodup
import SchemaPlan.Proofs.KeyCoverage

namespace SchemaPlan

def Blueprint.mentions (b : Blueprint) : List String :=
  (b.indexes.filter (·.kind = .primary)).flatMap Index.columns

/-- The key that a blueprint asks for, in its order. Serial columns are left out of it. -/
structure Key.IsOrdered (k : Key) (b : Blueprint) : Prop where
  nodup : k.columns.Nodup
  mem_iff : ∀ n, n ∈ k.columns ↔
    (∃ c ∈ b.columns, c.primary = true ∧ c.isSerial = false ∧ c.name = n) ∨
      (∃ i ∈ b.indexes, i.kind = .primary ∧ n ∈ i.columns) ∧ n ∉ b.serialNames
  order : ∃ rest,
    k.columns = (b.columns.filter fun c => c.primary && !c.isSerial).map Column.name ++ rest ∧
      rest.Pairwise fun m n => b.mentions.idxOf m < b.mentions.idxOf n
  fromDefinition_iff : k.fromDefinition = true ↔
    ∃ i ∈ b.indexes, i.kind = .primary ∧ ∃ n ∈ i.columns, n ∉ b.serialNames

/-- What is left of a list once some items and all repetitions are taken out stands in the order of
first mention in the whole list. -/
theorem pairwise_idxOf_eraseDups {α : Type} [BEq α] [LawfulBEq α] (p : α → Bool) (xs : List α) :
    (xs.filter p).eraseDups.Pairwise fun a b => xs.idxOf a < xs.idxOf b := by
  induction xs generalizing p with
  | nil => simp
  | cons x xs ih =>
    -- items other than the first keep their order and stand one place further on
    have hlater (q : α → Bool) (hq : ∀ a, q a = true → x ≠ a) :
        (xs.filter q).eraseDups.Pairwise fun a b => (x :: xs).idxOf a < (x :: xs).idxOf b := by
      refine (ih q).imp_of_mem fun {a b} ha hb hab => ?_
      rw [List.mem_eraseDups, List.mem_filter] at ha hb
      rw [List.idxOf_cons_ne _ (hq a ha.2), List.idxOf_cons_ne _ (hq b hb.2)]
      exact Nat.succ_lt_succ hab
    by_cases hx : p x = true
    · rw [List.filter_cons_of_pos hx, List.eraseDups_cons, List.filter_filter, List.pairwise_cons]
      refine ⟨fun a ha => ?_, hlater _ fun a ha => ?_⟩
      · rw [List.mem_eraseDups, List.mem_filter] at ha
        have hne : x ≠ a := by
          rintro rfl
          simp at ha
        rw [List.idxOf_cons_self, List.idxOf_cons_ne _ hne]
        exact Nat.succ_pos _
      · rintro rfl
        simp at ha
    · rw [List.filter_cons_of_neg hx]
      refine hlater p fun a ha => ?_
      rintro rfl
      exact hx ha

namespace Blueprint

variable {b : Blueprint}

theorem key_isOrdered (distinct : (b.columns.map Column.name).Nodup) : b.key.IsOrdered b where
  nodup := nodup_key_columns distinct
  mem_iff n := by rw [mem_key_columns, mem_flaggedNames, mem_definedNames]
  order := by
    refine ⟨_, b.key_columns_eq, ?_⟩
    have hdefined : b.definedNames = b.mentions.filter (· ∉ b.serialNames) := rfl
    rw [hdefined, List.filter_filter]
    exact pairwise_idxOf_eraseDups _ b.mentions
  fromDefinition_iff := by
    rw [← definedNames_ne_nil]
    simp [key]

/-- There is no other key in this order. -/
theorem eq_of_isOrdered {k l : Key} (hk : k.IsOrdered b) (hl : l.IsOrdered b) : k = l := by
  obtain ⟨rest, hkrest, hkorder⟩ := hk.order
  obtain ⟨rest', hlrest, hlorder⟩ := hl.order
  have hperm : k.columns.Perm l.columns :=
    (List.perm_ext_iff_of_nodup hk.nodup hl.nodup).mpr fun n =>
      (hk.mem_iff n).trans (hl.mem_iff n).symm
  rw [hkrest, hlrest, List.perm_append_left_iff] at hperm
  have hrest : rest = rest' :=
    hperm.eq_of_pairwise (fun _ _ _ _ h h' => absurd h' (Nat.lt_asymm h)) hkorder hlorder
  have hflag : k.fromDefinition = l.fromDefinition :=
    Bool.eq_iff_iff.mpr (hk.fromDefinition_iff.trans hl.fromDefinition_iff.symm)
  have hcolumns : k.columns = l.columns := hkrest.trans (hrest ▸ hlrest.symm)
  cases k
  cases l
  exact (Key.mk.injEq ..).mpr ⟨hcolumns, hflag⟩

/-- The key of a table stands in the order asked for, and no other key does. If a definition gives
a part of it, it is not empty, so that a key for the table as a whole is always written. -/
theorem key_isOrdered_unique (distinct : (b.columns.map Column.name).Nodup) :
    b.key.IsOrdered b ∧ (∀ k : Key, k.IsOrdered b → k = b.key) ∧
      (b.key.fromDefinition = true → b.key.columns ≠ []) ∧
      ∀ d, (b.createTable d).key = if b.key.isTableLevel then some b.key.columns else none := by
  have hkey := key_isOrdered distinct
  refine ⟨hkey, fun k hk => eq_of_isOrdered hk hkey, fun hdefined => ?_,
    fun d => b.createTable_key d⟩
  obtain ⟨i, hi, hprimary, n, hn, hserial⟩ := hkey.fromDefinition_iff.mp hdefined
  exact List.ne_nil_of_mem ((hkey.mem_iff n).mpr (.inr ⟨⟨i, hi, hprimary, hn⟩, hserial⟩))

theorem key_isOrdered_unique_overlapping :
    let b := build "t" .create [.column .id [], .column (.text "a") [.primary],
      .column (.text "b") [.primary], .primary ["x", "id", "b"], .primary ["y", "x"]]
    (b.columns.map Column.name).Nodup ∧ Key.IsOrdered ⟨["a", "b", "x", "y"], true⟩ b ∧
      b.key.columns ≠ [] ∧
      (b.createTable .postgres).key = some ["a", "b", "x", "y"] := by
  intro b
  have distinct : (b.columns.map Column.name).Nodup := by decide
  have hb : b.key = ⟨["a", "b", "x", "y"], true⟩ := by decide
  obtain ⟨hordered, -, hne, htable⟩ := key_isOrdered_unique distinct
  exact ⟨distinct, hb ▸ hordered, hne (by decide), (htable .postgres).trans (by decide)⟩

end Blueprint

end SchemaPlan
