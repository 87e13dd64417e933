import Mathlib.Data.List.Forall2
import Mathlib.Data.Set.Function
import SchemaPlan.Proofs.PrimaryKey

namespace SchemaPlan

inductive DefaultValue.Reworded : DefaultValue → DefaultValue → Prop
  | string (s t : String) : Reworded (.string s) (.string t)
  | same (v : DefaultValue) : Reworded v v

def Reference.rename (ρ : String → String) (r : Reference) : Reference :=
  { r with table := ρ r.table, column := ρ r.column }

def Column.Renamed (ρ : String → String) (c c' : Column) : Prop :=
  ∃ v, Option.Rel DefaultValue.Reworded c.default v ∧
    c' = { c with name := ρ c.name, default := v, references := c.references.map (·.rename ρ) }

def Index.rename (ρ : String → String) (i : Index) : Index :=
  { i with columns := i.columns.map ρ, name := i.name.map ρ }

inductive Command.Renamed (ρ : String → String) : Command → Command → Prop
  | add {c c' : Column} (h : c.Renamed ρ c') : Renamed ρ (.add c) (.add c')
  | drop (names : List String) : Renamed ρ (.drop names) (.drop (names.map ρ))
  | rename (old new : String) : Renamed ρ (.rename old new) (.rename (ρ old) (ρ new))
  | modify (c : ColumnChange) {v : Option DefaultValue}
      (h : Option.Rel DefaultValue.Reworded c.default v) :
      Renamed ρ (.modify c) (.modify { c with name := ρ c.name, default := v })
  | dropIndex (names : List String) : Renamed ρ (.dropIndex names) (.dropIndex (names.map ρ))
  | dropUnique (names : List String) : Renamed ρ (.dropUnique names) (.dropUnique (names.map ρ))
  | dropPrimary : Renamed ρ .dropPrimary .dropPrimary

/-- Two blueprints that differ by a renaming of all names and by the words of string defaults. -/
structure Blueprint.Renamed (ρ : String → String) (b b' : Blueprint) : Prop where
  table : b'.table = ρ b.table
  mode : b'.mode = b.mode
  columns : List.Forall₂ (Column.Renamed ρ) b.columns b'.columns
  indexes : b'.indexes = b.indexes.map (·.rename ρ)
  commands : List.Forall₂ (Command.Renamed ρ) b.commands b'.commands

namespace Column

def identifiers (c : Column) : List String :=
  c.name :: c.references.elim [] fun r => [r.table, r.column]

end Column

namespace Command

def identifiers : Command → List String
  | .add c => c.identifiers
  | .drop names | .dropIndex names | .dropUnique names => names
  | .rename old new => [old, new]
  | .modify c => [c.name]
  | .dropPrimary => []

end Command

namespace Blueprint

def identifiers (b : Blueprint) : List String :=
  b.table :: (b.columns.flatMap Column.identifiers ++
    b.indexes.flatMap (fun i => i.columns ++ i.name.toList) ++
    b.commands.flatMap Command.identifiers)

end Blueprint

theorem DefaultValue.reworded_refl (v : Option DefaultValue) :
    Option.Rel DefaultValue.Reworded v v := by
  cases v with
  | none => exact .none
  | some v => exact .some (.same v)

theorem Column.renamed_id (c : Column) : c.Renamed id c := by
  refine ⟨c.default, DefaultValue.reworded_refl _, ?_⟩
  simp [Reference.rename]

theorem Command.renamed_id (c : Command) : c.Renamed id c := by
  cases c with
  | add c => exact .add c.renamed_id
  | drop names => simpa using @Renamed.drop id names
  | rename old new => exact .rename old new
  | modify c => exact .modify c (DefaultValue.reworded_refl _)
  | dropIndex names => simpa using @Renamed.dropIndex id names
  | dropUnique names => simpa using @Renamed.dropUnique id names
  | dropPrimary => exact .dropPrimary

theorem Blueprint.renamed_id (b : Blueprint) : b.Renamed id b where
  table := rfl
  mode := rfl
  columns := List.forall₂_same.mpr fun c _ => c.renamed_id
  indexes := by simp [Index.rename]
  commands := List.forall₂_same.mpr fun c _ => c.renamed_id

namespace Blueprint

variable {ρ : String → String} {b b' : Blueprint}

theorem names_filter_renamed {cs cs' : List Column} (h : List.Forall₂ (Column.Renamed ρ) cs cs')
    (p : Column → Bool) (hp : ∀ c c', Column.Renamed ρ c c' → p c' = p c) :
    (cs'.filter p).map Column.name = ((cs.filter p).map Column.name).map ρ := by
  induction h with
  | nil => rfl
  | @cons c c' cs cs' hc hcs ih =>
    have hn : c'.name = ρ c.name := by
      obtain ⟨v, -, rfl⟩ := hc
      rfl
    by_cases hpc : p c = true
    · simp [hp c c' hc, hpc, hn, ih]
    · simp [hp c c' hc, hpc, ih]

theorem serialNames_renamed (h : b.Renamed ρ b') : b'.serialNames = b.serialNames.map ρ := by
  refine names_filter_renamed h.columns _ ?_
  rintro c c' ⟨v, -, rfl⟩
  rfl

theorem flaggedNames_renamed (h : b.Renamed ρ b') : b'.flaggedNames = b.flaggedNames.map ρ := by
  refine names_filter_renamed h.columns _ ?_
  rintro c c' ⟨v, -, rfl⟩
  rfl

theorem mem_map_of_injOn {S : Set String} (hρ : S.InjOn ρ) {x : String} {ys : List String}
    (hx : x ∈ S) (hy : ∀ n ∈ ys, n ∈ S) : ρ x ∈ ys.map ρ ↔ x ∈ ys := by
  constructor
  · intro h
    obtain ⟨m, hm, he⟩ := List.mem_map.mp h
    exact hρ (hy m hm) hx he ▸ hm
  · exact List.mem_map_of_mem

theorem filter_not_mem_map {S : Set String} (hρ : S.InjOn ρ) {xs ys : List String}
    (hx : ∀ n ∈ xs, n ∈ S) (hy : ∀ n ∈ ys, n ∈ S) :
    (xs.map ρ).filter (· ∉ ys.map ρ) = (xs.filter (· ∉ ys)).map ρ := by
  rw [List.filter_map]
  congr 1
  apply List.filter_congr
  intro n hn
  simp only [Function.comp_apply, mem_map_of_injOn hρ (hx n hn) hy]

theorem foldl_addMissing_map {S : Set String} (hρ : S.InjOn ρ) (xs names : List String)
    (hx : ∀ n ∈ xs, n ∈ S) (hn : ∀ n ∈ names, n ∈ S) :
    (xs.map ρ).foldl addMissing (names.map ρ) = (xs.foldl addMissing names).map ρ := by
  induction xs generalizing names with
  | nil => rfl
  | cons x xs ih =>
    have hxS : x ∈ S := hx x (by simp)
    have hs : addMissing (names.map ρ) (ρ x) = (addMissing names x).map ρ := by
      by_cases hxn : x ∈ names
      · simp [addMissing, hxn, (mem_map_of_injOn hρ hxS hn).mpr hxn]
      · have hm := mt (mem_map_of_injOn hρ hxS hn).mp hxn
        simp only [addMissing, if_neg hxn, if_neg hm, List.map_append, List.map_singleton]
    rw [List.map_cons, List.foldl_cons, List.foldl_cons, hs]
    refine ih _ (fun n hn' => hx n (by simp [hn'])) fun n hn' => ?_
    rcases (mem_addMissing names x n).mp hn' with h | rfl
    · exact hn n h
    · exact hxS

theorem mem_identifiers_of_column {c : Column} (hc : c ∈ b.columns) :
    c.name ∈ b.identifiers := by
  simp only [identifiers, List.mem_cons, List.mem_append, List.mem_flatMap]
  exact .inr (.inl (.inl ⟨c, hc, by simp [Column.identifiers]⟩))

theorem mem_identifiers_of_index {i : Index} (hi : i ∈ b.indexes) {n : String}
    (hn : n ∈ i.columns) : n ∈ b.identifiers := by
  simp only [identifiers, List.mem_cons, List.mem_append, List.mem_flatMap]
  exact .inr (.inl (.inr ⟨i, hi, .inl hn⟩))

theorem definedNames_renamed (h : b.Renamed ρ b')
    (hρ : Set.InjOn ρ {n | n ∈ b.identifiers}) :
    b'.definedNames = b.definedNames.map ρ := by
  have hd : (b'.indexes.filter (·.kind = .primary)).flatMap Index.columns =
      ((b.indexes.filter (·.kind = .primary)).flatMap Index.columns).map ρ := by
    rw [h.indexes, List.filter_map, List.flatMap_map, List.map_flatMap]
    rfl
  rw [definedNames, hd, serialNames_renamed h]
  refine filter_not_mem_map hρ (fun n hn => ?_) fun n hn => ?_
  · obtain ⟨i, hi, hn⟩ := List.mem_flatMap.mp hn
    exact mem_identifiers_of_index (List.mem_filter.mp hi).1 hn
  · obtain ⟨c, hc, -, rfl⟩ := (b.mem_serialNames n).mp hn
    exact mem_identifiers_of_column hc

theorem key_columns_renamed (h : b.Renamed ρ b') (hρ : Set.InjOn ρ {n | n ∈ b.identifiers}) :
    b'.key.columns = b.key.columns.map ρ := by
  rw [key, definedNames_renamed h hρ, flaggedNames_renamed h]
  refine foldl_addMissing_map hρ _ _ (fun n hn => ?_) fun n hn => ?_
  · obtain ⟨⟨i, hi, -, hn⟩, -⟩ := (b.mem_definedNames n).mp hn
    exact mem_identifiers_of_index hi hn
  · obtain ⟨c, hc, -, -, rfl⟩ := (b.mem_flaggedNames n).mp hn
    exact mem_identifiers_of_column hc

/-- Renaming keeps where the key is written, since it keeps which names are the same. -/
theorem isTableLevel_renamed (h : b.Renamed ρ b') (hρ : Set.InjOn ρ {n | n ∈ b.identifiers}) :
    b'.key.isTableLevel = b.key.isTableLevel := by
  have hf : b'.key.fromDefinition = b.key.fromDefinition := by
    simp [key, definedNames_renamed h hρ]
  simp [Key.isTableLevel, key_columns_renamed h hρ, hf]

end Blueprint

end SchemaPlan
