import SchemaPlan.Proofs.Compile
import SchemaPlan.Proofs.Structure

namespace SchemaPlan

open Sql

variable (d : Dialect) {ρ : String → String}

namespace Blueprint

variable {b b' : Blueprint}

def defaults (b : Blueprint) : List DefaultValue :=
  b.columns.filterMap Column.default ++ b.commands.filterMap Command.default?

theorem hasInlineKey_renamed (h : b.Renamed ρ b') (hρ : Set.InjOn ρ {n | n ∈ b.identifiers})
    {c c' : Column} (hc : c.Renamed ρ c') : b'.hasInlineKey c' = b.hasInlineKey c := by
  obtain ⟨v, -, rfl⟩ := hc
  rw [hasInlineKey, hasInlineKey, isTableLevel_renamed h hρ]
  rfl

theorem columns_renamed (h : b.Renamed ρ b') (hv : ∀ v ∈ b.defaults, v.isExpression = false) :
    List.Forall₂ (fun c c' => (∀ v ∈ c.default, v.isExpression = false) ∧ c.Renamed ρ c')
      b.columns b'.columns := by
  refine (List.forall₂_and_left _ _).mpr ⟨fun c hc v hcv => hv v ?_, h.columns⟩
  exact List.mem_append_left _ (List.mem_filterMap.mpr ⟨c, hc, hcv⟩)

theorem indexes_renamed (h : b.Renamed ρ b') :
    List.Forall₂ (fun i i' => i' = i.rename ρ) b.indexes b'.indexes := by
  rw [h.indexes, List.forall₂_map_right_iff]
  exact List.forall₂_same.mpr fun _ _ => rfl

theorem uniques_renamed (h : b.Renamed ρ b') :
    List.Forall₂ (fun u v : UniqueClause => u.columns.length = v.columns.length)
      (b.indexes.filterMap (·.unique? b.table)) (b'.indexes.filterMap (·.unique? b'.table)) := by
  refine List.rel_filterMap ?_ (indexes_renamed h)
  rintro i _ rfl
  by_cases hk : i.kind = .unique
  · simp [Index.unique?, Index.rename, hk]
  · simp [Index.unique?, Index.rename, hk]

theorem alike_createTable (h : b.Renamed ρ b') (hρ : Set.InjOn ρ {n | n ∈ b.identifiers})
    (hv : ∀ v ∈ b.defaults, v.isExpression = false) :
    Alike 0 0 0 (b.createTable d).text (b'.createTable d).text := by
  refine CreateTable.alike (List.rel_append (List.rel_append ?_ ?_) ?_)
  · simp only [createTable, List.map_map]
    rw [List.forall₂_map_left_iff, List.forall₂_map_right_iff]
    refine (columns_renamed h hv).imp ?_
    rintro c c' ⟨hcv, hc⟩
    rw [Function.comp_apply, Function.comp_apply, hasInlineKey_renamed h hρ hc]
    exact d.alike_columnClause hc hcv _
  · rw [createTable_key, createTable_key, isTableLevel_renamed h hρ, key_columns_renamed h hρ]
    split
    · exact .cons (CreateTable.alike_keyText (by simp)) .nil
    · exact .nil
  · rw [List.forall₂_map_left_iff, List.forall₂_map_right_iff]
    exact (uniques_renamed h).imp UniqueClause.alike

theorem alike_createIndexes (h : b.Renamed ρ b') :
    List.Forall₂ (Statement.Alike 0) b.createIndexes b'.createIndexes := by
  refine List.rel_append (List.rel_filterMap ?_ (indexes_renamed h))
    (List.rel_filterMap ?_ h.columns)
  · rintro i _ rfl
    by_cases hk : i.kind = .index
    · simpa [Index.create?, Index.rename, hk] using Statement.alike_createIndex _ _ _ _ (by simp)
    · simp [Index.create?, Index.rename, hk]
  · intro c c' hc
    exact Column.alike_createIndex? hc _ _

theorem commands_renamed (h : b.Renamed ρ b') (hv : ∀ v ∈ b.defaults, v.isExpression = false) :
    List.Forall₂ (fun c c' => (∀ v ∈ c.default?, v.isExpression = false) ∧ c.Renamed ρ c')
      b.commands b'.commands := by
  refine (List.forall₂_and_left _ _).mpr ⟨fun c hc v hcv => hv v ?_, h.commands⟩
  exact List.mem_append_right _ (List.mem_filterMap.mpr ⟨c, hc, hcv⟩)

theorem alike_create (h : b.Renamed ρ b') (hρ : Set.InjOn ρ {n | n ∈ b.identifiers})
    (hv : ∀ v ∈ b.defaults, v.isExpression = false) :
    List.Forall₂ (Statement.Alike 0) (b.create d) (b'.create d) :=
  .cons (alike_createTable d h hρ hv) (alike_createIndexes h)

theorem supported_renamed {cs cs' : List Command}
    (h : List.Forall₂ (Command.Renamed ρ) cs cs') :
    cs'.all (Command.isSupported d ·.kind) = cs.all (Command.isSupported d ·.kind) := by
  induction h with
  | nil => rfl
  | @cons c c' cs cs' hc hcs ih =>
    have hk : c'.kind = c.kind := by cases hc <;> rfl
    rw [List.all_cons, List.all_cons, ih, hk]

theorem map_outerText_eq {ss ts : List Statement}
    (h : List.Forall₂ (fun s t : Statement => outerText s.text = outerText t.text) ss ts) :
    ts.map (outerText ·.text) = ss.map (outerText ·.text) := by
  induction h with
  | nil => rfl
  | cons h _ ih => rw [List.map_cons, List.map_cons, ih, h]

theorem outerText_compile (h : b.Renamed ρ b') (hρ : Set.InjOn ρ {n | n ∈ b.identifiers})
    (hv : ∀ v ∈ b.defaults, v.isExpression = false) :
    (b'.compile d).toOption.map (·.map (outerText ·.text)) =
      (b.compile d).toOption.map (·.map (outerText ·.text)) := by
  rw [toOption_compile, toOption_compile, h.mode]
  cases b.mode with
  | create =>
    have hs := (alike_create d h hρ hv).imp fun s t hst => Sql.Alike.outerText_eq hst
    exact congrArg some (map_outerText_eq hs)
  | alter =>
    have hs : List.Forall₂ (fun s t : Statement => outerText s.text = outerText t.text)
        (b.commands.flatMap (·.plan d b.table)) (b'.commands.flatMap (·.plan d b'.table)) := by
      refine List.rel_flatMap (commands_renamed h hv) ?_
      rintro c c' ⟨hcv, hc⟩
      exact (Command.alike_plan d hc hcv _ _).imp fun s t hst => Sql.Alike.outerText_eq hst
    dsimp only
    rw [supported_renamed d h.commands]
    by_cases hc : b.commands.all (Command.isSupported d ·.kind) = true
    · rw [if_pos hc, if_pos hc]
      exact congrArg some (map_outerText_eq hs)
    · rw [if_neg hc, if_neg hc]

/-- How many semicolons each statement of a blueprint holds outside quotes. -/
def joints (b : Blueprint) : List Nat :=
  match b.mode with
  | .create => List.replicate (b.create d).length 0
  | .alter => b.commands.flatMap fun c => List.replicate (c.plan d b.table).length c.joints

theorem closed_of_alike {k : Nat} {ss : List Statement}
    (h : List.Forall₂ (Statement.Alike k) ss ss) :
    List.Forall₂ (fun s k => Closed k s.text) ss (List.replicate ss.length k) := by
  rw [List.forall₂_same] at h
  induction ss with
  | nil => exact .nil
  | cons s ss ih =>
    exact .cons (h s (by simp)).closed (ih fun t ht => h t (by simp [ht]))

theorem closed_commands {cs : List Command}
    (hv : ∀ c ∈ cs, ∀ v ∈ c.default?, v.isExpression = false) (table : String) :
    List.Forall₂ (fun s k => Closed k s.text) (cs.flatMap (·.plan d table))
      (cs.flatMap fun c => List.replicate (c.plan d table).length c.joints) := by
  induction cs with
  | nil => exact .nil
  | cons c cs ih =>
    have hc := Command.alike_plan d c.renamed_id (hv c (by simp)) table table
    exact List.rel_append (closed_of_alike hc) (ih fun c hc => hv c (by simp [hc]))

theorem closed_compile (hv : ∀ v ∈ b.defaults, v.isExpression = false) {ss : List Statement}
    (h : b.compile d = .ok ss) : List.Forall₂ (fun s k => Closed k s.text) ss (b.joints d) := by
  have ho := toOption_compile d b
  rw [h] at ho
  unfold joints
  cases hm : b.mode with
  | create =>
    rw [hm] at ho
    obtain rfl : ss = b.create d := Option.some.inj ho
    exact closed_of_alike (alike_create d b.renamed_id (Set.injOn_id _) hv)
  | alter =>
    rw [hm] at ho
    dsimp only at ho
    by_cases hc : b.commands.all (Command.isSupported d ·.kind) = true
    · rw [if_pos hc] at ho
      obtain rfl : ss = _ := Option.some.inj ho
      exact closed_commands d (fun c hc v hv' =>
        hv v (List.mem_append_right _ (List.mem_filterMap.mpr ⟨c, hc, hv'⟩))) b.table
    · rw [if_neg hc] at ho
      cases ho

end Blueprint

def Dialect.tableTexts (table other : String) : List String :=
  [(Statement.dropTable table false).text, (Statement.dropTable table true).text,
    (Statement.renameTable table other).text, (TableCount.mk d table).text]

theorem Dialect.alike_tableTexts (table other table' other' : String) :
    List.Forall₂ (Sql.Alike 0 0 0) (d.tableTexts table other) (d.tableTexts table' other') :=
  .cons (Statement.alike_dropTable _ _ _) <| .cons (Statement.alike_dropTable _ _ _) <|
    .cons (Statement.alike_renameTable _ _ _ _) <| .cons (TableCount.alike d _ _) .nil

namespace Blueprint

/-- No name and no string changes the structure of what is compiled: each statement is closed and
holds as many semicolons as its changes ask for, and under other names and with other strings the
text outside quotes is the same. -/
theorem compile_structure (b : Blueprint) (hv : ∀ v ∈ b.defaults, v.isExpression = false) :
    (∀ ss, b.compile d = .ok ss → List.Forall₂ (fun s k => Closed k s.text) ss (b.joints d)) ∧
      (∀ ρ b', b.Renamed ρ b' → Set.InjOn ρ {n | n ∈ b.identifiers} →
        (b'.compile d).toOption.map (·.map (outerText ·.text)) =
          (b.compile d).toOption.map (·.map (outerText ·.text))) ∧
      (∀ table other, ∀ s ∈ d.tableTexts table other, Closed 0 s) ∧
      (∀ table other table' other', (d.tableTexts table' other').map outerText =
        (d.tableTexts table other).map outerText) := by
  refine ⟨fun ss h => closed_compile d hv h, fun ρ b' h hρ => outerText_compile d h hρ hv, ?_, ?_⟩
  · intro table other s hs
    exact (List.forall₂_same.mp (d.alike_tableTexts table other table other) s hs).closed
  · intro table other table' other'
    rw [← List.forall₂_eq_eq_eq, List.forall₂_map_left_iff, List.forall₂_map_right_iff]
    exact (d.alike_tableTexts table' other' table other).imp fun s t h => h.outerText_eq

theorem compile_structure_of_quotes :
    (∃ ss, (build "t" .alter [.modify "n" [.default (.string "'; '")]]).compile .postgres = .ok ss ∧
      List.Forall₂ (fun s k => Closed k s.text) ss [1]) ∧
    ((build "t\";" .alter [.modify "n\";" [.default (.string "")]]).compile .postgres).toOption.map
        (·.map (outerText ·.text)) =
      ((build "t" .alter [.modify "n" [.default (.string "'; '")]]).compile .postgres).toOption.map
        (·.map (outerText ·.text)) := by
  obtain ⟨hclosed, hsame, -, -⟩ := compile_structure .postgres
    (build "t" .alter [.modify "n" [.default (.string "'; '")]]) (by decide)
  refine ⟨⟨_, rfl, hclosed _ rfl⟩, hsame (· ++ "\";") _ ?_ ?_⟩
  · exact ⟨rfl, rfl, .nil, rfl, .cons (.modify _ (.some (.string _ _))) .nil⟩
  · intro m _ n _ h
    simpa using h

end Blueprint

end SchemaPlan
