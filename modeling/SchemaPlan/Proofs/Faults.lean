import SchemaPlan.Proofs.IntegerDefaults
import SchemaPlan.Proofs.RoundTrip

namespace SchemaPlan

/-- The error of a result is the first of some faults, and there is none if there are no faults. -/
def FailsFirst {α ε : Type} (x : Except ε α) (fs : List ε) : Prop :=
  ∀ e, x = .error e ↔ fs.head? = some e

namespace FailsFirst

variable {α β ε φ : Type} {x : Except ε α} {es fs : List ε}

theorem ok (a : α) : FailsFirst (.ok a : Except ε α) [] := fun e => by simp

theorem error (e : ε) : FailsFirst (.error e : Except ε α) [e] := fun e' => by simp

theorem exists_error_iff (h : FailsFirst x fs) : (∃ e, x = .error e) ↔ fs ≠ [] := by
  rw [← List.isSome_head?, Option.isSome_iff_exists]
  exact exists_congr h

theorem exists_ok_iff (h : FailsFirst x fs) : (∃ a, x = .ok a) ↔ fs = [] := by
  have herror := h.exists_error_iff
  cases x with
  | ok a => simpa using herror
  | error e => simpa using herror

/-- The faults of what comes first stand before those of what depends on it. -/
theorem bind {f : α → Except ε β} (hx : FailsFirst x es) (hf : ∀ a, FailsFirst (f a) fs) :
    FailsFirst (x >>= f) (es ++ fs) := by
  cases x with
  | ok a =>
    obtain rfl : es = [] := hx.exists_ok_iff.mp ⟨a, rfl⟩
    exact hf a
  | error e =>
    intro e'
    have he : es.head? = some e := (hx e).mp rfl
    rw [List.head?_append, he, Option.some_or, Option.some.injEq]
    change (Except.error e : Except ε β) = .error e' ↔ e = e'
    rw [Except.error.injEq]

theorem map (hx : FailsFirst x fs) (f : α → β) : FailsFirst (f <$> x) fs := by
  have h := hx.bind fun a => ok (f a)
  rw [List.append_nil] at h
  cases x <;> exact h

theorem mapError (hx : FailsFirst x fs) (f : ε → φ) : FailsFirst (x.mapError f) (fs.map f) := by
  intro e
  rw [mapError_eq_error_iff, List.head?_map, Option.map_eq_some_iff]
  exact exists_congr fun e' => and_congr_left fun _ => hx e'

theorem mapM {f : α → Except ε β} {g : α → List ε} (h : ∀ a, FailsFirst (f a) (g a))
    (as : List α) : FailsFirst (as.mapM f) (as.flatMap g) := by
  induction as with
  | nil => exact ok []
  | cons a as ih =>
    rw [List.mapM_cons, List.flatMap_cons]
    refine (h a).bind fun b => ?_
    have hrest := ih.bind fun bs => ok (b :: bs)
    rwa [List.append_nil] at hrest

end FailsFirst

namespace Manifest

open Decimal

def isBadDefault : Json → Bool
  | .null | .array _ | .object _ => true
  | _ => false

def LacksSize (kind : Option ColumnKind) (precision scale : Option UInt16) : Prop :=
  kind = some .decimal ∧ (precision = none ∨ scale = none)

instance (kind : Option ColumnKind) (precision scale : Option UInt16) :
    Decidable (LacksSize kind precision scale) :=
  inferInstanceAs (Decidable (_ ∧ _))

def sizeFaults (column : String) (kind : Option ColumnKind) (precision scale : Option UInt16) :
    List Fault :=
  if LacksSize kind precision scale then [.decimalSize column] else []

def defaultFaults (column : String) (default : Option Json) : List Fault :=
  (default.filter isBadDefault).toList.map (.badDefault column)

/-- The faults of a column that is described, that of its type before that of its default. -/
def entryFaults (column : String) (kind : Option ColumnKind) (precision scale : Option UInt16)
    (default : Option Json) : List Fault :=
  sizeFaults column kind precision scale ++ defaultFaults column default

def ColumnEntry.faults (c : ColumnEntry) : List Fault :=
  entryFaults c.name (some c.kind) c.precision c.scale c.default

def ModifyEntry.faults (m : ModifyEntry) : List Fault :=
  entryFaults m.name m.kind m.precision m.scale m.default

def IndexEntry.faults (i : IndexEntry) : List Fault :=
  if i.columns = [] then [.emptyIndex i.kind] else []

def CommandEntry.faults : CommandEntry → List Fault
  | .add c => c.faults
  | .modify m => m.faults
  | _ => []

namespace TableEntry

variable (t : TableEntry)

def faults : List Fault :=
  t.columns.flatMap (·.faults) ++ (t.indexes.flatMap (·.faults) ++ t.commands.flatMap (·.faults))

def Declares (c : ColumnEntry) : Prop :=
  c ∈ t.columns ∨ .add c ∈ t.commands

def Gives (default : Json) : Prop :=
  (∃ c, t.Declares c ∧ c.default = some default) ∨
    ∃ m, .modify m ∈ t.commands ∧ m.default = some default

def IsFaulty : Prop :=
  (∃ c, t.Declares c ∧ LacksSize (some c.kind) c.precision c.scale) ∨
    (∃ m, .modify m ∈ t.commands ∧ LacksSize m.kind m.precision m.scale) ∨
    (∃ i ∈ t.indexes, i.columns = []) ∨ ∃ v, t.Gives v ∧ isBadDefault v

end TableEntry

section Entry

variable (column : String)

theorem columnType_failsFirst (length : Option UInt32) (precision scale : Option UInt16)
    (kind : ColumnKind) :
    FailsFirst (columnType column length precision scale kind)
      (sizeFaults column (some kind) precision scale) := by
  cases kind with
  | decimal =>
    cases precision with
    | none => exact .error _
    | some p =>
      cases scale with
      | none => exact .error _
      | some s => exact .ok _
  | _ => exact .ok _

-- `defaultValue` may refuse a number as out of range, but none that JSON can hold is.
theorem defaultValue_failsFirst (v : Json) :
    FailsFirst (defaultValue column v) (defaultFaults column (some v)) := by
  cases v with
  | integer n h =>
    obtain ⟨d, hd, -⟩ := exists_defaultValue_integer column n h
    rw [hd]
    exact .ok d
  | null | array | object => exact .error _
  | bool | float | string => exact .ok _

theorem defaultValue?_failsFirst (default : Option Json) :
    FailsFirst (defaultValue? column default) (defaultFaults column default) := by
  cases default with
  | none => exact .ok none
  | some v => exact (defaultValue_failsFirst column v).map some

end Entry

theorem ColumnEntry.column_failsFirst (c : ColumnEntry) : FailsFirst c.column c.faults := by
  have htype := columnType_failsFirst c.name c.length c.precision c.scale c.kind
  refine htype.bind fun type => ?_
  exact (defaultValue?_failsFirst c.name c.default).map _

theorem ModifyEntry.change_failsFirst (m : ModifyEntry) : FailsFirst m.change m.faults := by
  have htype : FailsFirst m.type? (sizeFaults m.name m.kind m.precision m.scale) := by
    unfold type?
    cases m.kind with
    | none => exact .ok none
    | some kind =>
      exact (columnType_failsFirst m.name m.length m.precision m.scale kind).map some
  refine htype.bind fun type => ?_
  exact (defaultValue?_failsFirst m.name m.default).map _

theorem IndexEntry.index_failsFirst (i : IndexEntry) : FailsFirst i.index i.faults := by
  unfold index faults
  split
  · exact .error _
  · exact .ok _

theorem CommandEntry.command_failsFirst (k : CommandEntry) : FailsFirst k.command k.faults := by
  cases k with
  | add c => exact c.column_failsFirst.map Command.add
  | modify m => exact m.change_failsFirst.map Command.modify
  | _ => exact .ok _

section Faulty

theorem append_ne_nil_iff {α : Type} {xs ys : List α} : xs ++ ys ≠ [] ↔ xs ≠ [] ∨ ys ≠ [] := by
  simp only [ne_eq, List.append_eq_nil_iff, not_and_or]

theorem flatMap_ne_nil_iff {α β : Type} {xs : List α} {f : α → List β} :
    xs.flatMap f ≠ [] ↔ ∃ x ∈ xs, f x ≠ [] := by
  simp only [ne_eq, List.flatMap_eq_nil_iff, not_forall, exists_prop]

variable {column : String} {kind : Option ColumnKind} {precision scale : Option UInt16}
  {default : Option Json}

theorem sizeFaults_ne_nil_iff :
    sizeFaults column kind precision scale ≠ [] ↔ LacksSize kind precision scale := by
  unfold sizeFaults
  split <;> simp_all

theorem defaultFaults_ne_nil_iff :
    defaultFaults column default ≠ [] ↔ ∃ v, default = some v ∧ isBadDefault v := by
  cases default with
  | none => simp [defaultFaults]
  | some v => cases hv : isBadDefault v <;> simp [defaultFaults, Option.filter_some, hv]

theorem entryFaults_ne_nil_iff :
    entryFaults column kind precision scale default ≠ [] ↔
      LacksSize kind precision scale ∨ ∃ v, default = some v ∧ isBadDefault v := by
  rw [entryFaults, append_ne_nil_iff, sizeFaults_ne_nil_iff, defaultFaults_ne_nil_iff]

theorem IndexEntry.faults_ne_nil_iff (i : IndexEntry) : i.faults ≠ [] ↔ i.columns = [] := by
  unfold faults
  split <;> simp_all

theorem outOfRange_notMem_entryFaults (c : String) :
    .outOfRange c ∉ entryFaults column kind precision scale default := by
  unfold entryFaults sizeFaults defaultFaults
  split <;> simp

end Faulty

namespace TableEntry

variable {t : TableEntry}

theorem blueprint_failsFirst (t : TableEntry) : FailsFirst t.blueprint t.faults := by
  refine (FailsFirst.mapM ColumnEntry.column_failsFirst t.columns).bind fun columns => ?_
  refine (FailsFirst.mapM IndexEntry.index_failsFirst t.indexes).bind fun indexes => ?_
  exact (FailsFirst.mapM CommandEntry.command_failsFirst t.commands).map _

theorem isFaulty_of_declares {c : ColumnEntry} (hc : t.Declares c) (h : c.faults ≠ []) :
    t.IsFaulty := by
  rcases entryFaults_ne_nil_iff.mp h with hsize | ⟨v, hv, hbad⟩
  · exact .inl ⟨c, hc, hsize⟩
  · exact .inr (.inr (.inr ⟨v, .inl ⟨c, hc, hv⟩, hbad⟩))

theorem faults_ne_nil_of_command {k : CommandEntry} (hk : k ∈ t.commands) (h : k.faults ≠ []) :
    t.faults ≠ [] :=
  append_ne_nil_iff.mpr (.inr (append_ne_nil_iff.mpr (.inr (flatMap_ne_nil_iff.mpr ⟨k, hk, h⟩))))

theorem faults_ne_nil_of_declares {c : ColumnEntry} (hc : t.Declares c) (h : c.faults ≠ []) :
    t.faults ≠ [] := by
  rcases hc with hc | hc
  · exact append_ne_nil_iff.mpr (.inl (flatMap_ne_nil_iff.mpr ⟨c, hc, h⟩))
  · exact faults_ne_nil_of_command hc h

theorem faults_ne_nil_iff (t : TableEntry) : t.faults ≠ [] ↔ t.IsFaulty := by
  constructor
  · intro h
    rw [faults, append_ne_nil_iff, append_ne_nil_iff, flatMap_ne_nil_iff, flatMap_ne_nil_iff,
      flatMap_ne_nil_iff] at h
    rcases h with ⟨c, hc, h⟩ | ⟨i, hi, h⟩ | ⟨k, hk, h⟩
    · exact isFaulty_of_declares (.inl hc) h
    · exact .inr (.inr (.inl ⟨i, hi, i.faults_ne_nil_iff.mp h⟩))
    · cases k with
      | add c => exact isFaulty_of_declares (.inr hk) h
      | modify m =>
        rcases entryFaults_ne_nil_iff.mp h with hsize | ⟨v, hv, hbad⟩
        · exact .inr (.inl ⟨m, hk, hsize⟩)
        · exact .inr (.inr (.inr ⟨v, .inr ⟨m, hk, hv⟩, hbad⟩))
      | _ => exact absurd rfl h
  · rintro (⟨c, hc, hsize⟩ | ⟨m, hm, hsize⟩ | ⟨i, hi, hempty⟩ |
      ⟨v, ⟨c, hc, hv⟩ | ⟨m, hm, hv⟩, hbad⟩)
    · exact faults_ne_nil_of_declares hc (entryFaults_ne_nil_iff.mpr (.inl hsize))
    · exact faults_ne_nil_of_command hm (entryFaults_ne_nil_iff.mpr (.inl hsize))
    · have hindexes := flatMap_ne_nil_iff.mpr ⟨i, hi, i.faults_ne_nil_iff.mpr hempty⟩
      exact append_ne_nil_iff.mpr (.inr (append_ne_nil_iff.mpr (.inl hindexes)))
    · exact faults_ne_nil_of_declares hc (entryFaults_ne_nil_iff.mpr (.inr ⟨v, hv, hbad⟩))
    · exact faults_ne_nil_of_command hm (entryFaults_ne_nil_iff.mpr (.inr ⟨v, hv, hbad⟩))

theorem faults_eq_nil_iff (t : TableEntry) : t.faults = [] ↔ ¬t.IsFaulty := by
  rw [← t.faults_ne_nil_iff, ne_eq, not_not]

theorem outOfRange_notMem_faults (t : TableEntry) (column : String) :
    .outOfRange column ∉ t.faults := by
  intro h
  rcases List.mem_append.mp h with h | h
  · obtain ⟨c, -, hf⟩ := List.mem_flatMap.mp h
    exact outOfRange_notMem_entryFaults column hf
  rcases List.mem_append.mp h with h | h
  · obtain ⟨i, -, hf⟩ := List.mem_flatMap.mp h
    rw [IndexEntry.faults] at hf
    split at hf <;> simp at hf
  · obtain ⟨k, -, hf⟩ := List.mem_flatMap.mp h
    cases k with
    | add c => exact outOfRange_notMem_entryFaults column hf
    | modify m => exact outOfRange_notMem_entryFaults column hf
    | _ => cases hf

theorem blueprint_ne_outOfRange (t : TableEntry) (column : String) :
    t.blueprint ≠ .error (.outOfRange column) := fun h =>
  t.outOfRange_notMem_faults column (List.mem_of_mem_head? ((t.blueprint_failsFirst _).mp h))

/-- A written null is read as no default, so a table that was read gives none. -/
theorem IsKept.not_gives_null (h : t.IsKept) : ¬t.Gives .null := by
  have hnull : ∀ place, ¬Manifest.IsKept place (some .null) := by
    intro place hnull
    cases hnull
  rintro (⟨c, hc | hc, hv⟩ | ⟨m, hm, hv⟩)
  · have hkept : Manifest.IsKept .document c.default := h.columns c hc
    exact hnull _ (hv ▸ hkept)
  · have hkept : Manifest.IsKept .command c.default := h.commands _ hc
    exact hnull _ (hv ▸ hkept)
  · have hkept : Manifest.IsKept .command m.default := h.commands _ hm
    exact hnull _ (hv ▸ hkept)

end TableEntry

theorem blueprintOf_failsFirst (path : String) (t : TableEntry) :
    FailsFirst (blueprintOf path t) (t.faults.map fun f => ⟨path, .fault t.table f⟩) :=
  t.blueprint_failsFirst.mapError _

theorem blueprints_failsFirst (m : Manifest) :
    FailsFirst m.blueprints
      (m.tables.flatMap fun t => t.faults.map fun f => ⟨m.path, .fault t.table f⟩) :=
  FailsFirst.mapM (blueprintOf_failsFirst m.path) m.tables

variable (m : Manifest)

theorem blueprints_eq_error_iff {e : Invalid} :
    m.blueprints = .error e ↔ ∃ pre t post, m.tables = pre ++ t :: post ∧
      (∀ s ∈ pre, ¬s.IsFaulty) ∧ blueprintOf m.path t = .error e := by
  rw [m.blueprints_failsFirst e, List.head?_flatMap, List.findSome?_eq_some_iff]
  simp only [List.head?_eq_none_iff, List.map_eq_nil_iff, TableEntry.faults_eq_nil_iff,
    ← blueprintOf_failsFirst m.path _ e, and_comm]

theorem exists_blueprints_iff :
    (∃ bs, m.blueprints = .ok bs) ↔ ∀ t ∈ m.tables, ¬t.IsFaulty := by
  rw [m.blueprints_failsFirst.exists_ok_iff, List.flatMap_eq_nil_iff]
  simp only [List.map_eq_nil_iff, TableEntry.faults_eq_nil_iff]

/-- A table has no blueprint exactly if it is faulty, and is refused for the first of its faults. A
manifest is refused for the first of its tables that is. -/
theorem blueprints_first_fault (m : Manifest) (path : String) (t : TableEntry) :
    ((∃ e, blueprintOf path t = .error e) ↔ t.IsFaulty) ∧
      (∀ e, blueprintOf path t = .error e ↔
        ∃ f, t.faults.head? = some f ∧ e = ⟨path, .fault t.table f⟩ ∧
          e.cause.message = "table '" ++ t.table ++ "': " ++ f.message) ∧
      (∀ column, t.blueprint ≠ .error (.outOfRange column)) ∧
      (∀ e, m.blueprints = .error e ↔ ∃ pre s post, m.tables = pre ++ s :: post ∧
        (∀ r ∈ pre, ¬r.IsFaulty) ∧ blueprintOf m.path s = .error e) ∧
      ((∃ bs, m.blueprints = .ok bs) ↔ ∀ s ∈ m.tables, ¬s.IsFaulty) ∧
      (∀ bs, m.blueprints = .ok bs → m.tables.map (blueprintOf m.path) = bs.map .ok) ∧
      ∀ document, ofJson m.path document = .ok m → ∀ s ∈ m.tables, ¬s.Gives .null := by
  have hfails := blueprintOf_failsFirst path t
  refine ⟨?_, fun e => ?_, t.blueprint_ne_outOfRange, fun e => m.blueprints_eq_error_iff,
    m.exists_blueprints_iff, fun bs hbs => mapM_eq_ok_iff.mp hbs, fun document h s hs => ?_⟩
  · rw [hfails.exists_error_iff, ne_eq, List.map_eq_nil_iff]
    exact t.faults_ne_nil_iff
  · rw [hfails e, List.head?_map, Option.map_eq_some_iff]
    refine exists_congr fun f => and_congr_right fun _ => ⟨?_, ?_⟩
    · rintro rfl
      exact ⟨rfl, rfl⟩
    · rintro ⟨rfl, -⟩
      rfl
  · exact (isKept_of_decodeTables (ofJson_eq_ok_iff.mp h).2 s hs).not_gives_null

theorem blueprints_first_fault_of_shop :
    let id : Json := .object [("default", .null), ("name", .string "id"), ("type", .string "id")]
    let document : Json := .object [("columns", .array [id]), ("table", .string "users")]
    let users : TableEntry := { table := "users", columns := [{ name := "id", kind := .id }] }
    let orders : TableEntry :=
      { table := "orders", indexes := [{ kind := .unique, columns := [] }],
        columns := [{ name := "total", kind := .decimal, scale := some 2, default := some .null }] }
    (ofJson "shop.json" document = .ok ⟨"shop.json", [users]⟩ ∧ ¬users.Gives .null ∧
        ∃ bs, blueprints ⟨"shop.json", [users]⟩ = .ok bs ∧ bs.length = 1) ∧
      ∃ e, blueprints ⟨"shop.json", [users, orders, orders]⟩ = .error e ∧
        e.message = "Invalid manifest 'shop.json': table 'orders': " ++
          "decimal column 'total' requires precision and scale" := by
  intro id document users orders
  have hread : ofJson "shop.json" document = .ok ⟨"shop.json", [users]⟩ := rfl
  have husers := blueprints_first_fault ⟨"shop.json", [users]⟩ "shop.json" users
  have horders := blueprints_first_fault ⟨"shop.json", [users, orders, orders]⟩ "shop.json" orders
  have hgives : ¬users.Gives .null :=
    husers.2.2.2.2.2.2 document hread users (List.mem_singleton.mpr rfl)
  have hfaultless : ¬users.IsFaulty := (TableEntry.faults_eq_nil_iff users).mp rfl
  obtain ⟨bs, hbs⟩ := husers.2.2.2.2.1.mpr (List.forall_mem_singleton.mpr hfaultless)
  have hlength := congrArg List.length (husers.2.2.2.2.2.1 bs hbs)
  rw [List.length_map, List.length_map] at hlength
  have horder : blueprintOf "shop.json" orders =
      .error ⟨"shop.json", .fault "orders" (.decimalSize "total")⟩ :=
    (horders.2.1 _).mpr ⟨_, rfl, rfl, rfl⟩
  refine ⟨⟨hread, hgives, bs, hbs, hlength.symm⟩, _, (horders.2.2.2.1 _).mpr
    ⟨[users], orders, [orders], rfl, List.forall_mem_singleton.mpr hfaultless, horder⟩, by decide⟩

end Manifest

end SchemaPlan
