import SchemaPlan.Manifest.Encode
import SchemaPlan.Manifest.Load
import SchemaPlan.Proofs.Form

namespace SchemaPlan.Manifest

section Value

variable {α : Type} {place : Place} {f : Json → Decoded α} {g : α → Json}

theorem decodeOption_encodeOption (hg : ∀ a, g a ≠ .null) (h : ∀ a, f (g a) = .ok a)
    (o : Option α) : decodeOption f (encodeOption g o) = .ok o := by
  cases o with
  | none => rfl
  | some a =>
    rw [encodeOption, decodeOption_of_ne_null f (hg a), h]
    rfl

theorem decodeList_map {as : List α} (h : ∀ a ∈ as, f (g a) = .ok a) :
    decodeList f (.array (as.map g)) = .ok as :=
  mapM_map_eq_ok h

theorem decodeStrings (strings : List String) :
    decodeList decodeString (encodeStrings strings) = .ok strings :=
  decodeList_map fun _ _ => rfl

theorem decodeU32_encodeU32 (n : UInt32) : decodeU32 (encodeU32 n) = .ok n := by
  have h : 0 ≤ (n.toNat : Int) ∧ (n.toNat : Int) < UInt32.size :=
    ⟨Int.natCast_nonneg _, Int.ofNat_lt.mpr n.toNat_lt⟩
  unfold decodeU32 encodeU32 encodeWord
  dsimp only
  rw [if_pos h, Int.toNat_natCast, UInt32.ofNat_toNat]

theorem decodeU16_encodeU16 (n : UInt16) : decodeU16 (encodeU16 n) = .ok n := by
  have h : 0 ≤ (n.toNat : Int) ∧ (n.toNat : Int) < UInt16.size :=
    ⟨Int.natCast_nonneg _, Int.ofNat_lt.mpr n.toNat_lt⟩
  unfold decodeU16 encodeU16 encodeWord
  dsimp only
  rw [if_pos h, Int.toNat_natCast, UInt16.ofNat_toNat]

end Value

section Names

variable {α : Type} [DecidableEq α] {names : Names α}

def Names.Tells (names : Names α) : Prop :=
  ∀ a, names.lookup (wordFor names a) = some a

theorem lookupVariant_wordFor (h : names.Tells) (a : α) :
    lookupVariant names (wordFor names a) = .ok a := by
  unfold lookupVariant
  rw [h a]

theorem decodeEnum_encodeEnum (h : names.Tells) {place : Place} (a : α) :
    decodeEnum names place (encodeEnum names a) = .ok a :=
  lookupVariant_wordFor h a

theorem modeNames_tells : modeNames.Tells := by
  intro m
  cases m <;> rfl

theorem columnKindNames_tells : columnKindNames.Tells := by
  intro k
  cases k <;> rfl

theorem actionNames_tells : actionNames.Tells := by
  intro a
  cases a <;> rfl

theorem indexKindNames_tells : indexKindNames.Tells := by
  intro k
  cases k <;> rfl

theorem commandNames_tells : commandNames.Tells := by
  intro k
  cases k <;> rfl

end Names

section Default

variable {place : Place} {v : Json}

/-- A default that is read back as it is: null would be read as no default, and an object that
begins with the field for embedding not at all. -/
def IsKept (place : Place) (default : Option Json) : Prop :=
  decodeOption (decodeAny place) (encodeOption id default) = .ok default

theorem isKept_of_decodeOption {default : Option Json}
    (h : decodeOption (decodeAny place) v = .ok default) : IsKept place default := by
  have hv : encodeOption id default = v := by
    cases v with
    | null =>
      cases h
      rfl
    | _ =>
      obtain ⟨w, hw, rfl⟩ := map_eq_ok_iff.mp h
      obtain ⟨-, -, hw⟩ := bind_eq_ok_iff.mp hw
      cases hw
      rfl
  unfold IsKept
  rw [hv, h]

theorem isKept_of_decodeColumn {c : ColumnEntry} (h : decodeColumn place v = .ok c) :
    IsKept place c.default := by
  refine Form.of_decode (f := columnForm place) (P := fun c => IsKept place c.default) ?_ rfl h
  intro name v a b ha hb
  dsimp only [columnForm] at hb
  -- Only reading the default changes it.
  split at hb
  all_goals
    first
    | cases hb
      exact ha
    | obtain ⟨x, hx, rfl⟩ := Form.exists_of_return hb
      first
      | exact isKept_of_decodeOption hx
      | exact ha

theorem isKept_of_modifyForm {body : Body} {m : ModifyEntry} (h : modifyForm.ofBody body = .ok m) :
    IsKept .command m.default := by
  refine Form.of_ofBody (f := modifyForm) (P := fun m => IsKept .command m.default) ?_ rfl h
  intro name v a b ha hb
  dsimp only [modifyForm] at hb
  split at hb
  all_goals
    first
    | cases hb
      exact ha
    | obtain ⟨x, hx, rfl⟩ := Form.exists_of_return hb
      first
      | exact isKept_of_decodeOption hx
      | exact ha

def CommandEntry.IsKept : CommandEntry → Prop
  | .add c => Manifest.IsKept .command c.default
  | .modify m => Manifest.IsKept .command m.default
  | _ => True

theorem isKept_of_addForm {body : Body} {c : ColumnEntry} (h : addForm.ofBody body = .ok c) :
    IsKept .command c.default := by
  refine Form.of_ofBody (f := addForm) (P := fun c => IsKept .command c.default) ?_ rfl h
  intro name v a b ha hb
  dsimp only [addForm] at hb
  split at hb
  · exact isKept_of_decodeColumn hb
  · exact Except.ok.inj hb ▸ ha

theorem isKept_of_decodeBody {kind : CommandKind} {body : Body} {k : CommandEntry}
    (h : decodeBody kind body = .ok k) : k.IsKept := by
  cases kind with
  | add =>
    obtain ⟨c, hc, rfl⟩ := map_eq_ok_iff.mp h
    exact isKept_of_addForm hc
  | modify =>
    obtain ⟨m, hm, rfl⟩ := map_eq_ok_iff.mp h
    exact isKept_of_modifyForm hm
  | dropPrimary =>
    cases body with
    | named fields =>
      cases h
      trivial
    | listed items =>
      obtain ⟨-, -, rfl⟩ := map_eq_ok_iff.mp h
      trivial
  | _ =>
    obtain ⟨-, -, rfl⟩ := map_eq_ok_iff.mp h
    trivial

theorem isKept_of_decodeCommand {k : CommandEntry} (h : decodeCommand v = .ok k) : k.IsKept := by
  have hbody : ∃ kind body, decodeBody kind body = .ok k := by
    unfold decodeCommand at h
    split at h
    · split at h
      · cases h
      · obtain ⟨kind, -, hk⟩ := bind_eq_ok_iff.mp h
        exact ⟨kind, _, hk⟩
    · cases h
    · obtain ⟨kind, -, hk⟩ := bind_eq_ok_iff.mp h
      exact ⟨kind, _, hk⟩
    · cases h
  obtain ⟨kind, body, hk⟩ := hbody
  exact isKept_of_decodeBody hk

structure TableEntry.IsKept (t : TableEntry) : Prop where
  columns : ∀ c ∈ t.columns, Manifest.IsKept .document c.default
  commands : ∀ k ∈ t.commands, k.IsKept

theorem of_decodeList {α : Type} {f : Json → Decoded α} {P : α → Prop} {as : List α}
    (h : decodeList f v = .ok as) (hf : ∀ {v a}, f v = .ok a → P a) : ∀ a ∈ as, P a := by
  cases v with
  | array items =>
    intro a ha
    obtain ⟨v, hv⟩ := exists_of_mem_mapM h ha
    exact hf hv
  | _ => cases h

theorem isKept_of_decodeTable {t : TableEntry} (h : decodeTable v = .ok t) : t.IsKept := by
  refine Form.of_decode (f := tableForm) (P := TableEntry.IsKept) ?_ ?_ h
  · intro name v a b ha hb
    dsimp only [tableForm] at hb
    split at hb
    · obtain ⟨x, hx, rfl⟩ := Form.exists_of_return hb
      exact ⟨ha.columns, ha.commands⟩
    · obtain ⟨x, hx, rfl⟩ := Form.exists_of_return hb
      exact ⟨ha.columns, ha.commands⟩
    · obtain ⟨x, hx, rfl⟩ := Form.exists_of_return hb
      exact ⟨of_decodeList hx isKept_of_decodeColumn, ha.commands⟩
    · obtain ⟨x, hx, rfl⟩ := Form.exists_of_return hb
      exact ⟨ha.columns, ha.commands⟩
    · obtain ⟨x, hx, rfl⟩ := Form.exists_of_return hb
      exact ⟨ha.columns, of_decodeList hx isKept_of_decodeCommand⟩
    · cases hb
      exact ha
  · exact ⟨List.forall_mem_nil _, List.forall_mem_nil _⟩

end Default

section RoundTrip

variable {place : Place}

theorem decodeOption_strings (o : Option String) :
    decodeOption decodeString (encodeOption .string o) = .ok o :=
  decodeOption_encodeOption (g := .string) (fun _ => Json.noConfusion) (fun _ => rfl) o

theorem decodeOption_u32 (o : Option UInt32) :
    decodeOption decodeU32 (encodeOption encodeU32 o) = .ok o :=
  decodeOption_encodeOption (fun _ => Json.noConfusion) decodeU32_encodeU32 o

theorem decodeOption_u16 (o : Option UInt16) :
    decodeOption decodeU16 (encodeOption encodeU16 o) = .ok o :=
  decodeOption_encodeOption (fun _ => Json.noConfusion) decodeU16_encodeU16 o

theorem decodeOption_enum {α : Type} [DecidableEq α] {names : Names α} (h : names.Tells)
    (o : Option α) :
    decodeOption (decodeEnum names place) (encodeOption (encodeEnum names) o) = .ok o :=
  decodeOption_encodeOption (fun _ => Json.noConfusion) (decodeEnum_encodeEnum h) o

theorem decodeReference_encodeReference (r : Reference) :
    decodeReference place (encodeReference r) = .ok r := by
  refine Form.ofObject_eq_ok rfl ?_
  refine Form.assignAll_cons rfl rfl rfl ?_
  refine Form.assignAll_cons rfl rfl (decodeOption_enum actionNames_tells r.onDelete) ?_
  refine Form.assignAll_cons rfl rfl (decodeOption_enum actionNames_tells r.onUpdate) ?_
  refine Form.assignAll_cons rfl rfl rfl ?_
  rfl

theorem decodeOption_reference (o : Option Reference) :
    decodeOption (decodeReference place) (encodeOption encodeReference o) = .ok o :=
  decodeOption_encodeOption (fun _ => Json.noConfusion) decodeReference_encodeReference o

/-- The fields of a column are written in the order of their names, and read in any order. -/
theorem decodeColumn_encodeColumn {c : ColumnEntry} (h : IsKept place c.default) :
    decodeColumn place (encodeColumn c) = .ok c := by
  refine Form.ofObject_eq_ok rfl ?_
  -- One step for each field. A text or a flag stands as it is, so that reading it needs no lemma.
  refine Form.assignAll_cons rfl rfl rfl ?_
  refine Form.assignAll_cons rfl rfl (decodeOption_strings c.comment) ?_
  refine Form.assignAll_cons rfl rfl h ?_
  refine Form.assignAll_cons rfl rfl (decodeOption_strings c.defaultExpr) ?_
  refine Form.assignAll_cons rfl rfl rfl ?_
  refine Form.assignAll_cons rfl rfl (decodeOption_u32 c.length) ?_
  refine Form.assignAll_cons rfl rfl rfl ?_
  refine Form.assignAll_cons rfl rfl rfl ?_
  refine Form.assignAll_cons rfl rfl (decodeOption_u16 c.precision) ?_
  refine Form.assignAll_cons rfl rfl rfl ?_
  refine Form.assignAll_cons rfl rfl (decodeOption_reference c.references) ?_
  refine Form.assignAll_cons rfl rfl (decodeOption_u16 c.scale) ?_
  refine Form.assignAll_cons rfl rfl (decodeEnum_encodeEnum columnKindNames_tells c.kind) ?_
  refine Form.assignAll_cons rfl rfl rfl ?_
  refine Form.assignAll_cons rfl rfl rfl ?_
  refine Form.assignAll_cons rfl rfl rfl ?_
  rfl

theorem decodeIndex_encodeIndex (i : IndexEntry) :
    indexForm.decode place (encodeIndex i) = .ok i := by
  refine Form.ofObject_eq_ok rfl ?_
  refine Form.assignAll_cons rfl rfl (decodeStrings i.columns) ?_
  refine Form.assignAll_cons rfl rfl (decodeEnum_encodeEnum indexKindNames_tells i.kind) ?_
  refine Form.assignAll_cons rfl rfl (decodeOption_strings i.name) ?_
  rfl

theorem addForm_ofObject {c : ColumnEntry} (h : IsKept .command c.default) :
    addForm.ofObject [("column", encodeColumn c)] = .ok c := by
  refine Form.ofObject_eq_ok rfl ?_
  exact Form.assignAll_cons_of_assign rfl (decodeColumn_encodeColumn h) rfl

theorem columnsForm_ofObject (title : String) (columns : List String) :
    (columnsForm title).ofObject [("columns", encodeStrings columns)] = .ok columns := by
  refine Form.ofObject_eq_ok rfl ?_
  exact Form.assignAll_cons_of_assign rfl (decodeStrings columns) rfl

theorem modifyForm_ofObject {m : ModifyEntry} (h : IsKept .command m.default) :
    modifyForm.ofObject [
      ("default", encodeOption id m.default),
      ("length", encodeOption encodeU32 m.length),
      ("name", .string m.name),
      ("nullable", .bool m.nullable),
      ("precision", encodeOption encodeU16 m.precision),
      ("scale", encodeOption encodeU16 m.scale),
      ("type", encodeOption (encodeEnum columnKindNames) m.kind)] = .ok m := by
  refine Form.ofObject_eq_ok rfl ?_
  refine Form.assignAll_cons rfl rfl h ?_
  refine Form.assignAll_cons rfl rfl (decodeOption_u32 m.length) ?_
  refine Form.assignAll_cons rfl rfl rfl ?_
  refine Form.assignAll_cons rfl rfl rfl ?_
  refine Form.assignAll_cons rfl rfl (decodeOption_u16 m.precision) ?_
  refine Form.assignAll_cons rfl rfl (decodeOption_u16 m.scale) ?_
  refine Form.assignAll_cons rfl rfl (decodeOption_enum columnKindNames_tells m.kind) ?_
  rfl

theorem renameForm_ofObject (old new : String) :
    renameForm.ofObject [("from", .string old), ("to", .string new)] = .ok (old, new) := rfl

theorem decodeCommand_object {fields : List (String × Json)} (kind : CommandKind)
    (h : fields.lookup "op" = some (encodeEnum commandNames kind)) :
    decodeCommand (.object fields) =
      decodeBody kind (.named (fields.filter (·.1 ≠ "op"))) :=
  decodeCommand_named h (lookupVariant_wordFor commandNames_tells kind)

theorem decodeCommand_encodeCommand {k : CommandEntry} (h : k.IsKept) :
    decodeCommand (encodeCommand k) = .ok k := by
  cases k with
  | add c =>
    refine (decodeCommand_object .add rfl).trans ?_
    exact map_eq_ok_iff.mpr ⟨c, addForm_ofObject h, rfl⟩
  | drop columns =>
    refine (decodeCommand_object .drop rfl).trans ?_
    exact map_eq_ok_iff.mpr ⟨columns, columnsForm_ofObject _ columns, rfl⟩
  | rename old new =>
    refine (decodeCommand_object .rename rfl).trans ?_
    exact map_eq_ok_iff.mpr ⟨(old, new), renameForm_ofObject old new, rfl⟩
  | modify m =>
    refine (decodeCommand_object .modify rfl).trans ?_
    exact map_eq_ok_iff.mpr ⟨m, modifyForm_ofObject h, rfl⟩
  | dropIndex columns =>
    refine (decodeCommand_object .dropIndex rfl).trans ?_
    exact map_eq_ok_iff.mpr ⟨columns, columnsForm_ofObject _ columns, rfl⟩
  | dropUnique columns =>
    refine (decodeCommand_object .dropUnique rfl).trans ?_
    exact map_eq_ok_iff.mpr ⟨columns, columnsForm_ofObject _ columns, rfl⟩
  | dropPrimary => exact decodeCommand_object .dropPrimary rfl

theorem decodeTable_encodeTable {t : TableEntry} (h : t.IsKept) :
    decodeTable (encodeTable t) = .ok t := by
  refine Form.ofObject_eq_ok rfl ?_
  refine Form.assignAll_cons rfl rfl
    (decodeList_map fun c hc => decodeColumn_encodeColumn (h.columns c hc)) ?_
  refine Form.assignAll_cons rfl rfl
    (decodeList_map fun k hk => decodeCommand_encodeCommand (h.commands k hk)) ?_
  refine Form.assignAll_cons rfl rfl
    (decodeList_map fun i _ => decodeIndex_encodeIndex i) ?_
  refine Form.assignAll_cons rfl rfl (decodeEnum_encodeEnum modeNames_tells t.mode) ?_
  refine Form.assignAll_cons rfl rfl rfl ?_
  rfl

end RoundTrip

theorem isKept_of_decodeTables {document : Json} {ts : List TableEntry}
    (h : decodeTables document = .ok ts) : ∀ t ∈ ts, t.IsKept := by
  unfold decodeTables at h
  split at h
  · exact of_decodeList (v := .array _) h isKept_of_decodeTable
  · obtain ⟨t, ht, rfl⟩ := map_eq_ok_iff.mp h
    intro s hs
    obtain rfl := List.mem_singleton.mp hs
    exact isKept_of_decodeTable ht

theorem decodeTables_encodeTables {document : Json} {ts : List TableEntry}
    (h : decodeTables document = .ok ts) :
    decodeTables (encodeTables ts) = .ok ts ∧
      ∀ t ∈ ts, decodeTables (encodeTable t) = .ok [t] := by
  have hts := isKept_of_decodeTables h
  refine ⟨decodeList_map fun t ht => decodeTable_encodeTable (hts t ht), fun t ht => ?_⟩
  exact map_eq_ok_iff.mpr ⟨t, decodeTable_encodeTable (hts t ht), rfl⟩

/-- A column is written with all the fields that are read, each once. -/
theorem exists_fields_encodeColumn (c : ColumnEntry) :
    ∃ fields, encodeColumn c = .object fields ∧
      (fields.map Prod.fst).Perm (columnForm .document).fields := by
  refine ⟨_, rfl, ?_⟩
  change ["auto_increment", "comment", "default", "default_expr", "index", "length", "name",
    "nullable", "precision", "primary", "references", "scale", "type", "unique", "unsigned",
    "use_current"].Perm (columnForm .document).fields
  decide +kernel

theorem ofJson_eq_ok_iff {path : String} {document : Json} {m : Manifest} :
    ofJson path document = .ok m ↔ m.path = path ∧ decodeTables document = .ok m.tables := by
  unfold ofJson
  cases decodeTables document with
  | error e => simp
  | ok ts =>
    constructor
    · intro h
      cases h
      exact ⟨rfl, rfl⟩
    · rintro ⟨rfl, h⟩
      cases h
      rfl

theorem parse_eq_ok_iff {path text : String} {m : Manifest} :
    parse path text = .ok m ↔
      ∃ document, Json.parse text = .ok document ∧ ofJson path document = .ok m := by
  unfold parse
  cases Json.parse text with
  | error e => simp
  | ok document => simp [mapError_eq_ok_iff]

/-- Written out and read back, the tables of a manifest are what they were, one by one and
together, as is every table whose defaults are read back. So whatever text spells what is written is
the same manifest again, with the same blueprints or the same reason that it has none. -/
theorem decodeTables_encodeTables_of_parse {path text : String} {m : Manifest}
    (h : parse path text = .ok m) :
    decodeTables (encodeTables m.tables) = .ok m.tables ∧
      (∀ t ∈ m.tables, decodeTables (encodeTable t) = .ok [t]) ∧
      (∀ t : TableEntry, decodeTable (encodeTable t) = .ok t ↔ t.IsKept) ∧
      (∀ c, ∃ fields, encodeColumn c = .object fields ∧
        (fields.map Prod.fst).Perm (columnForm .document).fields) ∧
      (∀ text', Json.parse text' = .ok (encodeTables m.tables) → parse path text' = .ok m) ∧
      blueprints <$> ofJson path (encodeTables m.tables) = .ok m.blueprints := by
  obtain ⟨document, -, hm⟩ := parse_eq_ok_iff.mp h
  obtain ⟨hpath, hts⟩ := ofJson_eq_ok_iff.mp hm
  obtain ⟨hall, heach⟩ := decodeTables_encodeTables hts
  have hagain : ofJson path (encodeTables m.tables) = .ok m :=
    ofJson_eq_ok_iff.mpr ⟨hpath, hall⟩
  refine ⟨hall, heach, fun t => ⟨isKept_of_decodeTable, decodeTable_encodeTable⟩,
    exists_fields_encodeColumn, ?_, ?_⟩
  · exact fun text' htext => parse_eq_ok_iff.mpr ⟨_, htext, hagain⟩
  · rw [hagain]
    rfl

theorem decodeTables_encodeTables_of_parse_columns :
    ∃ m, parse "m.json"
      "\x7b\"table\":\"t\",\"columns\":[\x7b\"name\":\"n\",\"type\":\"id\",\"default\":1\x7d]\x7d" =
        .ok m ∧ decodeTables (encodeTables m.tables) = .ok m.tables := by
  let one : Json := .integer 1 (by decide)
  let column : Json := .object [("default", one), ("name", .string "n"), ("type", .string "id")]
  let entry : ColumnEntry := { name := "n", kind := .id, default := one }
  have htext : Json.parse
      "\x7b\"table\":\"t\",\"columns\":[\x7b\"name\":\"n\",\"type\":\"id\",\"default\":1\x7d]\x7d" =
        .ok (.object [("columns", .array [column]), ("table", .string "t")]) := by
    with_unfolding_all rfl
  let m : Manifest := ⟨"m.json", [{ table := "t", columns := [entry] }]⟩
  have hparse := parse_eq_ok_iff.mpr ⟨_, htext, (ofJson_eq_ok_iff (m := m)).mpr ⟨rfl, rfl⟩⟩
  exact ⟨_, hparse, (decodeTables_encodeTables_of_parse hparse).1⟩

end SchemaPlan.Manifest
