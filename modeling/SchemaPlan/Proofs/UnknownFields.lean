import SchemaPlan.Manifest.Load
import SchemaPlan.Proofs.Form

namespace SchemaPlan.Manifest

inductive EntryKind where
  | table
  | column (place : Place)
  | reference (place : Place)
  | index
  | command (kind : CommandKind)
deriving DecidableEq

def EntryKind.fields : EntryKind → List String
  | .table => ["table", "mode", "columns", "indexes", "commands"]
  | .column _ => ["name", "type", "length", "precision", "scale", "nullable", "default",
      "default_expr", "use_current", "unique", "index", "primary", "auto_increment", "unsigned",
      "comment", "references"]
  | .reference _ => ["table", "column", "on_delete", "on_update"]
  | .index => ["kind", "columns", "name"]
  | .command .add => ["op", "column"]
  | .command .rename => ["op", "from", "to"]
  | .command .modify =>
    ["op", "name", "type", "length", "precision", "scale", "nullable", "default"]
  | .command .drop | .command .dropIndex | .command .dropUnique => ["op", "columns"]
  | .command .dropPrimary => ["op"]

/-- The command that a value names, in its field for that or at the front of a list. -/
inductive IsCommand : Json → CommandKind → Prop
  | named {fields : List (String × Json)} {tag : Json} {kind : CommandKind}
      (op : fields.lookup "op" = some tag) (known : decodeCommandKind tag = .ok kind) :
      IsCommand (.object fields) kind
  | listed {tag : Json} {items : List Json} {kind : CommandKind}
      (known : decodeCommandKind tag = .ok kind) : IsCommand (.array (tag :: items)) kind

/-- The values of a document that are read as entries, at whatever depth and whatever stands beside
them. -/
inductive ReadIn (document : Json) : EntryKind → Json → Prop
  | single (alone : ∀ items, document ≠ .array items) : ReadIn document .table document
  | listed {items : List Json} {v : Json} (list : document = .array items) (mem : v ∈ items) :
      ReadIn document .table v
  | column {t c : Json} {items : List Json} (table : ReadIn document .table t)
      (field : ("columns", .array items) ∈ tableForm.given t) (mem : c ∈ items) :
      ReadIn document (.column .document) c
  | index {t i : Json} {items : List Json} (table : ReadIn document .table t)
      (field : ("indexes", .array items) ∈ tableForm.given t) (mem : i ∈ items) :
      ReadIn document .index i
  | command {t k : Json} {items : List Json} {kind : CommandKind}
      (table : ReadIn document .table t)
      (field : ("commands", .array items) ∈ tableForm.given t) (mem : k ∈ items)
      (name : IsCommand k kind) : ReadIn document (.command kind) k
  | addedNamed {fields : List (String × Json)} {c : Json}
      (add : ReadIn document (.command .add) (.object fields)) (field : ("column", c) ∈ fields) :
      ReadIn document (.column .command) c
  | addedListed {tag c : Json} {items : List Json}
      (add : ReadIn document (.command .add) (.array (tag :: c :: items))) :
      ReadIn document (.column .command) c
  | reference {place : Place} {c r : Json} (column : ReadIn document (.column place) c)
      (field : ("references", r) ∈ (columnForm place).given c) (given : r ≠ .null) :
      ReadIn document (.reference place) r

def EntryKind.Accepts : EntryKind → Json → Prop
  | .table, v => ∃ t, decodeTable v = .ok t
  | .column place, v => ∃ c, decodeColumn place v = .ok c
  | .reference place, v => ∃ r, decodeReference place v = .ok r
  | .index, v => ∃ i, indexForm.decode .document v = .ok i
  | .command kind, v => IsCommand v kind ∧ ∃ k, decodeCommand v = .ok k

section

variable {v w : Json} {place : Place}

theorem exists_of_mem_decodeList {α : Type} {f : Json → Decoded α} {items : List Json} {as : List α}
    (h : decodeList f (.array items) = .ok as) (hv : v ∈ items) : ∃ a, f v = .ok a := by
  have h : items.map f = as.map .ok := mapM_eq_ok_iff.mp h
  obtain ⟨a, -, ha⟩ := List.mem_map.mp (h ▸ List.mem_map_of_mem hv)
  exact ⟨a, ha.symm⟩

namespace Form

variable {α β : Type} {f : Form α} {a : α} {name : String}

theorem exists_of_mem_given {g : α → β → α} {d : Decoded β} (h : f.decode place v = .ok a)
    (hw : (name, w) ∈ f.given v)
    (hassign : ∀ c, f.assign name w c = do return g c (← d)) : ∃ x, d = .ok x := by
  obtain ⟨-, c, b, hb⟩ := assign_of_assignAll (assignAll_given h) _ hw
  rw [hassign] at hb
  obtain ⟨x, hx, -⟩ := exists_of_return hb
  exact ⟨x, hx⟩

theorem exists_of_mem_listed {g : Json → Decoded β} {s : α → List β → α} {items : List Json}
    (h : f.decode place v = .ok a) (hitems : (name, .array items) ∈ f.given v)
    (hassign : ∀ c, f.assign name (.array items) c = do return s c (← decodeList g (.array items)))
    (hw : w ∈ items) : ∃ x, g w = .ok x := by
  obtain ⟨as, has⟩ := exists_of_mem_given h hitems hassign
  exact exists_of_mem_decodeList has hw

theorem mem_fields_of_decode {fields : List (String × Json)}
    (h : f.decode place (.object fields) = .ok a) (hname : name ∈ fields.map Prod.fst) :
    name ∈ f.fields := by
  obtain ⟨field, hfield, rfl⟩ := List.mem_map.mp hname
  exact (assign_of_assignAll (assignAll_given h) field hfield).1

end Form

end

section Command

variable {fields : List (String × Json)} {c : Json} {kind : CommandKind} {k : CommandEntry}

theorem exists_column_of_add {a : ColumnEntry} (h : addForm.assignAll fields addForm.start = .ok a)
    (hc : ("column", c) ∈ fields) : ∃ e, decodeColumn .command c = .ok e := by
  obtain ⟨_, _, e, he⟩ := Form.assign_of_assignAll h _ hc
  exact ⟨e, he⟩

theorem mem_fields_of_map {α : Type} {f : Form α} {g : α → CommandEntry} {name : String}
    (h : g <$> f.ofBody (.named fields) = .ok k) (hname : name ∈ fields.map Prod.fst) :
    name ∈ f.fields := by
  obtain ⟨a, ha, -⟩ := map_eq_ok_iff.mp h
  have ha : f.decode .command (.object fields) = .ok a := ha
  exact Form.mem_fields_of_decode ha hname

/-- Only dropping the primary key passes over the fields that it does not have. -/
theorem mem_fields_of_decodeBody {name : String} (hkind : kind ≠ .dropPrimary)
    (h : decodeBody kind (.named fields) = .ok k) (hname : name ∈ fields.map Prod.fst) :
    name ∈ EntryKind.fields (.command kind) := by
  cases kind with
  | dropPrimary => exact absurd rfl hkind
  | _ => exact List.mem_cons_of_mem "op" (mem_fields_of_map h hname)

theorem mem_fields_of_decodeCommand {name : String} (hname : name ∈ fields.map Prod.fst)
    (hcommand : IsCommand (.object fields) kind) (hkind : kind ≠ .dropPrimary)
    (h : decodeCommand (.object fields) = .ok k) : name ∈ EntryKind.fields (.command kind) := by
  cases hcommand with
  | named op known =>
    rw [decodeCommand_named op known] at h
    by_cases hop : name = "op"
    · subst hop
      cases kind <;> exact List.mem_cons_self
    · obtain ⟨field, hfield, rfl⟩ := List.mem_map.mp hname
      have hrest : field ∈ fields.filter (·.1 ≠ "op") :=
        List.mem_filter.mpr ⟨hfield, by simpa using hop⟩
      exact mem_fields_of_decodeBody hkind h (List.mem_map_of_mem hrest)

end Command

/-- In a document without a fault, whatever is read as an entry is read without one. -/
theorem accepts_of_readIn {document v : Json} {e : EntryKind} {ts : List TableEntry}
    (h : decodeTables document = .ok ts) (hv : ReadIn document e v) : e.Accepts v := by
  -- From an entry to those inside it: what holds a value is not read unless the value is.
  induction hv with
  | single alone =>
    have hone : (fun t => [t]) <$> decodeTable document = .ok ts := by
      unfold decodeTables at h
      split at h
      · exact absurd rfl (alone _)
      · exact h
    obtain ⟨t, ht, -⟩ := map_eq_ok_iff.mp hone
    exact ⟨t, ht⟩
  | @listed items v list mem =>
    subst list
    have h : decodeList decodeTable (.array items) = .ok ts := h
    exact exists_of_mem_decodeList h mem
  | column _ field mem ih =>
    obtain ⟨t, ht⟩ := ih
    exact Form.exists_of_mem_listed ht field (fun _ => rfl) mem
  | index _ field mem ih =>
    obtain ⟨t, ht⟩ := ih
    exact Form.exists_of_mem_listed ht field (fun _ => rfl) mem
  | command _ field mem name ih =>
    obtain ⟨t, ht⟩ := ih
    exact ⟨name, Form.exists_of_mem_listed ht field (fun _ => rfl) mem⟩
  | @addedNamed fields c _ field ih =>
    obtain ⟨hname, k, hk⟩ := ih
    cases hname with
    | named op known =>
      rw [decodeCommand_named op known] at hk
      obtain ⟨a, ha, -⟩ := map_eq_ok_iff.mp hk
      have hrest : ("column", c) ∈ fields.filter (·.1 ≠ "op") :=
        List.mem_filter.mpr ⟨field, by simp⟩
      exact exists_column_of_add (Form.assignAll_of_ofObject ha) hrest
  | addedListed _ ih =>
    obtain ⟨hname, k, hk⟩ := ih
    cases hname with
    | listed known =>
      rw [decodeCommand_listed known] at hk
      obtain ⟨a, ha, -⟩ := map_eq_ok_iff.mp hk
      have ha : addForm.ofArray .command _ = .ok a := ha
      exact exists_column_of_add (Form.assignAll_of_ofArray ha) List.mem_cons_self
  | reference _ field given ih =>
    obtain ⟨a, ha⟩ := ih
    obtain ⟨o, ho⟩ := Form.exists_of_mem_given ha field fun _ => rfl
    rw [decodeOption_of_ne_null _ given] at ho
    obtain ⟨r, hr, -⟩ := map_eq_ok_iff.mp ho
    exact ⟨r, hr⟩

/-- All that an entry of an accepted document holds by name is a field of it, except where the
primary key is dropped. -/
theorem mem_fields_of_readIn {document : Json} {e : EntryKind} {ts : List TableEntry}
    {fields : List (String × Json)} {name : String} (h : decodeTables document = .ok ts)
    (hv : ReadIn document e (.object fields)) (he : e ≠ .command .dropPrimary)
    (hname : name ∈ fields.map Prod.fst) : name ∈ e.fields := by
  have haccepts := accepts_of_readIn h hv
  cases e with
  | table =>
    obtain ⟨t, ht⟩ := haccepts
    exact Form.mem_fields_of_decode ht hname
  | column place =>
    obtain ⟨c, hc⟩ := haccepts
    exact Form.mem_fields_of_decode hc hname
  | reference place =>
    obtain ⟨r, hr⟩ := haccepts
    exact Form.mem_fields_of_decode hr hname
  | index =>
    obtain ⟨i, hi⟩ := haccepts
    exact Form.mem_fields_of_decode hi hname
  | command kind =>
    obtain ⟨hcommand, k, hk⟩ := haccepts
    exact mem_fields_of_decodeCommand hname hcommand (fun hkind => he (hkind ▸ rfl)) hk

/-- No document is accepted in which an entry of this kind holds a field that it does not have. -/
def EntryKind.RefusesUnknown (e : EntryKind) : Prop :=
  ∀ (path text : String) (document : Json) (fields : List (String × Json)),
    Json.parse text = .ok document → ReadIn document e (.object fields) →
      (∃ name ∈ fields.map Prod.fst, name ∉ e.fields) →
        ∃ m, parse path text = .error (.invalid ⟨path, .mismatch m⟩)

theorem refusesUnknown_of_ne {e : EntryKind} (he : e ≠ .command .dropPrimary) :
    e.RefusesUnknown := by
  rintro path text document fields htext hread ⟨name, hname, hunknown⟩
  cases hdocument : decodeTables document with
  | ok ts => exact absurd (mem_fields_of_readIn hdocument hread he hname) hunknown
  | error m =>
    refine ⟨m, ?_⟩
    unfold parse ofJson
    rw [htext]
    dsimp only
    rw [hdocument]
    rfl

def cascadeFields : List (String × Json) :=
  [("cascade", .bool true), ("op", .string "drop_primary")]

def cascadeDocument : Json :=
  .object [("commands", .array [.object cascadeFields]), ("mode", .string "alter"),
    ("table", .string "t")]

def cascadeText : String :=
  "\x7b\"table\":\"t\",\"mode\":\"alter\"," ++
    "\"commands\":[\x7b\"op\":\"drop_primary\",\"cascade\":true\x7d]\x7d"

theorem readIn_cascadeDocument :
    ReadIn cascadeDocument (.command .dropPrimary) (.object cascadeFields) := by
  have htable : ReadIn cascadeDocument .table cascadeDocument := .single fun _ => Json.noConfusion
  exact .command htable List.mem_cons_self List.mem_cons_self (.named rfl rfl)

theorem not_refusesUnknown_dropPrimary : ¬(EntryKind.command .dropPrimary).RefusesUnknown := by
  intro h
  have htext : Json.parse cascadeText = .ok cascadeDocument := by cbv
  have hparse : parse "m.json" cascadeText =
      .ok ⟨"m.json", [{ table := "t", mode := .alter, commands := [.dropPrimary] }]⟩ := by
    rw [parse, htext]
    rfl
  obtain ⟨m, hm⟩ := h "m.json" cascadeText cascadeDocument cascadeFields htext
    readIn_cascadeDocument ⟨"cascade", by decide, by decide⟩
  rw [hparse] at hm
  cases hm

/-- A field that is unknown is refused wherever its entry stands, unless that entry drops the
primary key. Such a command is read as if it held nothing but its name. -/
theorem refusesUnknown_iff (e : EntryKind) :
    (e.RefusesUnknown ↔ e ≠ .command .dropPrimary) ∧
      ∀ fields, IsCommand (.object fields) .dropPrimary →
        decodeCommand (.object fields) = .ok .dropPrimary := by
  refine ⟨⟨?_, refusesUnknown_of_ne⟩, fun fields h => ?_⟩
  · rintro h rfl
    exact not_refusesUnknown_dropPrimary h
  · cases h with
    | named op known => exact decodeCommand_named op known

theorem not_refusesUnknown : ¬∀ e : EntryKind, e.RefusesUnknown := fun h =>
  not_refusesUnknown_dropPrimary (h (.command .dropPrimary))

end SchemaPlan.Manifest
