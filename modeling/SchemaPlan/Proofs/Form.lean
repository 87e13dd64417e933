import SchemaPlan.Manifest.Decode
import SchemaPlan.Proofs.Results

namespace SchemaPlan.Manifest.Form

variable {α β : Type} {f : Form α} {a b : α} {fields : List (String × Json)}

theorem assignAll_cons_of_assign {name : String} {v : Json} {c : α}
    (hname : f.fields.contains name = true) (hassign : f.assign name v a = .ok c)
    (hfields : f.assignAll fields c = .ok b) : f.assignAll ((name, v) :: fields) a = .ok b := by
  rw [assignAll, if_pos (List.contains_iff_mem.mp hname), hassign]
  exact hfields

theorem assignAll_cons {name : String} {v : Json} {g : β → α} {d : Decoded β} {x : β}
    (hname : f.fields.contains name = true)
    (hassign : f.assign name v a = do return g (← d)) (hd : d = .ok x)
    (hfields : f.assignAll fields (g x) = .ok b) :
    f.assignAll ((name, v) :: fields) a = .ok b := by
  refine assignAll_cons_of_assign hname ?_ hfields
  rw [hassign, hd]
  rfl

theorem ofObject_eq_ok
    (hrequired : f.required.find? (fun name => fields.all (·.1 ≠ name)) = none)
    (h : f.assignAll fields f.start = .ok b) : f.ofObject fields = .ok b := by
  refine bind_eq_ok_iff.mpr ⟨b, h, ?_⟩
  rw [hrequired]
  rfl

theorem exists_of_return {g : β → α} {d : Decoded β} (h : (do return g (← d)) = .ok b) :
    ∃ x, d = .ok x ∧ g x = b := by
  obtain ⟨x, hx, hb⟩ := bind_eq_ok_iff.mp h
  exact ⟨x, hx, Except.ok.inj hb⟩

/-- What reading a field keeps holds of all that is read. -/
theorem of_assignAll {P : α → Prop}
    (hassign : ∀ {name v a b}, P a → f.assign name v a = .ok b → P b) (ha : P a)
    (h : f.assignAll fields a = .ok b) : P b := by
  induction fields generalizing a with
  | nil =>
    cases h
    exact ha
  | cons field fields ih =>
    obtain ⟨name, v⟩ := field
    rw [assignAll] at h
    split at h
    · obtain ⟨c, hc, hfields⟩ := bind_eq_ok_iff.mp h
      exact ih (hassign ha hc) hfields
    · cases h

theorem assignAll_of_ofObject (h : f.ofObject fields = .ok b) :
    f.assignAll fields f.start = .ok b := by
  obtain ⟨a, ha, h⟩ := bind_eq_ok_iff.mp h
  split at h
  · cases h
  · cases h
    exact ha

theorem assignAll_of_ofArray {place : Place} {items : List Json}
    (h : f.ofArray place items = .ok b) :
    f.assignAll (f.fields.zip items) f.start = .ok b := by
  obtain ⟨a, ha, h⟩ := bind_eq_ok_iff.mp h
  dsimp only at h
  split at h
  · cases h
  · split at h
    · cases h
    · cases h
      exact ha

/-- The fields that a value gives a record: by their names, or by their places in declared order. -/
def given (f : Form α) : Json → List (String × Json)
  | .object fields => fields
  | .array items => f.fields.zip items
  | _ => []

theorem assignAll_given {place : Place} {v : Json} (h : f.decode place v = .ok b) :
    f.assignAll (f.given v) f.start = .ok b := by
  cases v with
  | object fields => exact assignAll_of_ofObject h
  | array items => exact assignAll_of_ofArray h
  | _ => cases h

theorem assign_of_assignAll (h : f.assignAll fields a = .ok b) :
    ∀ field ∈ fields, field.1 ∈ f.fields ∧ ∃ c d, f.assign field.1 field.2 c = .ok d := by
  induction fields generalizing a with
  | nil => exact List.forall_mem_nil _
  | cons field fields ih =>
    obtain ⟨name, v⟩ := field
    rw [assignAll] at h
    split at h
    · rename_i hname
      obtain ⟨c, hc, hfields⟩ := bind_eq_ok_iff.mp h
      exact List.forall_mem_cons.mpr ⟨⟨hname, a, c, hc⟩, ih hfields⟩
    · cases h

section Invariant

variable {P : α → Prop} (hassign : ∀ {name v a b}, P a → f.assign name v a = .ok b → P b)
  (hstart : P f.start)

include hassign hstart

theorem of_decode {place : Place} {v : Json} (h : f.decode place v = .ok b) : P b :=
  of_assignAll hassign hstart (assignAll_given h)

theorem of_ofBody {body : Body} (h : f.ofBody body = .ok b) : P b := by
  cases body with
  | named fields => exact of_assignAll hassign hstart (assignAll_of_ofObject h)
  | listed items =>
    have h : f.ofArray .command items = .ok b := h
    exact of_assignAll hassign hstart (assignAll_of_ofArray h)

end Invariant

end SchemaPlan.Manifest.Form

namespace SchemaPlan.Manifest

theorem decodeOption_of_ne_null {α : Type} {v : Json} (f : Json → Decoded α) (h : v ≠ .null) :
    decodeOption f v = some <$> f v := by
  cases v with
  | null => exact absurd rfl h
  | _ => rfl

section Command

variable {fields : List (String × Json)} {items : List Json} {tag : Json} {kind : CommandKind}

/-- Wherever the name of a command stands, the other fields are read as that command says. -/
theorem decodeCommand_named (op : fields.lookup "op" = some tag)
    (known : decodeCommandKind tag = .ok kind) :
    decodeCommand (.object fields) = decodeBody kind (.named (fields.filter (·.1 ≠ "op"))) := by
  unfold decodeCommand
  dsimp only
  rw [op]
  dsimp only
  rw [known]
  rfl

theorem decodeCommand_listed (known : decodeCommandKind tag = .ok kind) :
    decodeCommand (.array (tag :: items)) = decodeBody kind (.listed items) := by
  unfold decodeCommand
  dsimp only
  rw [known]
  rfl

end Command

end SchemaPlan.Manifest
