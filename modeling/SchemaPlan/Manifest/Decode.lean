import SchemaPlan.Json.Reader
import SchemaPlan.Manifest.Names
import SchemaPlan.Manifest.Mismatch

namespace SchemaPlan.Manifest

abbrev Decoded (α : Type) := Except Mismatch α

/-- Where a value stands: directly in the document, or inside a command, whose fields are read only
once its name is known. Inside a command a sequence that is too long is refused in other words, and
an empty object may stand for nothing. -/
inductive Place where
  | document
  | command
deriving DecidableEq, Repr

def wrongType (v : Json) (expected : String) : Mismatch :=
  .wrongType (.ofJson v) expected

def decodeString : Json → Decoded String
  | .string s => .ok s
  | v => .error (wrongType v "a string")

def decodeBool : Json → Decoded Bool
  | .bool b => .ok b
  | v => .error (wrongType v "a boolean")

def decodeU32 : Json → Decoded UInt32
  | .integer n _ =>
    if 0 ≤ n ∧ n < UInt32.size then .ok (.ofNat n.toNat) else .error (.outOfRange n "u32")
  | v => .error (wrongType v "u32")

def decodeU16 : Json → Decoded UInt16
  | .integer n _ =>
    if 0 ≤ n ∧ n < UInt16.size then .ok (.ofNat n.toNat) else .error (.outOfRange n "u16")
  | v => .error (wrongType v "u16")

/-- A value that may be absent, which a null says too. -/
def decodeOption (f : Json → Decoded α) : Json → Decoded (Option α)
  | .null => .ok none
  | v => some <$> f v

/-- Why an object of so many fields is refused that begins with the field for embedding: the reader
has put the values in place that it found so, but of this object it was not the first field. -/
def lateEmbedding (place : Place) (fields : Nat) : Json → Mismatch
  | .string text =>
    match Json.parse text with
    | .error e => .unreadable e
    | .ok _ =>
      .wrongLength fields (match place with
        | .document => "fewer elements in map"
        | .command => "1 element in map")
  | v => wrongType v "raw value"

mutual

/-- Refuses the objects in a value that begin with the field for embedding, in the order of their
fields. -/
def refuseEmbeddings (place : Place) : Json → Decoded Unit
  | .array items => refuseInItems place items
  | .object [] => .ok ()
  | .object ((name, v) :: fields) =>
    if name = Json.embeddingName then .error (lateEmbedding place (fields.length + 1) v)
    else do
      refuseEmbeddings place v
      refuseInFields place fields
  | _ => .ok ()

def refuseInItems (place : Place) : List Json → Decoded Unit
  | [] => .ok ()
  | v :: items => do
    refuseEmbeddings place v
    refuseInItems place items

def refuseInFields (place : Place) : List (String × Json) → Decoded Unit
  | [] => .ok ()
  | (_, v) :: fields => do
    refuseEmbeddings place v
    refuseInFields place fields

end

def decodeAny (place : Place) (v : Json) : Decoded Json := do
  refuseEmbeddings place v
  pure v

def decodeList (f : Json → Decoded α) : Json → Decoded (List α)
  | .array items => items.mapM f
  | v => .error (wrongType v "a sequence")

def lookupVariant (names : Names α) (name : String) : Decoded α :=
  match names.lookup name with
  | some a => .ok a
  | none => .error (.unknownVariant name (names.map Prod.fst))

def decodeUnit (place : Place) : Json → Decoded Unit
  | .null => .ok ()
  | .object [] =>
    if place = .command then .ok () else .error (wrongType (.object []) "unit")
  | v => .error (wrongType v "unit")

/-- One name out of several, as a string or as the only key of an object. -/
def decodeEnum (names : Names α) (place : Place) : Json → Decoded α
  | .string s => lookupVariant names s
  | .object [(name, v)] => do
    let a ← lookupVariant names name
    decodeUnit place v
    pure a
  | .object _ => .error .notOneKey
  | v => .error (wrongType v "string or map")

def countText (n : Nat) : String :=
  Decimal.Numeral.ofNat n ++ if n = 1 then " element" else " elements"

/-- How a record is read, field by field. The required fields come first in declared order, and
`start` holds what the others are if absent. -/
structure Form (α : Type) where
  expected : String
  required : List String
  optional : List String
  start : α
  assign : String → Json → α → Decoded α

namespace Form

variable {α : Type} (f : Form α)

def fields : List String :=
  f.required ++ f.optional

def assignAll : List (String × Json) → α → Decoded α
  | [], a => .ok a
  | (name, v) :: rest, a =>
    if name ∈ f.fields then do
      let a ← f.assign name v a
      assignAll rest a
    else .error (.unknownField name f.fields)

/-- A record from its named fields: the first fault among those that are there, else the first
required field that is not there. -/
def ofObject (fields : List (String × Json)) : Decoded α := do
  let a ← f.assignAll fields f.start
  match f.required.find? fun name => fields.all (·.1 ≠ name) with
  | some name => .error (.missingField name)
  | none => pure a

/-- A record from its fields in declared order, of which the last ones may be left out. -/
def ofArray (place : Place) (items : List Json) : Decoded α := do
  let a ← f.assignAll (f.fields.zip items) f.start
  let n := items.length
  if n < f.required.length then
    .error (.wrongLength n (f.expected ++ " with " ++ countText f.fields.length))
  else if f.fields.length < n then
    .error (.wrongLength n (match place with
      | .document => "fewer elements in array"
      | .command => countText f.fields.length ++ " in sequence"))
  else pure a

def decode (place : Place) : Json → Decoded α
  | .object fields => f.ofObject fields
  | .array items => f.ofArray place items
  | v => .error (wrongType v f.expected)

end Form

def referenceForm (place : Place) : Form Reference where
  expected := "struct ReferenceManifest"
  required := ["table"]
  optional := ["column", "on_delete", "on_update"]
  start := { table := "", column := "id" }
  assign name v r := match name with
    | "table" => return { r with table := ← decodeString v }
    | "column" => return { r with column := ← decodeString v }
    | "on_delete" =>
      return { r with onDelete := ← decodeOption (decodeEnum actionNames place) v }
    | "on_update" =>
      return { r with onUpdate := ← decodeOption (decodeEnum actionNames place) v }
    | _ => pure r

def decodeReference (place : Place) : Json → Decoded Reference :=
  (referenceForm place).decode place

def columnForm (place : Place) : Form ColumnEntry where
  expected := "struct ColumnManifest"
  required := ["name", "type"]
  optional := ["length", "precision", "scale", "nullable", "default", "default_expr",
    "use_current", "unique", "index", "primary", "auto_increment", "unsigned", "comment",
    "references"]
  start := { name := "", kind := .id }
  assign name v c := match name with
    | "name" => return { c with name := ← decodeString v }
    | "type" => return { c with kind := ← decodeEnum columnKindNames place v }
    | "length" => return { c with length := ← decodeOption decodeU32 v }
    | "precision" => return { c with precision := ← decodeOption decodeU16 v }
    | "scale" => return { c with scale := ← decodeOption decodeU16 v }
    | "nullable" => return { c with nullable := ← decodeBool v }
    | "default" => return { c with default := ← decodeOption (decodeAny place) v }
    | "default_expr" => return { c with defaultExpr := ← decodeOption decodeString v }
    | "use_current" => return { c with useCurrent := ← decodeBool v }
    | "unique" => return { c with unique := ← decodeBool v }
    | "index" => return { c with index := ← decodeBool v }
    | "primary" => return { c with primary := ← decodeBool v }
    | "auto_increment" => return { c with autoIncrement := ← decodeBool v }
    | "unsigned" => return { c with unsigned := ← decodeBool v }
    | "comment" => return { c with comment := ← decodeOption decodeString v }
    | "references" =>
      return { c with references := ← decodeOption (decodeReference place) v }
    | _ => pure c

def decodeColumn (place : Place) : Json → Decoded ColumnEntry :=
  (columnForm place).decode place

def indexForm : Form IndexEntry where
  expected := "struct IndexManifest"
  required := ["kind", "columns"]
  optional := ["name"]
  start := { kind := .index, columns := [] }
  assign name v i := match name with
    | "kind" => return { i with kind := ← decodeEnum indexKindNames .document v }
    | "columns" => return { i with columns := ← decodeList decodeString v }
    | "name" => return { i with name := ← decodeOption decodeString v }
    | _ => pure i

def addForm : Form ColumnEntry where
  expected := "struct variant CommandManifest::Add"
  required := ["column"]
  optional := []
  start := (columnForm .command).start
  assign name v c := match name with
    | "column" => decodeColumn .command v
    | _ => pure c

def columnsForm (title : String) : Form (List String) where
  expected := "struct variant CommandManifest::" ++ title
  required := ["columns"]
  optional := []
  start := []
  assign name v columns := match name with
    | "columns" => decodeList decodeString v
    | _ => pure columns

def renameForm : Form (String × String) where
  expected := "struct variant CommandManifest::Rename"
  required := ["from", "to"]
  optional := []
  start := ("", "")
  assign name v r := match name with
    | "from" => return (← decodeString v, r.2)
    | "to" => return (r.1, ← decodeString v)
    | _ => pure r

def modifyForm : Form ModifyEntry where
  expected := "struct variant CommandManifest::Modify"
  required := ["name"]
  optional := ["type", "length", "precision", "scale", "nullable", "default"]
  start := { name := "" }
  assign name v m := match name with
    | "name" => return { m with name := ← decodeString v }
    | "type" => return { m with kind := ← decodeOption (decodeEnum columnKindNames .command) v }
    | "length" => return { m with length := ← decodeOption decodeU32 v }
    | "precision" => return { m with precision := ← decodeOption decodeU16 v }
    | "scale" => return { m with scale := ← decodeOption decodeU16 v }
    | "nullable" => return { m with nullable := ← decodeBool v }
    | "default" => return { m with default := ← decodeOption (decodeAny .command) v }
    | _ => pure m

def bareForm (title : String) : Form Unit where
  expected := "unit variant CommandManifest::" ++ title
  required := []
  optional := []
  start := ()
  assign _ _ _ := pure ()

inductive Body where
  | named (fields : List (String × Json))
  | listed (items : List Json)

def Form.ofBody (f : Form α) : Body → Decoded α
  | .named fields => f.ofObject fields
  | .listed items => f.ofArray .command items

/-- Dropping the primary key takes no fields, and named ones are passed over. -/
def decodeBody : CommandKind → Body → Decoded CommandEntry
  | .add, body => .add <$> addForm.ofBody body
  | .drop, body => .drop <$> (columnsForm "Drop").ofBody body
  | .rename, body => (fun (old, new) => .rename old new) <$> renameForm.ofBody body
  | .modify, body => .modify <$> modifyForm.ofBody body
  | .dropIndex, body => .dropIndex <$> (columnsForm "DropIndex").ofBody body
  | .dropUnique, body => .dropUnique <$> (columnsForm "DropUnique").ofBody body
  | .dropPrimary, .named _ => pure .dropPrimary
  | .dropPrimary, .listed items =>
    (fun _ => .dropPrimary) <$> (bareForm "DropPrimary").ofArray .command items

def decodeCommandKind : Json → Decoded CommandKind
  | .string s => lookupVariant commandNames s
  | v => .error (wrongType v "variant identifier")

def decodeCommand : Json → Decoded CommandEntry
  | .object fields =>
    match fields.lookup "op" with
    | none => .error (.missingField "op")
    | some tag => do
      let kind ← decodeCommandKind tag
      decodeBody kind (.named (fields.filter (·.1 ≠ "op")))
  | .array [] => .error (.missingField "op")
  | .array (tag :: items) => do
    let kind ← decodeCommandKind tag
    decodeBody kind (.listed items)
  | v => .error (wrongType v "internally tagged enum CommandManifest")

def tableForm : Form TableEntry where
  expected := "struct TableManifest"
  required := ["table"]
  optional := ["mode", "columns", "indexes", "commands"]
  start := { table := "" }
  assign name v t := match name with
    | "table" => return { t with table := ← decodeString v }
    | "mode" => return { t with mode := ← decodeEnum modeNames .document v }
    | "columns" => return { t with columns := ← decodeList (decodeColumn .document) v }
    | "indexes" => return { t with indexes := ← decodeList (indexForm.decode .document) v }
    | "commands" => return { t with commands := ← decodeList decodeCommand v }
    | _ => pure t

def decodeTable : Json → Decoded TableEntry :=
  tableForm.decode .document

/-- An array is a list of tables, anything else is one table. -/
def decodeTables : Json → Decoded (List TableEntry)
  | .array items => items.mapM decodeTable
  | v => (fun t => [t]) <$> decodeTable v

end SchemaPlan.Manifest
