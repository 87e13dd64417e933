import SchemaPlan.Manifest.Names

namespace SchemaPlan.Manifest

def encodeOption (f : α → Json) : Option α → Json
  | none => .null
  | some a => f a

def encodeWord (n : Nat) (h : n < 0x10000000000000000) : Json :=
  .integer n (by omega)

def encodeU32 (n : UInt32) : Json :=
  encodeWord n.toNat (by have := n.toNat_lt; omega)

def encodeU16 (n : UInt16) : Json :=
  encodeWord n.toNat (by have := n.toNat_lt; omega)

def encodeEnum [DecidableEq α] (names : Names α) (a : α) : Json :=
  .string (wordFor names a)

def encodeStrings (strings : List String) : Json :=
  .array (strings.map .string)

def encodeReference (r : Reference) : Json :=
  .object [
    ("column", .string r.column),
    ("on_delete", encodeOption (encodeEnum actionNames) r.onDelete),
    ("on_update", encodeOption (encodeEnum actionNames) r.onUpdate),
    ("table", .string r.table)]

def encodeColumn (c : ColumnEntry) : Json :=
  .object [
    ("auto_increment", .bool c.autoIncrement),
    ("comment", encodeOption .string c.comment),
    ("default", encodeOption id c.default),
    ("default_expr", encodeOption .string c.defaultExpr),
    ("index", .bool c.index),
    ("length", encodeOption encodeU32 c.length),
    ("name", .string c.name),
    ("nullable", .bool c.nullable),
    ("precision", encodeOption encodeU16 c.precision),
    ("primary", .bool c.primary),
    ("references", encodeOption encodeReference c.references),
    ("scale", encodeOption encodeU16 c.scale),
    ("type", encodeEnum columnKindNames c.kind),
    ("unique", .bool c.unique),
    ("unsigned", .bool c.unsigned),
    ("use_current", .bool c.useCurrent)]

def encodeIndex (i : IndexEntry) : Json :=
  .object [
    ("columns", encodeStrings i.columns),
    ("kind", encodeEnum indexKindNames i.kind),
    ("name", encodeOption .string i.name)]

def encodeKind (k : CommandKind) : String × Json :=
  ("op", encodeEnum commandNames k)

def encodeCommand : CommandEntry → Json
  | .add c => .object [("column", encodeColumn c), encodeKind .add]
  | .drop columns => .object [("columns", encodeStrings columns), encodeKind .drop]
  | .rename old new =>
    .object [("from", .string old), encodeKind .rename, ("to", .string new)]
  | .modify m => .object [
    ("default", encodeOption id m.default),
    ("length", encodeOption encodeU32 m.length),
    ("name", .string m.name),
    ("nullable", .bool m.nullable),
    encodeKind .modify,
    ("precision", encodeOption encodeU16 m.precision),
    ("scale", encodeOption encodeU16 m.scale),
    ("type", encodeOption (encodeEnum columnKindNames) m.kind)]
  | .dropIndex columns => .object [("columns", encodeStrings columns), encodeKind .dropIndex]
  | .dropUnique columns => .object [("columns", encodeStrings columns), encodeKind .dropUnique]
  | .dropPrimary => .object [encodeKind .dropPrimary]

/-- A table with all its fields, an absent one as null, in the order of their names. -/
def encodeTable (t : TableEntry) : Json :=
  .object [
    ("columns", .array (t.columns.map encodeColumn)),
    ("commands", .array (t.commands.map encodeCommand)),
    ("indexes", .array (t.indexes.map encodeIndex)),
    ("mode", encodeEnum modeNames t.mode),
    ("table", .string t.table)]

def encodeTables (ts : List TableEntry) : Json :=
  .array (ts.map encodeTable)

end SchemaPlan.Manifest
