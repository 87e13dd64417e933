import SchemaPlan.Manifest.Basic

namespace SchemaPlan.Manifest

/-- The words of a manifest for the values of an enumeration, in declared order. -/
abbrev Names (α : Type) := List (String × α)

def modeNames : Names Mode :=
  [("create", .create), ("alter", .alter)]

def columnKindNames : Names ColumnKind :=
  [("id", .id), ("increments", .increments), ("big_increments", .bigIncrements),
    ("string", .string), ("text", .text), ("integer", .integer), ("big_integer", .bigInteger),
    ("boolean", .boolean), ("decimal", .decimal), ("float", .float), ("date_time", .dateTime),
    ("timestamp", .timestamp), ("foreign_id", .foreignId)]

def actionNames : Names ReferentialAction :=
  [("no_action", .noAction), ("restrict", .restrict), ("cascade", .cascade),
    ("set_null", .setNull), ("set_default", .setDefault)]

def indexKindNames : Names IndexKind :=
  [("primary", .primary), ("unique", .unique), ("index", .index)]

def commandNames : Names CommandKind :=
  [("add", .add), ("drop", .drop), ("rename", .rename), ("modify", .modify),
    ("drop_index", .dropIndex), ("drop_unique", .dropUnique), ("drop_primary", .dropPrimary)]

def wordFor [DecidableEq α] (names : Names α) (a : α) : String :=
  ((names.find? (·.2 = a)).map Prod.fst).getD ""

end SchemaPlan.Manifest
