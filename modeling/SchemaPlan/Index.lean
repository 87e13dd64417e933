namespace SchemaPlan

inductive IndexKind where
  | primary
  | unique
  | index
deriving DecidableEq, Repr

structure Index where
  kind : IndexKind
  columns : List String
  name : Option String := none
deriving DecidableEq, Repr

def underscored : List String → String
  | [] => ""
  | part :: parts => part ++ "_" ++ underscored parts

/-- The name of an index that was given none: its table, its columns and its kind. -/
def derivedName (table : String) (columns : List String) (suffix : String) : String :=
  underscored (table :: columns) ++ suffix

namespace IndexKind

def suffix : IndexKind → String
  | .primary => "primary"
  | .unique => "unique"
  | .index => "index"

end IndexKind

namespace Index

def nameFor (i : Index) (table : String) : String :=
  i.name.getD (derivedName table i.columns i.kind.suffix)

end Index

end SchemaPlan
