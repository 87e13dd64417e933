import SchemaPlan.Column.Basic
import SchemaPlan.Column.Change

namespace SchemaPlan

/-- One change to a table that exists. An index, a unique constraint and the primary key are
dropped by the names derived for them. -/
inductive Command where
  | add (column : Column)
  | drop (columns : List String)
  | rename (old new : String)
  | modify (change : ColumnChange)
  | dropIndex (columns : List String)
  | dropUnique (columns : List String)
  | dropPrimary
deriving DecidableEq

inductive CommandKind where
  | add
  | drop
  | rename
  | modify
  | dropIndex
  | dropUnique
  | dropPrimary
deriving DecidableEq, Repr

namespace CommandKind

def label : CommandKind → String
  | .add => "add column"
  | .drop => "drop column"
  | .rename => "rename column"
  | .modify => "modify column"
  | .dropIndex => "drop index"
  | .dropUnique => "drop unique"
  | .dropPrimary => "drop primary"

end CommandKind

namespace Command

def kind : Command → CommandKind
  | .add _ => .add
  | .drop _ => .drop
  | .rename _ _ => .rename
  | .modify _ => .modify
  | .dropIndex _ => .dropIndex
  | .dropUnique _ => .dropUnique
  | .dropPrimary => .dropPrimary

end Command

end SchemaPlan
