import SchemaPlan.Blueprint.Basic

namespace SchemaPlan

/-- The columns of the key that is written for the table as a whole or, if it is one column that
only its own flag names, beside that column. -/
structure Key where
  columns : List String
  fromDefinition : Bool
deriving DecidableEq, Repr

namespace Key

def isTableLevel (k : Key) : Bool :=
  1 < k.columns.length || k.fromDefinition

end Key

namespace Blueprint

variable (b : Blueprint)

def serialNames : List String :=
  (b.columns.filter Column.isSerial).map Column.name

/-- The columns flagged as key, without the serial ones: these carry a key of their own. -/
def flaggedNames : List String :=
  (b.columns.filter fun c => c.primary && !c.isSerial).map Column.name

def definedNames : List String :=
  ((b.indexes.filter (·.kind = .primary)).flatMap Index.columns).filter (· ∉ b.serialNames)

def addMissing (names : List String) (name : String) : List String :=
  if name ∈ names then names else names ++ [name]

/-- The flagged columns in declared order, then the defined ones in order of first mention. -/
def key : Key where
  columns := b.definedNames.foldl addMissing b.flaggedNames
  fromDefinition := !b.definedNames.isEmpty

end Blueprint

end SchemaPlan
