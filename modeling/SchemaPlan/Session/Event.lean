import SchemaPlan.Dialect
import SchemaPlan.Blueprint.Basic
import SchemaPlan.Decimal.Numeral
import SchemaPlan.Text.Escaped

namespace SchemaPlan

inductive Operation where
  | create
  | alter
  | drop
  | rename
deriving DecidableEq, Repr

namespace Operation

def label : Operation → String
  | .create => "create"
  | .alter => "alter"
  | .drop => "drop"
  | .rename => "rename"

def ofMode : Mode → Operation
  | .create => .create
  | .alter => .alter

end Operation

inductive Event where
  | fallback (e : Dialect.Unknown)
  | ignoredCommands (table : String) (count : Nat)
  | ignoredDefinitions (table : String) (count : Nat)
  | applying (table : String) (op : Operation) (statements : Nat) (dryRun : Bool)
  | executing (sql : String)
  | failed (table : String) (op : Operation) (position : Nat) (error : String)
  | lookupFailed (table error : String)
  | dialectMismatch (connection grammar : Dialect)
  | loaded (path : String) (tables : Nat)
  | dryRunMode
  | applied (table : String) (statements : Nat)
  | dropped (table : String)
  | renamed (old new : String)
deriving DecidableEq, Repr

inductive Level where
  | error
  | warn
  | info
  | debug
deriving DecidableEq, Repr

namespace Level

def label : Level → String
  | .error => "ERROR"
  | .warn => "WARN"
  | .info => "INFO"
  | .debug => "DEBUG"

def severity : Level → Nat
  | .error => 3
  | .warn => 2
  | .info => 1
  | .debug => 0

end Level

/-- The value of an event's field. A quoted text is escaped in the log, a plain one is not. -/
inductive FieldValue where
  | plain (text : String)
  | quoted (text : String)
  | count (n : Nat)
  | flag (b : Bool)
deriving DecidableEq, Repr

namespace FieldValue

def logText : FieldValue → String
  | .plain text => text
  | .quoted text => Text.Escaped.quote text
  | .count n => Decimal.Numeral.ofNat n
  | .flag b => if b then "true" else "false"

end FieldValue

namespace Event

def level : Event → Level
  | .failed .. => .error
  | .fallback .. | .ignoredCommands .. | .ignoredDefinitions .. | .dialectMismatch .. => .warn
  | .applying .. | .loaded .. | .dryRunMode | .applied .. | .dropped .. | .renamed .. => .info
  | .executing .. | .lookupFailed .. => .debug

def message : Event → String
  | .fallback .. => "Falling back to the sqlite grammar"
  | .ignoredCommands .. => "Alter commands are ignored when creating a table"
  | .ignoredDefinitions .. => "Column and index definitions are ignored when altering a table"
  | .applying .. => "Applying schema change"
  | .executing .. => "Executing SQL"
  | .failed .. => "Statement failed"
  | .lookupFailed .. => "Table lookup failed, reporting it as missing"
  | .dialectMismatch .. => "Dialect does not match the database URL"
  | .loaded .. => "Loaded manifest"
  | .dryRunMode => "Dry run mode - SQL will be printed but not executed."
  | .applied .. => "Applied"
  | .dropped .. => "Table dropped"
  | .renamed .. => "Table renamed"

def fields : Event → List (String × FieldValue)
  | .fallback e => [("error", .plain e.message)]
  | .ignoredCommands table count => [("table", .quoted table), ("ignored", .count count)]
  | .ignoredDefinitions table count => [("table", .quoted table), ("ignored", .count count)]
  | .applying table op statements dryRun =>
    [("table", .quoted table), ("operation", .quoted op.label), ("statements", .count statements),
      ("dry_run", .flag dryRun)]
  | .executing sql => [("sql", .plain sql)]
  | .failed table op position error =>
    [("table", .quoted table), ("operation", .quoted op.label), ("position", .count position),
      ("error", .plain error)]
  | .lookupFailed table error => [("table", .quoted table), ("error", .plain error)]
  | .dialectMismatch connection grammar =>
    [("connection", .plain connection.name), ("grammar", .plain grammar.name)]
  | .loaded path tables => [("manifest", .plain path), ("tables", .count tables)]
  | .dryRunMode => []
  | .applied table statements => [("table", .quoted table), ("statements", .count statements)]
  | .dropped table => [("table", .plain table)]
  | .renamed old new => [("from", .plain old), ("to", .plain new)]

end Event

end SchemaPlan
