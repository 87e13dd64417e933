import SchemaPlan.Disk
import SchemaPlan.Manifest.Load
import SchemaPlan.Session.Basic

namespace SchemaPlan

inductive SchemaError where
  | compile (e : Unsupported)
  | execution (f : Failure)
  | invalid (e : Manifest.Invalid)
  | json (e : Json.ReadError)
  | file (e : FileError)

namespace SchemaError

def ofLoad : Manifest.LoadError → SchemaError
  | .json e => .json e
  | .invalid e => .invalid e

def ofApply : ApplyError → SchemaError
  | .compile e => .compile e
  | .execution f => .execution f

def message : SchemaError → String
  | .compile e => e.message
  | .execution f => f.message
  | .invalid e => e.message
  | .json e => "Serialization error: " ++ e.message
  | .file e => "IO error: " ++ e.message

def causes : SchemaError → List String
  | .compile _ | .invalid _ => []
  | .execution f => f.source.message :: f.source.causes
  | .json e => [e.message]
  | .file e => [e.message]

def failedPosition : SchemaError → Option Nat
  | .execution f => some f.position
  | _ => none

end SchemaError

end SchemaPlan
