import SchemaPlan.Json.Reader
import SchemaPlan.Manifest.Decode
import SchemaPlan.Manifest.Replay

namespace SchemaPlan

namespace Manifest

inductive Cause where
  | mismatch (m : Mismatch)
  | fault (table : String) (f : Fault)

structure Invalid where
  path : String
  cause : Cause

namespace Cause

def message : Cause → String
  | .mismatch m => m.message
  | .fault table f => "table '" ++ table ++ "': " ++ f.message

end Cause

namespace Invalid

def message (e : Invalid) : String :=
  "Invalid manifest '" ++ e.path ++ "': " ++ e.cause.message

end Invalid

inductive LoadError where
  | json (e : Json.ReadError)
  | invalid (e : Invalid)

def ofJson (path : String) (document : Json) : Except Invalid Manifest :=
  match decodeTables document with
  | .ok tables => .ok ⟨path, tables⟩
  | .error m => .error ⟨path, .mismatch m⟩

def parse (path text : String) : Except LoadError Manifest :=
  match Json.parse text with
  | .error e => .error (.json e)
  | .ok document => (ofJson path document).mapError .invalid

def blueprintOf (path : String) (t : TableEntry) : Except Invalid Blueprint :=
  t.blueprint.mapError fun f => ⟨path, .fault t.table f⟩

def blueprints (m : Manifest) : Except Invalid (List Blueprint) :=
  m.tables.mapM (blueprintOf m.path)

end Manifest

end SchemaPlan
