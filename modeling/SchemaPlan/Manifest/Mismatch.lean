import SchemaPlan.Json.Fault

namespace SchemaPlan.Manifest

open Decimal

inductive Mismatch where
  | wrongType (found : Json.Found) (expected : String)
  | outOfRange (n : Int) (expected : String)
  | notOneKey
  | wrongLength (n : Nat) (expected : String)
  | unknownField (name : String) (known : List String)
  | unknownVariant (name : String) (known : List String)
  | missingField (name : String)
  | unreadable (e : Json.ReadError)
deriving DecidableEq

namespace Mismatch

def ticked (name : String) : String :=
  "`" ++ name ++ "`"

def choice : List String → String
  | [a] => ticked a
  | [a, b] => ticked a ++ " or " ++ ticked b
  | names => "one of " ++ ", ".intercalate (names.map ticked)

def message : Mismatch → String
  | .wrongType found expected => "invalid type: " ++ found.text ++ ", expected " ++ expected
  | .outOfRange n expected =>
    "invalid value: " ++ (Json.Found.integer n).text ++ ", expected " ++ expected
  | .notOneKey => "invalid value: map, expected map with a single key"
  | .wrongLength n expected =>
    "invalid length " ++ Numeral.ofNat n ++ ", expected " ++ expected
  | .unknownField name known => "unknown field " ++ ticked name ++ ", expected " ++ choice known
  | .unknownVariant name known =>
    "unknown variant " ++ ticked name ++ ", expected " ++ choice known
  | .missingField name => "missing field " ++ ticked name
  | .unreadable e => e.message

end Mismatch

end SchemaPlan.Manifest
