import SchemaPlan.Decimal.Binary64

namespace SchemaPlan

open Decimal

/-- The whole numbers that are kept exactly: those of a signed or an unsigned 64-bit word. -/
abbrev IsWord (n : Int) : Prop :=
  -0x8000000000000000 ≤ n ∧ n < 0x10000000000000000

/-- A JSON value. The reader keeps the fields of an object in the order of their names, each name
once. -/
inductive Json where
  | null
  | bool (b : Bool)
  | integer (n : Int) (isWord : IsWord n)
  | float (x : Finite64)
  | string (s : String)
  | array (items : List Json)
  | object (fields : List (String × Json))

namespace Json

instance : Inhabited Json := ⟨.null⟩

def ofInt? (n : Int) : Option Json :=
  if h : IsWord n then some (.integer n h) else (Finite64.ofInt? n).map .float

/-- The fields with one more. A field of the same name is replaced. -/
def insert (name : String) (value : Json) : List (String × Json) → List (String × Json)
  | [] => [(name, value)]
  | (n, v) :: fields =>
    if name < n then (name, value) :: (n, v) :: fields
    else if name = n then (name, value) :: fields
    else (n, v) :: insert name value fields

end Json

end SchemaPlan
