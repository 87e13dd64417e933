import SchemaPlan.Decimal.Shortest

namespace SchemaPlan.Decimal

/-- How a binary64 number is written: which of two shortest texts is taken, from which to which
power of ten it has no exponent, and what closes a whole number. -/
structure Layout where
  tie : Tie
  positional : Int → Bool
  wholeEnd : List Char

namespace Layout

def zeros (n : Int) : List Char :=
  List.replicate n.toNat '0'

variable (l : Layout)

def writePositional (d : Digits) : List Char :=
  let digits := d.toList
  let count : Int := digits.length
  if d.point ≤ 0 then ['0', '.'] ++ zeros (-d.point) ++ digits
  else if count ≤ d.point then digits ++ zeros (d.point - count) ++ l.wholeEnd
  else digits.take d.point.toNat ++ '.' :: digits.drop d.point.toNat

/-- One digit before the point, and the sign of the exponent always shown. -/
def writeScientific (d : Digits) : List Char :=
  let e := d.point - 1
  let rest := if d.rest = [] then [] else '.' :: d.rest
  d.lead :: rest ++ 'e' :: (if e < 0 then '-' else '+') :: Nat.toDigits 10 e.natAbs

def writeMagnitude : Binary64.Magnitude → List Char
  | .nan => ['N', 'a', 'N']
  | .infinite => ['i', 'n', 'f']
  | .finite 0 _ => '0' :: l.wholeEnd
  | .finite m q =>
    let d := Shortest.shortest l.tie m q
    if l.positional (d.point - 1) then l.writePositional d else writeScientific d

/-- A sign stands before every negative number, also before zero, but not before a NaN. -/
def write (x : Binary64) : String :=
  let text := l.writeMagnitude x.magnitude
  String.ofList (if x.isNegative && x.magnitude != .nan then '-' :: text else text)

end Layout

end SchemaPlan.Decimal
