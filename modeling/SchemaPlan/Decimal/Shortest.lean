import SchemaPlan.Decimal.Binary64

namespace SchemaPlan.Decimal

/-- The number `0.d₁d₂… · 10 ^ point`, with at least one digit. -/
structure Digits where
  lead : Char
  rest : List Char
  point : Int
deriving DecidableEq, Repr

namespace Digits

def toList (d : Digits) : List Char :=
  d.lead :: d.rest

end Digits

/-- Which of two texts is taken if the number lies halfway between them: the greater one, or the
one whose last digit is even. -/
inductive Tie where
  | up
  | even
deriving DecidableEq, Repr

namespace Shortest

/-- The numbers around `m · 2 ^ q` that round to it, as `low / den` to `high / den`, the number
itself being `mid / den`. The neighbour below a power of two is only half as far away. -/
structure Interval where
  low : Nat
  mid : Nat
  high : Nat
  den : Nat
  closed : Bool
deriving DecidableEq, Repr

def interval (m : Nat) (q : Int) : Interval :=
  let gap := if m = 0x10000000000000 ∧ -1074 < q then 1 else 2
  let (unit, den) := scale 1 4 (-q)
  ⟨(4 * m - gap) * unit, 4 * m * unit, (4 * m + 2) * unit, den, m % 2 == 0⟩

/-- Where the decimal point stands: `num / den` lies from `10 ^ (k - 1)` to `10 ^ k`. -/
def decimalPoint (num den : Nat) : Int :=
  if den ≤ num then (Nat.toDigits 10 (num / den)).length
  else 1 - ((Nat.toDigits 10 (den / num)).length : Int)

variable (tie : Tie) (i : Interval)

def Interval.holds (c num den : Nat) : Bool :=
  let here := c * num
  let low := i.low * den
  let high := i.high * den
  if i.closed then low ≤ here && here ≤ high else low < here && here < high

/-- The multiple of `10 ^ e` at or below the number or the next one above, whichever rounds to the
number. If both do, it is the nearer one. -/
def onGrid (e : Int) : Option Nat :=
  let num := Nat.pow 10 e.toNat * i.den
  let den := Nat.pow 10 (-e).toNat
  let t := i.mid * den / num
  let r := i.mid * den % num
  let below := 2 * r < num ∨ (2 * r = num ∧ tie = .even ∧ t % 2 = 0)
  match i.holds t num den, i.holds (t + 1) num den with
  | true, true => some (if below then t else t + 1)
  | true, false => some t
  | false, true => some (t + 1)
  | false, false => none

def trimZeros (cs : List Char) : List Char :=
  (cs.reverse.dropWhile (· == '0')).reverse

/-- The number `c · 10 ^ e`, without zeros at the end. -/
def digitsOf (c : Nat) (e : Int) : Digits :=
  match Nat.toDigits 10 c with
  | [] => ⟨'0', [], 1⟩
  | d :: ds => ⟨d, trimZeros ds, (d :: ds).length + e⟩

/-- The fewest digits that read back as `m · 2 ^ q`, on the coarsest of the grids with 1 to 17
digits that has any, and of those the nearest. -/
def shortest (tie : Tie) (m : Nat) (q : Int) : Digits :=
  let i := interval m q
  let point := decimalPoint i.mid i.den
  let found := (List.range 17).findSome? fun (n : Nat) =>
    let e := point - (n + 1)
    (onGrid tie i e).map (digitsOf · e)
  found.getD (digitsOf 0 0)

end Shortest

end SchemaPlan.Decimal
