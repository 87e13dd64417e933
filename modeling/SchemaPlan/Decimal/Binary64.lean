namespace SchemaPlan.Decimal

/-- A binary64 number, as the 64 bits that encode it: two numbers are the same only if all bits
agree, so `-0` differs from `0` and a NaN equals itself. -/
structure Binary64 where
  bits : UInt64
deriving DecidableEq, Repr

namespace Binary64

/-- What the bits stand for, the sign apart: `m · 2 ^ q` if finite. -/
inductive Magnitude where
  | nan
  | infinite
  | finite (m : Nat) (q : Int)
deriving DecidableEq, Repr

variable (x : Binary64)

def isNegative : Bool :=
  x.bits.toNat / 0x8000000000000000 == 1

def exponentField : Nat :=
  x.bits.toNat / 0x10000000000000 % 0x800

def fraction : Nat :=
  x.bits.toNat % 0x10000000000000

def isFinite : Bool :=
  x.exponentField != 0x7FF

def magnitude : Magnitude :=
  if x.exponentField = 0x7FF then
    if x.fraction = 0 then .infinite else .nan
  else if x.exponentField = 0 then .finite x.fraction (-1074)
  else .finite (0x10000000000000 + x.fraction) (x.exponentField - 1075)

end Binary64

structure Finite64 where
  val : Binary64
  isFinite : val.isFinite = true
deriving DecidableEq

def roundHalfEven (num den : Nat) : Nat :=
  let t := num / den
  let r := num % den
  if den < 2 * r ∨ (2 * r = den ∧ t % 2 = 1) then t + 1 else t

/-- `num / den` as a quotient of whole numbers after division by `2 ^ q`. -/
def scale (num den : Nat) (q : Int) : Nat × Nat :=
  if 0 ≤ q then (num, den * Nat.pow 2 q.toNat) else (num * Nat.pow 2 (-q).toNat, den)

/-- The exponent at which `num / den` has 53 binary digits before the point, or the least exponent
of all if it has fewer there. -/
def binaryExponent (num den : Nat) : Int :=
  if num = 0 then -1074
  else
    let q := max ((num.log2 : Int) - den.log2 - 53) (-1074)
    let (n, d) := scale num den q
    if n / d < 0x20000000000000 then q else q + 1

/-- The encoding of the magnitude nearest to `num / den`. A carry out of the 53 digits moves into
the exponent field by itself. -/
def nearestBits (num den : Nat) : Nat :=
  let q := binaryExponent num den
  let (n, d) := scale num den q
  (q + 1074).toNat * 0x10000000000000 + roundHalfEven n d

abbrev infinityBits : Nat := 0x7FF0000000000000

namespace Finite64

theorem isFinite_ofBits (negative : Bool) {n : Nat} (h : n < infinityBits) :
    (Binary64.mk (.ofNat (negative.toNat * 0x8000000000000000 + n))).isFinite = true := by
  unfold infinityBits at h
  cases negative <;>
    simp [Binary64.isFinite, Binary64.exponentField] <;> omega

def ofBits (negative : Bool) (n : Nat) (h : n < infinityBits) : Finite64 :=
  ⟨_, isFinite_ofBits negative h⟩

def zero (negative : Bool) : Finite64 :=
  ofBits negative 0 (by decide)

def ofRatio? (negative : Bool) (num den : Nat) : Option Finite64 :=
  let n := nearestBits num den
  if h : n < infinityBits then some (ofBits negative n h) else none

def ofInt? (n : Int) : Option Finite64 :=
  ofRatio? (n < 0) n.natAbs 1

/-- The number nearest to `digits · 10 ^ e`. From `10 ^ 310` on every decimal is out of range, and
below `10 ^ -330` every decimal rounds to zero. -/
def ofDecimal? (negative : Bool) (digits : Nat) (e : Int) : Option Finite64 :=
  let point := (Nat.toDigits 10 digits).length + e
  if digits = 0 ∨ point < -330 then some (zero negative)
  else if 310 < point then none
  else if 0 ≤ e then ofRatio? negative (digits * Nat.pow 10 e.toNat) 1
  else ofRatio? negative digits (Nat.pow 10 (-e).toNat)

end Finite64

end SchemaPlan.Decimal
