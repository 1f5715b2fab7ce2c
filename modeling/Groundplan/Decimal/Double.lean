import Groundplan.Decimal.Power

/-!
# Binary64 numbers

A `Double` is its bit pattern, so two of them are equal exactly when they are the same number with
the same sign of zero, and everything about them is arithmetic on naturals.  A finite one stands
for `± significand · 2 ^ scale`; `Double.ofRatio` goes the other way and rounds a quotient to the
nearest double, a tie to the even neighbour.
-/

namespace Groundplan

/-- A binary64 number, held as its 64 bits. -/
structure Double where
  /-- Sign bit, eleven exponent bits, fifty-two fraction bits. -/
  bits : UInt64
  deriving DecidableEq, Repr

namespace Double

/-! ### Parts of a double -/

/-- The bits without the sign. -/
def magnitude (x : Double) : Nat := x.bits.toNat % twoPow 63

/-- The sign bit. -/
def isNegative (x : Double) : Bool := twoPow 63 ≤ x.bits.toNat

/-- The exponent field. -/
def exponentField (x : Double) : Nat := x.magnitude / twoPow 52

/-- Neither infinite nor a NaN. -/
def isFinite (x : Double) : Bool := x.exponentField < 2047

/-- The integer significand, below `2 ^ 53`. -/
def significand (x : Double) : Nat :=
  if x.exponentField = 0 then x.magnitude else twoPow 52 + x.magnitude % twoPow 52

/-- The power of two that the significand is scaled by. -/
def scale (x : Double) : Int := (max x.exponentField 1 : Nat) - 1075

/-- The double of the given sign and magnitude bits. -/
def ofMagnitude (negative : Bool) (magnitude : Nat) : Double :=
  ⟨UInt64.ofNat ((if negative then twoPow 63 else 0) + magnitude)⟩

/-- The number with its sign flipped. -/
def neg (x : Double) : Double := ofMagnitude (!x.isNegative) x.magnitude

/-! ### Rounding a quotient -/

/-- `num / den` rounded to the nearest natural, a tie to the even one. -/
def roundDiv (num den : Nat) : Nat :=
  let q := num / den
  let r := num % den
  if 2 * r < den ∨ (2 * r = den ∧ q % 2 = 0) then q else q + 1

/-- `num / den · 2 ^ (- e)` as a quotient of naturals. -/
def shiftRatio (num den : Nat) (e : Int) : Nat × Nat :=
  if 0 ≤ e then (num, den * twoPow e.toNat) else (num * twoPow (-e).toNat, den)

/-- The exponent `p` with `2 ^ p ≤ num / den < 2 ^ (p + 1)`, for positive `num` and `den`. -/
def log2Ratio (num den : Nat) : Int :=
  let guess : Int := (Nat.log2 num : Int) - (Nat.log2 den : Int)
  let (n, d) := shiftRatio num den guess
  if d ≤ n then guess else guess - 1

/-- The double nearest to `± num / den`; none when it would be infinite.  The magnitude bits of a
double count the doubles below it, so the rounded significand is added to those of the exponent and
a carry into the next power of two comes out right by itself. -/
def ofRatio (negative : Bool) (num den : Nat) : Option Double :=
  if num = 0 then some (ofMagnitude negative 0)
  else
    let e : Int := max (log2Ratio num den - 52) (-1074)
    let (n, d) := shiftRatio num den e
    let magnitude := (e + 1074).toNat * twoPow 52 + roundDiv n d
    if magnitude < 2047 * twoPow 52 then some (ofMagnitude negative magnitude) else none

/-- The double nearest to `± digits · 10 ^ exponent`; none when it would be infinite.  Exponents far
beyond the range are settled by the number of digits alone. -/
def ofDecimal (negative : Bool) (digits : Nat) (exponent : Int) : Option Double :=
  if digits = 0 then some (ofMagnitude negative 0)
  else
    let leading : Int := exponent + (Nat.log2 digits / 4 : Nat)
    if 400 < leading then none
    else if exponent + (Nat.log2 digits : Nat) < -400 then some (ofMagnitude negative 0)
    else if 0 ≤ exponent then ofRatio negative (digits * tenPow exponent.toNat) 1
    else ofRatio negative digits (tenPow (-exponent).toNat)

/-- The integer that a finite double is, if it is one. -/
def toInt? (x : Double) : Option Int :=
  let signed (n : Nat) : Int := if x.isNegative then -(n : Int) else n
  if !x.isFinite then none
  else if 0 ≤ x.scale then some (signed (x.significand * twoPow x.scale.toNat))
  else
    let unit := twoPow (-x.scale).toNat
    if x.significand % unit = 0 then some (signed (x.significand / unit)) else none

end Double
end Groundplan
