import Groundplan.Decimal.Double

/-!
# The fewest digits that read back

`Double.shortest` is the decimal with the fewest digits that lies in the interval of reals rounding
to a given positive double, and of those the nearest to it.  For each number of digits the only
candidates are the two neighbours of the double on that decimal grid, and they are compared in exact
arithmetic.
-/

namespace Groundplan

/-- The decimal `digits · 10 ^ exponent`. -/
structure Decimal where
  /-- All digits as one natural. -/
  digits : Nat
  /-- The power of ten of the last digit. -/
  exponent : Int
  deriving DecidableEq, Repr

namespace Decimal

/-- Number of decimal digits; zero has one. -/
def digitCount (n : Nat) : Nat := (Nat.toDigits 10 n).length

/-- Drops trailing zero digits, at most `fuel` of them. -/
def dropZeros : Nat → Nat → Int → Decimal
  | 0, n, e => ⟨n, e⟩
  | fuel + 1, n, e => if n ≠ 0 ∧ n % 10 = 0 then dropZeros fuel (n / 10) (e + 1) else ⟨n, e⟩

/-- The same number without trailing zero digits. -/
def normalize (x : Decimal) : Decimal := dropZeros (digitCount x.digits) x.digits x.exponent

/-- The power of ten of the leading digit. -/
def leading (x : Decimal) : Int := x.exponent + (digitCount x.digits : Int) - 1

end Decimal

/-- The reals that round to one double, as naturals over a common denominator: from `low` to `high`
around `value`, the ends included when `closed`. -/
structure Rounding where
  /-- Lower end. -/
  low : Nat
  /-- The double itself. -/
  value : Nat
  /-- Upper end. -/
  high : Nat
  /-- Common denominator. -/
  den : Nat
  /-- Whether the ends belong to it. -/
  closed : Bool
  deriving Repr

namespace Rounding

/-- The interval of a positive finite double.  Halfway to the lower neighbour is nearer when the
significand is the least one of its exponent. -/
def ofDouble (x : Double) : Rounding :=
  let m := x.significand
  let below := if m = twoPow 52 ∧ 1 < x.exponentField then 1 else 2
  let up := twoPow x.scale.toNat
  let den := 4 * twoPow (-x.scale).toNat
  ⟨(4 * m - below) * up, 4 * m * up, (4 * m + 2) * up, den, m % 2 = 0⟩

/-- Whether `n · 10 ^ e` lies in the interval. -/
def holds (r : Rounding) (n : Nat) (e : Int) : Bool :=
  let point := n * r.den * tenPow e.toNat
  let unit := tenPow (-e).toNat
  let low := r.low * unit
  let high := r.high * unit
  if r.closed then low ≤ point ∧ point ≤ high else low < point ∧ point < high

/-- The power of ten of the leading digit of the value. -/
def leading (r : Rounding) : Int :=
  if r.den ≤ r.value then (Decimal.digitCount (r.value / r.den) : Int) - 1
  else
    let k := Decimal.digitCount (r.den / r.value)
    if r.den ≤ r.value * tenPow (k - 1) then -((k - 1 : Nat) : Int) else -(k : Int)

/-- The value's neighbour on the grid of `10 ^ e` that lies in the interval: the nearer of two, of
two equally near the even one. -/
def neighbour? (r : Rounding) (e : Int) : Option Decimal :=
  let num := r.value * tenPow (-e).toNat
  let den := r.den * tenPow e.toNat
  let below := num / den
  let rest := num % den
  let preferBelow := 2 * rest < den ∨ (2 * rest = den ∧ below % 2 = 0)
  match r.holds below e, r.holds (below + 1) e with
  | true, true => some ⟨if preferBelow then below else below + 1, e⟩
  | true, false => some ⟨below, e⟩
  | false, true => some ⟨below + 1, e⟩
  | false, false => none

/-- The first grid with a neighbour in the interval, from the coarsest that has `k` digits on. -/
def search (r : Rounding) (top : Int) : Nat → Nat → Decimal
  | 0, _ => ⟨0, 0⟩
  | fuel + 1, k =>
    match r.neighbour? (top - k) with
    | some d => d.normalize
    | none => search r top fuel (k + 1)

end Rounding

/-- The shortest decimal that reads back as the magnitude of a finite double; seventeen digits
always suffice. -/
def Double.shortest (x : Double) : Decimal :=
  if x.significand = 0 then ⟨0, 0⟩
  else
    let r := Rounding.ofDouble x
    r.search r.leading 18 0

end Groundplan
