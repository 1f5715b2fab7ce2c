import Groundplan.Decimal.Layout

/-!
# Numbers of configuration values

An integer stays an integer and everything else is a double; `2` and `2.0` are different numbers
and are written differently.
-/

namespace Groundplan

/-- A number of a canonical value. -/
inductive Number where
  /-- An exact integer. -/
  | integer (value : Int)
  /-- A double. -/
  | real (value : Double)
  deriving DecidableEq, Repr

namespace Number

/-- JSON and template text write a double positionally from `10 ^ -5` up to `10 ^ 16`, and otherwise
with a signed exponent. -/
def jsonLayout : Layout := ⟨-5, 16, true⟩

/-- The text of a number under a layout for doubles. -/
def write (l : Layout) : Number → List Char
  | integer i => (if i < 0 then ['-'] else []) ++ Nat.toDigits 10 i.natAbs
  | real x => l.write x

/-- The JSON text of a number. -/
def text (n : Number) : String := String.ofList (n.write jsonLayout)

/-- Least integer that is kept as one. -/
def leastInteger : Int := -(twoPow 63 : Nat)

/-- Greatest integer that is kept as one. -/
def greatestInteger : Int := (twoPow 64 : Nat) - 1

/-- A finite double as a number: an integral value within the integer range becomes an integer. -/
def ofDouble (x : Double) : Number :=
  match x.toInt? with
  | some i => if leastInteger ≤ i ∧ i ≤ greatestInteger then integer i else real x
  | none => real x

/-- The number with its sign flipped.  An integer whose opposite is out of range becomes the nearest
double. -/
def neg : Number → Number
  | integer i =>
    if leastInteger ≤ -i ∧ -i ≤ greatestInteger then integer (-i)
    else match Double.ofRatio (0 < i) i.natAbs 1 with
      | some x => real x
      | none => integer i
  | real x => real x.neg

end Number
end Groundplan
