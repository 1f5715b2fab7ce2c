import Groundplan.Decimal.Shortest

/-!
# Written form of a decimal

A `Layout` says where positional notation ends and how an exponent is written; the digits come from
`Double.shortest`.
-/

namespace Groundplan

/-- How a double is written. -/
structure Layout where
  /-- The least power of ten of a leading digit that is written positionally. -/
  lowest : Int
  /-- The first power of ten that is not. -/
  limit : Int
  /-- Whether a positive exponent has a plus sign. -/
  plus : Bool
  deriving Repr

namespace Layout

/-- The digits `ds` with the power of ten `e` of the leading one, positionally; an integral number
keeps a final `.0`. -/
def positional (ds : List Char) (e : Int) : List Char :=
  if e < 0 then '0' :: '.' :: List.replicate ((-e).toNat - 1) '0' ++ ds
  else
    let whole := e.toNat + 1
    if ds.length ≤ whole then ds ++ List.replicate (whole - ds.length) '0' ++ ['.', '0']
    else ds.take whole ++ '.' :: ds.drop whole

/-- The digits `ds` with one digit before the point and the exponent `e` after an `e`. -/
def scientific (plus : Bool) (ds : List Char) (e : Int) : List Char :=
  let mantissa := match ds with
    | d :: x :: more => d :: '.' :: x :: more
    | short => short
  let sign := if e < 0 then ['-'] else if plus then ['+'] else []
  mantissa ++ 'e' :: sign ++ Nat.toDigits 10 e.natAbs

/-- The text of a finite double. -/
def write (l : Layout) (x : Double) : List Char :=
  let d := x.shortest
  let ds := Nat.toDigits 10 d.digits
  let e := d.leading
  let body := if l.lowest ≤ e ∧ e < l.limit then positional ds e else scientific l.plus ds e
  if x.isNegative then '-' :: body else body

end Layout
end Groundplan
