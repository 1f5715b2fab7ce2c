import Groundplan.Decimal.Double
import Groundplan.Number
import Groundplan.Text.Digit

/-!
# What plain scalars stand for

A plain scalar without a tag is null, a boolean or a number when it is spelled like one, and otherwise
a string.  Digits with a zero in front are no number.
-/

namespace Groundplan.Yaml

/-- Whether a scalar is null. -/
def isNull (text : String) : Bool := ["null", "Null", "NULL", "~"].contains text

/-- The boolean that a scalar is. -/
def bool? (text : String) : Option Bool :=
  if ["true", "True", "TRUE"].contains text then some true
  else if ["false", "False", "FALSE"].contains text then some false
  else none

/-! ### Integers -/

/-- Splits off a sign: whether there is one, whether it is a minus, and the rest. -/
def splitSign : List Char → Bool × Bool × List Char
  | '+' :: rest => (true, false, rest)
  | '-' :: rest => (true, true, rest)
  | text => (false, false, text)

/-- Whether digits follow a leading zero. -/
def hasLeadingZero (text : List Char) : Bool :=
  match (splitSign text).2.2 with
  | '0' :: c :: rest => (c :: rest).all Char.isDigit
  | _ => false

/-- The value of a digit in a base of at most sixteen. -/
def digitIn? (base : Nat) (c : Char) : Option Nat :=
  (Text.hexDigit? c).filter (· < base)

/-- The natural that digits spell in a base; none without digits. -/
def natural? (base : Nat) : List Char → Option Nat
  | [] => none
  | ds => ds.foldlM (fun n c => (n * base + ·) <$> digitIn? base c) 0

/-- The natural that digits spell, in the base that a letter after a zero says. -/
def unsigned? (text : List Char) : Option Nat :=
  match text with
  | '0' :: 'x' :: ds => natural? 16 ds
  | '0' :: 'o' :: ds => natural? 8 ds
  | '0' :: 'b' :: ds => natural? 2 ds
  | ds => natural? 10 ds

/-- The natural that a scalar is, perhaps with a plus before it. -/
def unsignedInteger? (text : String) : Option Nat :=
  let (_, negative, ds) := splitSign text.toList
  if negative || hasLeadingZero text.toList then none else unsigned? ds

/-- The integer of at most 128 bits that a scalar is. -/
def integer? (text : String) : Option Int :=
  let (_, negative, ds) := splitSign text.toList
  if hasLeadingZero text.toList then none
  else
    ((unsigned? ds).filter fun n => if negative then n ≤ twoPow 127 else n < twoPow 128).map fun n =>
      if negative then -(n : Int) else n

/-! ### Other numbers -/

/-- Whether a text is decimal digits with at most one point among or beside them, and an exponent
perhaps. -/
def isDecimal (text : List Char) : Bool :=
  let (whole, rest) := text.span Char.isDigit
  let (fraction, rest) := match rest with
    | '.' :: more => more.span Char.isDigit
    | _ => ([], rest)
  !(whole.isEmpty && fraction.isEmpty) &&
    match rest with
    | [] => true
    | e :: more => (e == 'e' || e == 'E') && isExponent more
where
  /-- Whether a text is an exponent after its letter. -/
  isExponent (text : List Char) : Bool :=
    match (splitSign text).2.2 with
    | [] => false
    | ds => ds.all Char.isDigit

/-- The finite double nearest to what a decimal text spells. -/
def decimal? (text : List Char) : Option Double :=
  let (_, negative, body) := splitSign text
  let (mantissa, exponent) := body.span fun c => c != 'e' && c != 'E'
  let (whole, fraction) := mantissa.span (· != '.')
  let fraction := fraction.drop 1
  let (_, down, ds) := splitSign (exponent.drop 1)
  let shift : Int := if down then -(Text.decimalValue ds : Int) else Text.decimalValue ds
  Double.ofDecimal negative (Text.decimalValue (whole ++ fraction)) (shift - fraction.length)

/-- The spellings of infinity and of no number. -/
def specialNumbers : List String :=
  [".inf", ".Inf", ".INF", "+.inf", "+.Inf", "+.INF", "-.inf", "-.Inf", "-.INF", ".nan", ".NaN",
    ".NAN"]

/-- Whether a scalar is a number that is no integer. -/
def isReal (text : String) : Bool :=
  specialNumbers.contains text
    || (isDecimal (splitSign text.toList).2.2 && (decimal? text.toList).isSome)

/-- Whether a plain scalar stands for something else than the string of its characters. -/
def isSpecial (text : String) : Bool :=
  isNull text || (bool? text).isSome || (integer? text).isSome || isReal text
    || hasLeadingZero text.toList

end Groundplan.Yaml
