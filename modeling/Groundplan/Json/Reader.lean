import Groundplan.Text.Digit
import Groundplan.Value

/-!
# Reading JSON

`Json.read` is the inverse of writing: it gives the value of a text, with entries in the order in
which they stand there, or nothing when the text is not JSON.  A number with a fraction or an exponent
is a double, one without is an integer as long as it is in range; a string may not hold half of a
surrogate pair.
-/

namespace Groundplan.Json

/-! ### Leaves -/

/-- Skips blanks. -/
def skipBlanks (text : List Char) : List Char :=
  text.dropWhile fun c => c == ' ' || c == '\n' || c == '\t' || c == '\r'

/-- Reads the rest of a string up to its closing quote. -/
def readString : List Char → Option (List Char × List Char)
  | [] => none
  | '\\' :: 'u' :: a :: b :: c :: d :: rest => do
    let high ← Text.hexValue? [a, b, c, d]
    if 0xDC00 ≤ high ∧ high < 0xE000 then none
    else if 0xD800 ≤ high ∧ high < 0xDC00 then
      match rest with
      | '\\' :: 'u' :: a :: b :: c :: d :: rest => do
        let low ← Text.hexValue? [a, b, c, d]
        if 0xDC00 ≤ low ∧ low < 0xE000 then
          let (text, rest) ← readString rest
          return (Char.ofNat (0x10000 + (high - 0xD800) * 0x400 + (low - 0xDC00)) :: text, rest)
        else none
      | _ => none
    else
      let (text, rest) ← readString rest
      return (Char.ofNat high :: text, rest)
  | '\\' :: c :: rest => do
    let c ← Text.escaped? c
    let (text, rest) ← readString rest
    return (c :: text, rest)
  | c :: rest =>
    if c = '\"' then some ([], rest)
    else if c.toNat < 0x20 then none
    else do
      let (text, rest) ← readString rest
      return (c :: text, rest)

/-- Splits off the digits that a text starts with. -/
def takeDigits (text : List Char) : List Char × List Char := text.span (·.isDigit)

/-- Splits off a fraction, if one stands there: a point with digits after it. -/
def takeFraction (text : List Char) : Option (List Char × List Char) :=
  match text with
  | '.' :: rest =>
    match takeDigits rest with
    | ([], _) => none
    | split => some split
  | _ => some ([], text)

/-- Splits off an exponent, if one stands there: none when it has no digits. -/
def takeExponent (text : List Char) : Option (Option Int × List Char) :=
  match text with
  | [] => some (none, [])
  | e :: rest =>
    if e = 'e' ∨ e = 'E' then
      let (negative, rest) := match rest with
        | '-' :: more => (true, more)
        | '+' :: more => (false, more)
        | _ => (false, rest)
      match takeDigits rest with
      | ([], _) => none
      | (ds, rest) =>
        some (some (if negative then -(Text.decimalValue ds : Int) else Text.decimalValue ds), rest)
    else some (none, text)

/-- The number of an integer literal. -/
def integerNumber? (negative : Bool) (magnitude : Nat) : Option Number :=
  let i : Int := if negative then -(magnitude : Int) else magnitude
  if Number.leastInteger ≤ i ∧ i ≤ Number.greatestInteger ∧ ¬ (negative ∧ magnitude = 0) then
    some (.integer i)
  else .real <$> Double.ofRatio negative magnitude 1

/-- Reads a number after its sign. -/
def readNumber (negative : Bool) (text : List Char) : Option (Number × List Char) :=
  match takeDigits text with
  | ([], _) => none
  | ('0' :: _ :: _, _) => none
  | (whole, rest) => do
    let (fraction, rest) ← takeFraction rest
    let (exponent, rest) ← takeExponent rest
    let shift : Int := exponent.getD 0 - (fraction.length : Int)
    let number ← match fraction, exponent with
      | [], none => integerNumber? negative (Text.decimalValue whole)
      | _, _ => Number.real <$> Double.ofDecimal negative (Text.decimalValue (whole ++ fraction)) shift
    return (number, rest)

/-! ### Values -/

mutual

/-- Reads a value that starts after blanks; `depth` bounds the nesting of brackets. -/
def readValue (fuel depth : Nat) (text : List Char) : Option (Value × List Char) :=
  match fuel with
  | 0 => none
  | fuel + 1 =>
    match skipBlanks text with
    | 'n' :: 'u' :: 'l' :: 'l' :: rest => some (.null, rest)
    | 't' :: 'r' :: 'u' :: 'e' :: rest => some (.bool true, rest)
    | 'f' :: 'a' :: 'l' :: 's' :: 'e' :: rest => some (.bool false, rest)
    | '\"' :: rest => (fun (s, rest) => (.string (String.ofList s), rest)) <$> readString rest
    | '-' :: rest => (fun (n, rest) => (.number n, rest)) <$> readNumber true rest
    | '[' :: rest =>
      match depth with
      | 0 => none
      | depth + 1 =>
        match skipBlanks rest with
        | ']' :: rest => some (.array [], rest)
        | rest => (fun (items, rest) => (.array items, rest)) <$> readItems fuel depth rest
    | '{' :: rest =>
      match depth with
      | 0 => none
      | depth + 1 =>
        match skipBlanks rest with
        | '}' :: rest => some (.object [], rest)
        | rest => (fun (entries, rest) => (.object entries, rest)) <$> readEntries fuel depth rest
    | rest => (fun (n, rest) => (.number n, rest)) <$> readNumber false rest
termination_by structural fuel

/-- Reads the elements of an array and its closing bracket. -/
def readItems (fuel depth : Nat) (text : List Char) : Option (List Value × List Char) :=
  match fuel with
  | 0 => none
  | fuel + 1 => do
    let (item, rest) ← readValue fuel depth text
    match skipBlanks rest with
    | ']' :: rest => return ([item], rest)
    | ',' :: rest => do
      let (items, rest) ← readItems fuel depth rest
      return (item :: items, rest)
    | _ => none
termination_by structural fuel

/-- Reads the entries of an object and its closing brace. -/
def readEntries (fuel depth : Nat) (text : List Char) :
    Option (List (String × Value) × List Char) :=
  match fuel with
  | 0 => none
  | fuel + 1 =>
    match skipBlanks text with
    | '\"' :: rest => do
      let (key, rest) ← readString rest
      match skipBlanks rest with
      | ':' :: rest => do
        let (item, rest) ← readValue fuel depth rest
        match skipBlanks rest with
        | '}' :: rest => return ([(String.ofList key, item)], rest)
        | ',' :: rest => do
          let (entries, rest) ← readEntries fuel depth rest
          return ((String.ofList key, item) :: entries, rest)
        | _ => none
      | _ => none
    | _ => none
termination_by structural fuel

end

/-- The value of a JSON text, with brackets nested at most `depth` deep. -/
def readWithin (depth : Nat) (text : String) : Option Value :=
  match readValue (2 * text.length + 2) depth text.toList with
  | some (v, rest) => if skipBlanks rest = [] then some v else none
  | none => none

/-- The value of a JSON text. -/
def read (text : String) : Option Value := readWithin text.length text

end Groundplan.Json
