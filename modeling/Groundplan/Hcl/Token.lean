import Groundplan.Hcl.Trivia
import Groundplan.Number
import Groundplan.Text.Digit
import Groundplan.Text.Identifier

/-!
# Tokens

Identifiers, numbers, and the text between the markers of a template.  A number with a fraction or an
exponent is rounded to a double, and is an integer again when it has no fraction left; a backslash
escapes only inside quotes; `$${` and `%%{` are the text of a marker's opening in every template.
-/

namespace Groundplan.Hcl

namespace Parse

/-! ### Identifiers and numbers -/

/-- Reads an identifier. -/
def identifier : Parse String := do
  match ← peek? with
  | some c =>
    if Text.isIdentifierStart c then return String.ofList (← takeWhile Text.isIdentifierPart)
    else refuse
  | none => refuse

/-- Reads one digit or more. -/
def digits : Parse (List Char) := do
  match ← takeWhile Char.isDigit with
  | [] => refuse
  | ds => return ds

/-- Reads a point with digits after it, if they stand at the position. -/
def fraction? : Parse (Option (List Char)) := do
  match (← get).rest with
  | '.' :: c :: _ =>
    if c.isDigit then
      expect ['.']
      return some (← digits)
    else return none
  | _ => return none

/-- Reads an exponent, if one stands at the position. -/
def exponent? : Parse (Option Int) := do
  let start ← get
  match start.rest with
  | e :: rest =>
    if e = 'e' ∨ e = 'E' then
      let (negative, skip) := match rest with
        | '-' :: _ => (true, 2)
        | '+' :: _ => (false, 2)
        | _ => (false, 1)
      set (start.advance skip)
      match ← takeWhile Char.isDigit with
      | [] => do
        set start
        return none
      | ds => return some (if negative then -(Text.decimalValue ds : Int) else Text.decimalValue ds)
    else return none
  | [] => return none

/-- Reads a number without a sign. -/
def number : Parse Number := do
  let whole ← digits
  let fraction ← fraction?
  let exponent ← exponent?
  match fraction, exponent with
  | none, none =>
    let n := Text.decimalValue whole
    if (n : Int) ≤ Number.greatestInteger then return .integer n else refuse
  | _, _ =>
    let shift : Int := exponent.getD 0 - ((fraction.getD []).length : Int)
    match Double.ofDecimal false (Text.decimalValue (whole ++ fraction.getD [])) shift with
    | some x => return Number.ofDouble x
    | none => refuse

end Parse

/-! ### Text of templates -/

/-- Where a template stands. -/
inductive TextKind where
  /-- Between quotes. -/
  | quoted
  /-- Between the markers of a directive. -/
  | bare
  /-- Between the lines of a heredoc. -/
  | heredoc (delimiter : List Char)
  deriving Repr

/-- Whether a heredoc ends where a line starts. -/
def endsHeredoc (delimiter : List Char) (line : List Char) : Bool :=
  delimiter.isPrefixOf (line.dropWhile fun c => c == ' ' || c == '\t')

/-- Text that was read. -/
structure TextRun where
  text : List Char
  /-- Whether the text broke off after a backslash that escapes nothing, which is passed over. -/
  broken : Bool
  /-- Where reading goes on. -/
  next : Cursor

/-- Puts characters in front of a text that was read. -/
def before (front : List Char) (r : Option TextRun) : Option TextRun :=
  r.map fun r => { r with text := front ++ r.text }

/-- Reads text up to the next marker, the closing quote or the line of the delimiter; the line break
before a delimiter belongs to the text.  Text that has begun breaks off after a backslash that escapes
nothing and the character or the letter of the escape behind it; text can not start with one, as
`fresh` says that it would. -/
def readText (kind : TextKind) (fresh : Bool) : Nat → List Char → Option TextRun
  | o, [] => some ⟨[], false, ⟨o, []⟩⟩
  | o, '$' :: '$' :: '{' :: rest => before ['$', '{'] (readText kind false (o + 3) rest)
  | o, '%' :: '%' :: '{' :: rest => before ['%', '{'] (readText kind false (o + 3) rest)
  | o, '$' :: '{' :: rest => some ⟨[], false, ⟨o, '$' :: '{' :: rest⟩⟩
  | o, '%' :: '{' :: rest => some ⟨[], false, ⟨o, '%' :: '{' :: rest⟩⟩
  | o, c :: rest =>
    match kind with
    | .bare => before [c] (readText kind false (o + c.utf8Size) rest)
    | .heredoc delimiter =>
      if c = '\n' ∧ endsHeredoc delimiter rest then some ⟨[c], false, ⟨o + 1, rest⟩⟩
      else before [c] (readText kind false (o + c.utf8Size) rest)
    | .quoted =>
      if c = '\"' then some ⟨[], false, ⟨o, c :: rest⟩⟩
      else if c = '\\' then
        let breakOff (o : Nat) (rest : List Char) : Option TextRun :=
          if fresh then none else some ⟨[], true, ⟨o, rest⟩⟩
        match rest with
        | 'u' :: a :: b :: c :: d :: rest =>
          match Text.scalar? [a, b, c, d] with
          | some x => before [x] (readText kind false (o + 6) rest)
          | none => breakOff (o + 2) (a :: b :: c :: d :: rest)
        | 'U' :: a :: b :: c :: d :: e :: f :: g :: h :: rest =>
          match Text.scalar? [a, b, c, d, e, f, g, h] with
          | some x => before [x] (readText kind false (o + 10) rest)
          | none => breakOff (o + 2) (a :: b :: c :: d :: e :: f :: g :: h :: rest)
        | x :: rest =>
          match Text.escaped? x with
          | some y => before [y] (readText kind false (o + 2) rest)
          | none => breakOff (o + 1 + x.utf8Size) rest
        | [] => breakOff (o + 1) []
      else before [c] (readText kind false (o + c.utf8Size) rest)

namespace Parse

/-- Reads text up to the next marker or the end of the template, and says whether it broke off before
that. -/
def text (kind : TextKind) : Parse (String × Bool) := do
  let c ← get
  match readText kind true c.offset c.rest with
  | some run => do
    set run.next
    return (String.ofList run.text, run.broken)
  | none => refuse

/-- Reads a quoted text without markers. -/
def quotedText : Parse String := do
  expect ['\"']
  let (s, _) ← text .quoted
  expect ['\"']
  return s

end Parse
end Groundplan.Hcl
