import Groundplan.Value

/-!
# Writing JSON

`Json.write` gives the text of a value in one of two layouts: compact, without any blanks, and
pretty, with one element or entry to a line and two blanks for each level.  Entries are written in
the order in which they are listed.
-/

namespace Groundplan.Json

/-- The two layouts. -/
inductive Style where
  | compact
  | pretty
  deriving DecidableEq, Repr

/-! ### Strings -/

/-- The hexadecimal digit of a number below sixteen. -/
def hexDigit (n : Nat) : Char := if n < 10 then Char.ofNat (0x30 + n) else Char.ofNat (0x57 + n)

/-- A character as it is written inside a string: quotes, backslashes and control characters are
escaped, nothing else is. -/
def escape (c : Char) : List Char :=
  if c = '\"' then ['\\', '\"']
  else if c = '\\' then ['\\', '\\']
  else if c = '\n' then ['\\', 'n']
  else if c = '\r' then ['\\', 'r']
  else if c = '\t' then ['\\', 't']
  else if c = '\x08' then ['\\', 'b']
  else if c = '\x0c' then ['\\', 'f']
  else if c.toNat < 0x20 then
    ['\\', 'u', '0', '0', hexDigit (c.toNat / 16), hexDigit (c.toNat % 16)]
  else [c]

/-- A string with its quotes. -/
def quoted (text : String) : List Char := '\"' :: text.toList.flatMap escape ++ ['\"']

/-! ### Values -/

/-- What stands before an element or a closing bracket at a level. -/
def Style.lineBreak (style : Style) (level : Nat) : List Char :=
  match style with
  | compact => []
  | pretty => '\n' :: List.replicate (2 * level) ' '

/-- What stands between a key and its value. -/
def Style.colon : Style → List Char
  | compact => [':']
  | pretty => [':', ' ']

mutual

/-- The text of a value whose brackets stand at a level. -/
def write (style : Style) (level : Nat) (v : Value) : List Char :=
  match v with
  | .null => ['n', 'u', 'l', 'l']
  | .bool true => ['t', 'r', 'u', 'e']
  | .bool false => ['f', 'a', 'l', 's', 'e']
  | .number n => n.write Number.jsonLayout
  | .string s => quoted s
  | .array [] => ['[', ']']
  | .array (item :: items) =>
    '[' :: style.lineBreak (level + 1) ++ write style (level + 1) item
      ++ writeItems style (level + 1) items ++ style.lineBreak level ++ [']']
  | .object [] => ['{', '}']
  | .object ((key, item) :: entries) =>
    '{' :: style.lineBreak (level + 1) ++ quoted key ++ style.colon
      ++ write style (level + 1) item
      ++ writeEntries style (level + 1) entries ++ style.lineBreak level ++ ['}']
termination_by structural v

/-- The further elements of an array, each after a comma. -/
def writeItems (style : Style) (level : Nat) (items : List Value) : List Char :=
  match items with
  | [] => []
  | item :: rest =>
    ',' :: style.lineBreak level ++ write style level item ++ writeItems style level rest
termination_by structural items

/-- The further entries of an object, each after a comma. -/
def writeEntries (style : Style) (level : Nat) (entries : List (String × Value)) : List Char :=
  match entries with
  | [] => []
  | (key, item) :: rest =>
    ',' :: style.lineBreak level ++ quoted key ++ style.colon ++ write style level item
      ++ writeEntries style level rest
termination_by structural entries

end

/-- The JSON text of a value. -/
def text (style : Style) (v : Value) : String := String.ofList (write style 0 v)

end Groundplan.Json
