import Groundplan.Json.Writer
import Groundplan.Value
import Groundplan.Yaml.Character
import Groundplan.Yaml.Implicit

/-!
# Writing YAML

Values are written in block style with two spaces for each level; a sequence inside a mapping is not
indented, and empty collections are written in flow style.  A string is plain where nothing else would
be read back, a block where it has several lines, and quoted otherwise.
-/

namespace Groundplan.Yaml

/-! ### Styles of strings -/

/-- How a string is written. -/
inductive ScalarStyle where
  | plain
  | single
  | double
  | literal
  deriving DecidableEq, Repr

/-- Whether a space stands right before a line break. -/
def hasSpaceBeforeBreak : List Char → Bool
  | ' ' :: c :: rest => isBreak c || hasSpaceBeforeBreak (c :: rest)
  | _ :: rest => hasSpaceBeforeBreak rest
  | [] => false

/-- Whether a space stands right after a line break. -/
def hasSpaceAfterBreak : List Char → Bool
  | a :: ' ' :: rest => isBreak a || hasSpaceAfterBreak (' ' :: rest)
  | _ :: rest => hasSpaceAfterBreak rest
  | [] => false

/-- Whether a text can only be written with escapes. -/
def needsEscapes (text : List Char) : Bool :=
  text.any (fun c => !isPrintable c) || hasSpaceBeforeBreak text

/-- Whether a text starts with characters that start something else than a plain string. -/
def startsIndicator (text : List Char) : Bool :=
  ['-', '-', '-'].isPrefixOf text || ['.', '.', '.'].isPrefixOf text ||
    match text with
    | [] => false
    | c :: rest =>
      "#,[]\x7b\x7d&*!|>'\"%@`".toList.contains c
        || ((c == '?' || c == ':' || c == '-') && endsWord rest.head?)

/-- Whether a colon or a number sign inside a text would end a plain string. -/
def hasInnerIndicator : List Char → Bool
  | a :: c :: rest =>
    (c == ':' && endsWord rest.head?) || (c == '#' && endsWord (some a))
      || hasInnerIndicator (c :: rest)
  | _ => false

/-- Whether a text may be written as it is. -/
def allowsPlain (text : List Char) : Bool :=
  !(text.head?.any (· == ' ') || text.getLast?.any (· == ' ') || text.any isBreak
    || needsEscapes text || startsIndicator text || hasInnerIndicator text)

/-- Whether a text may be written between single quotes. -/
def allowsSingle (text : List Char) : Bool := !(hasSpaceAfterBreak text || needsEscapes text)

/-- Whether a text may be written as a block. -/
def allowsLiteral (text : List Char) : Bool :=
  !(text.getLast?.any (· == ' ') || needsEscapes text)

/-- The style of a string. -/
def styleOf (text : String) : ScalarStyle :=
  let cs := text.toList
  if cs.contains '\n' then if allowsLiteral cs then .literal else .double
  else if text ≠ "" ∧ !isSpecial text ∧ allowsPlain cs then .plain
  else if allowsSingle cs then .single
  else .double

/-! ### Strings -/

/-- So many spaces. -/
def spaces (n : Nat) : List Char := List.replicate n ' '

/-- The text with its lines indented; `fresh` says whether a line starts at its first character. -/
def indentLines (indent : Nat) (fresh : Bool) : List Char → List Char
  | [] => []
  | c :: rest =>
    if isBreak c then c :: indentLines indent true rest
    else (if fresh then spaces indent else []) ++ c :: indentLines indent false rest

/-- A number in upper-case hexadecimal digits, at least so many. -/
def hexDigits (least n : Nat) : List Char :=
  let ds := (Nat.toDigits 16 n).map Char.toUpper
  List.replicate (least - ds.length) '0' ++ ds

/-- A character as it is written between double quotes. -/
def escape (c : Char) : List Char :=
  if c = '\"' ∨ c = '\\' then ['\\', c]
  else if isPrintable c ∧ !isBreak c then [c]
  else
    match c with
    | '\x00' => ['\\', '0']
    | '\x07' => ['\\', 'a']
    | '\x08' => ['\\', 'b']
    | '\t' => ['\\', 't']
    | '\n' => ['\\', 'n']
    | '\x0b' => ['\\', 'v']
    | '\x0c' => ['\\', 'f']
    | '\r' => ['\\', 'r']
    | '\x1b' => ['\\', 'e']
    | '\u0085' => ['\\', 'N']
    | '\u2028' => ['\\', 'L']
    | '\u2029' => ['\\', 'P']
    | c =>
      if c.toNat ≤ 0xFF then '\\' :: 'x' :: hexDigits 2 c.toNat
      else if c.toNat ≤ 0xFFFF then '\\' :: 'u' :: hexDigits 4 c.toNat
      else '\\' :: 'U' :: hexDigits 8 c.toNat

/-- Whether a text ends with a line break. -/
def endsWithBreak (text : List Char) : Bool := text.getLast?.any isBreak

/-- What the header of a block says: a digit when its first line would hide the indentation, and a
sign when it does not end with exactly one line break. -/
def literalHints (text : List Char) : List Char :=
  (if text.head?.any (fun c => c == ' ' || isBreak c) then ['2'] else []) ++
    match text.reverse with
    | [] => ['-']
    | c :: rest =>
      if !isBreak c then ['-']
      else if rest.head?.all isBreak then ['+']
      else []

/-- A string with the end of its last line; further lines are indented. -/
def stringLine (indent : Nat) (text : String) : List Char :=
  let cs := text.toList
  match styleOf text with
  | .plain => cs ++ ['\n']
  | .single =>
    '\'' :: indentLines indent false (cs.flatMap (fun c => if c = '\'' then [c, c] else [c]) ++ ['\''])
      ++ ['\n']
  | .double => '\"' :: cs.flatMap escape ++ ['\"', '\n']
  | .literal =>
    '|' :: literalHints cs ++ '\n' :: indentLines indent true cs
      ++ (if endsWithBreak cs then [] else ['\n'])

/-! ### Values -/

/-- Doubles are written positionally from `10 ^ -5` up to `10 ^ 16`, and otherwise with an exponent
that has no plus sign. -/
def layout : Layout := ⟨-5, 16, false⟩

/-- A value that is no collection, with the end of its last line. -/
def scalarLine (indent : Nat) : Value → List Char
  | .null => ['n', 'u', 'l', 'l', '\n']
  | .bool true => ['t', 'r', 'u', 'e', '\n']
  | .bool false => ['f', 'a', 'l', 's', 'e', '\n']
  | .number n => n.write layout ++ ['\n']
  | .string s => stringLine indent s
  | .array _ => ['[', ']', '\n']
  | .object _ => ['\x7b', '\x7d', '\n']

/-- Whether a key stands on the line of its colon: when it is short and has no line breaks. -/
def isSimpleKey (key : String) : Bool := key.utf8ByteSize ≤ 128 && !key.toList.any isBreak

/-- What stands before a value. -/
inductive Before where
  /-- A key with its colon. -/
  | key
  /-- A dash, or the colon of a key on a line of its own. -/
  | mark
  deriving DecidableEq, Repr

/-- An entry of a mapping after its indentation; `value` is the value after a key or a mark. -/
def entryText (indent : Nat) (key : String) (value : Before → List Char) : List Char :=
  if isSimpleKey key then (stringLine (indent + 2) key).dropLast ++ ':' :: value .key
  else '?' :: ' ' :: stringLine (indent + 2) key ++ spaces indent ++ ':' :: value .mark

mutual

/-- A value after a key or a mark at an indentation. -/
def writeAfter (before : Before) (indent : Nat) (v : Value) : List Char :=
  match v with
  | .array (item :: items) =>
    match before with
    | .key => '\n' :: spaces indent ++ '-' :: writeAfter .mark indent item ++ writeItems indent items
    | .mark =>
      ' ' :: '-' :: writeAfter .mark (indent + 2) item ++ writeItems (indent + 2) items
  | .object ((key, item) :: entries) =>
    (match before with
      | .key => '\n' :: spaces (indent + 2)
      | .mark => [' '])
      ++ entryText (indent + 2) key (fun before => writeAfter before (indent + 2) item)
      ++ writeEntries (indent + 2) entries
  | .array [] => ' ' :: scalarLine (indent + 2) (.array [])
  | .object [] => ' ' :: scalarLine (indent + 2) (.object [])
  | .null => ' ' :: scalarLine (indent + 2) .null
  | .bool b => ' ' :: scalarLine (indent + 2) (.bool b)
  | .number n => ' ' :: scalarLine (indent + 2) (.number n)
  | .string s => ' ' :: scalarLine (indent + 2) (.string s)
termination_by structural v

/-- The further items of a sequence. -/
def writeItems (indent : Nat) (items : List Value) : List Char :=
  match items with
  | [] => []
  | item :: rest => spaces indent ++ '-' :: writeAfter .mark indent item ++ writeItems indent rest
termination_by structural items

/-- The further entries of a mapping. -/
def writeEntries (indent : Nat) (entries : List (String × Value)) : List Char :=
  match entries with
  | [] => []
  | (key, item) :: rest =>
    spaces indent ++ entryText indent key (fun before => writeAfter before indent item)
      ++ writeEntries indent rest
termination_by structural entries

end

/-- The YAML text of a value. -/
def text (v : Value) : String :=
  String.ofList <|
    match v with
    | .array (item :: items) => '-' :: writeAfter .mark 0 item ++ writeItems 0 items
    | .object ((key, item) :: entries) =>
      entryText 0 key (fun before => writeAfter before 0 item) ++ writeEntries 0 entries
    | v => scalarLine 2 v

end Groundplan.Yaml
