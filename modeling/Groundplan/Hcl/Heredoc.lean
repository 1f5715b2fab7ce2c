import Groundplan.Hcl.Expr
import Groundplan.Text.Blank

/-!
# Indented heredocs

`dedent` takes the common indentation off the lines of a heredoc.  Each text between the markers has
an indent of its own: the least number of blanks in front of its non-empty lines, or none when a line
has no blank in front.  The least of these indents is what every line loses, whatever the characters
are.  A marker at the start of a line keeps all lines as they are.
-/

namespace Groundplan.Hcl

/-! ### Lines -/

/-- The lines of a text, without the line breaks that end them. -/
def textLines : List Char → List (List Char)
  | [] => []
  | '\n' :: rest => [] :: textLines rest
  | '\r' :: '\n' :: rest => [] :: textLines rest
  | c :: rest =>
    match textLines rest with
    | [] => [[c]]
    | line :: lines => (c :: line) :: lines

/-- Whether a text ends with a line break. -/
def endsLine (text : List Char) : Bool := text.getLast? == some '\n'

/-- The smaller of two indents, of those that exist. -/
def leastIndent : Option Nat → Option Nat → Option Nat
  | none, b => b
  | a, none => a
  | some a, some b => some (min a b)

/-- The indent of lines: the least number of blanks in front of a non-empty one, none when one has no
blank in front. -/
def linesIndent : List (List Char) → Option Nat
  | [] => none
  | lines =>
    let indents := (lines.filter (· ≠ [])).map fun line => (line.takeWhile Text.isBlank).length
    if indents.contains 0 then none else indents.min?

/-- The indent of a text; its first line does not count when it continues a line. -/
def textIndent (continuing : Bool) (text : List Char) : Option Nat :=
  linesIndent (if continuing then (textLines text).drop 1 else textLines text)

/-- The text with so many characters less in front of each line; a first line that continues another
one stays. -/
def dedentText (continuing : Bool) (indent : Nat) (text : List Char) : List Char :=
  let lines := match continuing, textLines text with
    | true, first :: rest => first :: rest.map (·.drop indent)
    | _, lines => lines.map (·.drop indent)
  (['\n'].intercalate lines) ++ if endsLine text then ['\n'] else []

/-! ### Templates -/

/-- The indent of a template after a line that ended or is continued; none when a marker stands at
the start of a line. -/
def elementsIndent (continuing : Bool) (indent : Option Nat) : List Element → Option Nat
  | [] => indent
  | .literal text :: rest =>
    let text := text.toList
    elementsIndent (!endsLine text) (leastIndent indent (textIndent continuing text)) rest
  | _ :: rest => if continuing then elementsIndent true indent rest else none

/-- Takes the indent off every text of a template. -/
def dedentElements (continuing : Bool) (indent : Nat) : List Element → List Element
  | [] => []
  | .literal text :: rest =>
    .literal (String.ofList (dedentText continuing indent text.toList))
      :: dedentElements (!endsLine text.toList) indent rest
  | element :: rest => element :: dedentElements true indent rest

/-- The template without its common indentation. -/
def dedent (elements : List Element) : List Element :=
  match elementsIndent false none elements with
  | none => elements
  | some indent => dedentElements false indent elements

end Groundplan.Hcl
