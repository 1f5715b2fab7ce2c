import Groundplan.Yaml.Character

/-!
# Positions in YAML text

A position knows its line and column, because indentation is part of the grammar, and the text that
follows.
-/

namespace Groundplan.Yaml

/-- A position in a text. -/
structure Position where
  /-- Number of bytes before. -/
  index : Nat
  line : Nat
  column : Nat
  /-- What follows. -/
  rest : List Char
  deriving Repr

namespace Position

/-- The start of a text. -/
def ofText (text : List Char) : Position := ⟨0, 0, 0, text⟩

/-- The character so many characters further on. -/
def peek? (p : Position) (n : Nat := 0) : Option Char := p.rest[n]?

/-- The position so many characters further on in the line. -/
def skip (p : Position) (n : Nat) : Position :=
  let index := (p.rest.take n).foldl (fun index c => index + c.utf8Size) p.index
  ⟨index, p.line, p.column + n, p.rest.drop n⟩

/-- The line break at the position and the start of the next line. -/
def breakLine? (p : Position) : Option (Char × Position) :=
  match p.rest with
  | '\r' :: '\n' :: rest => some ('\n', ⟨p.index + 2, p.line + 1, 0, rest⟩)
  | c :: rest =>
    if isBreak c then
      some (if c = '\u2028' ∨ c = '\u2029' then c else '\n',
        ⟨p.index + c.utf8Size, p.line + 1, 0, rest⟩)
    else none
  | [] => none

/-- Splits off the characters of the line that satisfy a test. -/
def span (p : Position) (test : Char → Bool) : List Char × Position :=
  let taken := p.rest.takeWhile test
  (taken, p.skip taken.length)

/-- Whether a word stands at the position. -/
def hasWord (p : Position) (word : List Char) : Bool :=
  word.isPrefixOf p.rest && endsWord (p.peek? word.length)

/-- Whether a line starts here with the mark that starts or ends a document. -/
def atDocumentMark (p : Position) : Bool :=
  p.column == 0 && (p.hasWord ['-', '-', '-'] || p.hasWord ['.', '.', '.'])

end Position
end Groundplan.Yaml
