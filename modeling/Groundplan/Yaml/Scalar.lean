import Groundplan.Text.Digit
import Groundplan.Yaml.Position

/-!
# Reading scalars

Plain and quoted scalars may go over several lines, which are folded: a single line break becomes a
space, and of several the first one is dropped.  Block scalars keep their lines or fold them, and say in
their header what happens to the line breaks at the end.
-/

namespace Groundplan.Yaml

/-! ### Blanks inside scalars -/

/-- The blanks between two words of a scalar. -/
structure Gap where
  /-- The blanks before the first line break. -/
  blanks : List Char
  /-- The line breaks. -/
  breaks : List Char
  deriving Repr

namespace Gap

/-- Line breaks, folded. -/
def fold : List Char → List Char
  | ['\n'] => [' ']
  | '\n' :: more => more
  | breaks => breaks

/-- What a gap contributes to the text. -/
def text (g : Gap) : List Char := if g.breaks.isEmpty then g.blanks else fold g.breaks

/-- Reads the blanks and line breaks at a position.  After a line break, no tab may stand before the
column `indent`. -/
def read (indent : Nat) (g : Gap) : Nat → Position → Option (Gap × Position)
  | 0, p => some (g, p)
  | fuel + 1, p =>
    match p.breakLine? with
    | some (c, next) => read indent { g with breaks := g.breaks ++ [c] } fuel next
    | none =>
      match p.peek? with
      | some c =>
        if isSpace c then
          if g.breaks.isEmpty then read indent { g with blanks := g.blanks ++ [c] } fuel (p.skip 1)
          else if c = '\t' ∧ p.column < indent then none
          else read indent g fuel (p.skip 1)
        else some (g, p)
      | none => some (g, p)

end Gap

/-! ### Plain scalars -/

/-- The characters that bracket and separate flow collections. -/
def isFlowIndicator (c : Char) : Bool :=
  c == ',' || c == '[' || c == ']' || c == '{' || c == '}'

/-- Reads the characters of a plain scalar up to a blank or an indicator.  In a flow collection a
colon may not stand right before an indicator. -/
def plainWord (flow : Bool) : Nat → Position → Option (List Char × Position)
  | 0, p => some ([], p)
  | fuel + 1, p =>
    match p.peek? with
    | none => some ([], p)
    | some c =>
      let next := p.peek? 1
      if isSpace c || isBreak c then some ([], p)
      else if flow && c == ':' && next.any (fun d => isFlowIndicator d || d == '?') then none
      else if c == ':' && endsWord next then some ([], p)
      else if flow && isFlowIndicator c then some ([], p)
      else do
        let (word, p) ← plainWord flow fuel (p.skip 1)
        return (c :: word, p)

/-- Reads the words of a plain scalar, and says whether a line break stands after the last one. -/
def plainWords (flow : Bool) (indent : Nat) :
    Nat → Position → Option (List Char × Bool × Position)
  | 0, p => some ([], false, p)
  | fuel + 1, p => do
    if p.atDocumentMark || p.peek? == some '#' then return ([], false, p)
    let (word, p) ← plainWord flow p.rest.length p
    if word.isEmpty || !p.peek?.any (fun c => isSpace c || isBreak c) then return (word, false, p)
    let (gap, p) ← Gap.read indent ⟨[], []⟩ p.rest.length p
    let broken := !gap.breaks.isEmpty
    if !flow && p.column < indent then return (word, broken, p)
    let (more, moreBroken, p) ← plainWords flow indent fuel p
    if more.isEmpty then return (word, broken, p)
    return (word ++ gap.text ++ more, moreBroken, p)

/-- Reads a plain scalar. -/
def plainScalar (flow : Bool) (indent : Nat) (p : Position) :
    Option (List Char × Bool × Position) :=
  plainWords flow indent (p.rest.length + 1) p

/-! ### Quoted scalars -/

/-- The character that a letter after a backslash stands for. -/
def escaped? (c : Char) : Option Char :=
  match c with
  | '0' => some '\x00'
  | 'a' => some '\x07'
  | 'b' => some '\x08'
  | 't' => some '\t'
  | '\t' => some '\t'
  | 'n' => some '\n'
  | 'v' => some '\x0b'
  | 'f' => some '\x0c'
  | 'r' => some '\r'
  | 'e' => some '\x1b'
  | ' ' => some ' '
  | '\"' => some '\"'
  | '/' => some '/'
  | '\\' => some '\\'
  | 'N' => some '\u0085'
  | '_' => some '\u00a0'
  | 'L' => some '\u2028'
  | 'P' => some '\u2029'
  | _ => none

/-- The number of hexadecimal digits after a letter after a backslash. -/
def escapeDigits? (c : Char) : Option Nat :=
  match c with
  | 'x' => some 2
  | 'u' => some 4
  | 'U' => some 8
  | _ => none

/-- Reads an escape after its backslash. -/
def escapeSequence (p : Position) : Option (Char × Position) := do
  let c ← p.peek?
  match escapeDigits? c with
  | some n => do
    let ds := (p.rest.drop 1).take n
    if ds.length < n then none
    else
      let x ← Text.scalar? ds
      return (x, p.skip (n + 1))
  | none => do
    let x ← escaped? c
    return (x, p.skip 1)

/-- Reads the characters of a quoted scalar up to a blank, the closing quote, or an escaped line
break. -/
def quotedWord (single : Bool) : Nat → Position → Option (List Char × Position)
  | 0, p => some ([], p)
  | fuel + 1, p =>
    match p.peek? with
    | none => some ([], p)
    | some c =>
      let continued (c : Char) (p : Position) : Option (List Char × Position) := do
        let (word, p) ← quotedWord single fuel p
        return (c :: word, p)
      if isSpace c || isBreak c then some ([], p)
      else if single && c == '\'' then
        if p.peek? 1 == some '\'' then continued '\'' (p.skip 2) else some ([], p)
      else if !single && c == '\"' then some ([], p)
      else if !single && c == '\\' then
        if (p.peek? 1).any isBreak then some ([], p)
        else do
          let (x, p) ← escapeSequence (p.skip 1)
          continued x p
      else continued c (p.skip 1)

/-- Reads the rest of a quoted scalar and its closing quote. -/
def quotedWords (single : Bool) : Nat → Position → Option (List Char × Position)
  | 0, _ => none
  | fuel + 1, p => do
    if p.atDocumentMark then none
    let (word, p) ← quotedWord single p.rest.length p
    let c ← p.peek?
    if c == (if single then '\'' else '\"') then return (word, p.skip 1)
    let (text, p) ←
      if c == '\\' then do
        let (_, p) ← (p.skip 1).breakLine?
        let (gap, p) ← Gap.read 0 ⟨[], []⟩ p.rest.length p
        pure (gap.breaks, p)
      else do
        let (gap, p) ← Gap.read 0 ⟨[], []⟩ p.rest.length p
        pure (gap.text, p)
    let (more, p) ← quotedWords single fuel p
    return (word ++ text ++ more, p)

/-- Reads a quoted scalar after its opening quote. -/
def quotedScalar (single : Bool) (p : Position) : Option (List Char × Position) :=
  quotedWords single (p.rest.length + 1) p

/-! ### Block scalars -/

/-- What a block scalar does with the line breaks at its end. -/
inductive Chomping where
  | strip
  | clip
  | keep
  deriving DecidableEq, Repr

/-- The chomping that a sign stands for. -/
def chomping? : Option Char → Option Chomping
  | some '+' => some .keep
  | some '-' => some .strip
  | _ => none

/-- The indentation that a digit stands for; none for a zero. -/
def increment? : Option Char → Option Nat
  | some c => if '1' ≤ c ∧ c ≤ '9' then some (c.toNat - 0x30) else none
  | none => none

/-- Reads the sign and the digit of a header, in either order. -/
def blockHeader (p : Position) : Option (Chomping × Option Nat × Position) := do
  let (chomping, increment, p) ←
    match chomping? p.peek?, increment? p.peek? with
    | some chomping, _ =>
      match increment? (p.peek? 1) with
      | some n => pure (chomping, some n, p.skip 2)
      | none => pure (chomping, none, p.skip 1)
    | none, some n =>
      match chomping? (p.peek? 1) with
      | some chomping => pure (chomping, some n, p.skip 2)
      | none => pure (Chomping.clip, some n, p.skip 1)
    | none, none => pure (Chomping.clip, none, p)
  let (_, p) := p.span isSpace
  let p := if p.peek? == some '#' then (p.span fun c => !isBreak c).2 else p
  match p.peek? with
  | none => return (chomping, increment, p)
  | some _ => do
    let (_, p) ← p.breakLine?
    return (chomping, increment, p)

/-- Skips the indentation of a line: spaces up to the column `indent`, or all of them when none is
known. -/
def skipIndent (indent : Option Nat) (p : Position) : Position :=
  let spaces := (p.rest.takeWhile (· == ' ')).length
  match indent with
  | some n => p.skip (min spaces (n - p.column))
  | none => p.skip spaces

/-- Skips empty lines.  Gives their breaks, and the deepest column that was reached. -/
def emptyLines (indent : Option Nat) (deepest : Nat) :
    Nat → Position → Option (List Char × Nat × Position)
  | 0, p => some ([], deepest, p)
  | fuel + 1, p =>
    let p := skipIndent indent p
    let deepest := max deepest p.column
    if p.peek? == some '\t' && indent.all (p.column < ·) then none
    else
      match p.breakLine? with
      | some (c, next) => do
        let (breaks, deepest, p) ← emptyLines indent deepest fuel next
        return (c :: breaks, deepest, p)
      | none => some ([], deepest, p)

/-- Reads the lines of a block scalar whose indentation is known.  `leading` is the break before the
line at hand, `trailing` the breaks of the empty lines after it, and `blank` whether the line before
started with a blank. -/
def blockLines (literal : Bool) (indent : Nat) :
    Nat → List Char → List Char → Bool → Position →
      Option (List Char × List Char × List Char × Position)
  | 0, leading, trailing, _, p => some ([], leading, trailing, p)
  | fuel + 1, leading, trailing, blank, p =>
    if p.column ≠ indent ∨ p.peek? = none then some ([], leading, trailing, p)
    else do
      let startsBlank := p.peek?.any isSpace
      let joint :=
        if !literal && leading == ['\n'] && !blank && !startsBlank then
          (if trailing.isEmpty then [' '] else []) ++ trailing
        else leading ++ trailing
      let (line, p) := p.span fun c => !isBreak c
      let (leading, p) := match p.breakLine? with
        | some (c, p) => ([c], p)
        | none => ([], p)
      let (trailing, _, p) ← emptyLines (some indent) 0 (p.rest.length + 1) p
      let (more, leading, trailing, p) ← blockLines literal indent fuel leading trailing startsBlank p
      return (joint ++ line ++ more, leading, trailing, p)

/-- Reads a block scalar after its indicator; `parent` is the column of the collection around it. -/
def blockScalar (literal : Bool) (parent : Option Nat) (p : Position) :
    Option (List Char × Position) := do
  let (chomping, increment, p) ← blockHeader p
  let known := increment.map (parent.getD 0 + ·)
  let (trailing, deepest, p) ← emptyLines known 0 (p.rest.length + 1) p
  let least := match parent with
    | some n => n + 1
    | none => 1
  let indent := known.getD (max deepest least)
  let (text, leading, trailing, p) ←
    blockLines literal indent (p.rest.length + 1) [] trailing false p
  let ending := match chomping with
    | .strip => []
    | .clip => leading
    | .keep => leading ++ trailing
  return (text ++ ending, p)

end Groundplan.Yaml
