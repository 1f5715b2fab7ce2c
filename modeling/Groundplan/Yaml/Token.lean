import Groundplan.Text.Utf8
import Groundplan.Yaml.Node
import Groundplan.Yaml.Scalar

/-!
# Tokens of YAML

The indentation of block collections becomes tokens that open and close them.  Whatever may turn out to
be a key is kept as a candidate until a colon follows on the same line; the colon then puts the key
token in front of it.
-/

namespace Groundplan.Yaml

/-- A token. -/
inductive Token where
  | version (major minor : Nat)
  /-- What a handle of tags stands for. -/
  | handle (name meaning : String)
  | documentStart
  | documentEnd
  | blockSequence
  | blockMapping
  | blockEnd
  | flowSequence
  | flowSequenceEnd
  | flowMapping
  | flowMappingEnd
  | blockEntry
  | flowEntry
  | key
  | value
  | alias (name : String)
  | anchor (name : String)
  /-- A tag: its handle, empty for a tag that is written out, and its suffix. -/
  | tag (handle suffix : String)
  | scalar (style : Style) (text : String)
  deriving DecidableEq, Repr

/-- What may turn out to be a key. -/
structure KeyCandidate where
  /-- Whether a key has to stand here. -/
  required : Bool
  /-- Number of tokens before it. -/
  token : Nat
  line : Nat
  column : Nat
  index : Nat
  deriving Repr

/-- What is known after some tokens. -/
structure Scan where
  position : Position
  tokens : List Token
  /-- The columns of the open block collections, innermost first. -/
  indents : List Nat
  /-- The candidate of each open flow collection and of the block around them, innermost first. -/
  candidates : List (Option KeyCandidate)
  /-- Whether a key may start here. -/
  keyAllowed : Bool
  deriving Repr

namespace Scan

/-- The start of a text. -/
def ofText (text : List Char) : Scan := ⟨.ofText text, [], [], [none], true⟩

/-- Whether the position is inside a flow collection. -/
def inFlow (s : Scan) : Bool := s.candidates.length > 1

/-- Adds a token. -/
def emit (s : Scan) (t : Token) : Scan := { s with tokens := s.tokens ++ [t] }

/-- Adds a token and goes on behind its characters. -/
def emitOver (s : Scan) (n : Nat) (t : Token) : Scan :=
  { s.emit t with position := s.position.skip n }

/-- Adds a token after the first `n` ones. -/
def insert (s : Scan) (n : Nat) (t : Token) : Scan :=
  { s with tokens := s.tokens.take n ++ t :: s.tokens.drop n }

/-- Says whether a key may start at the position. -/
def allowKey (s : Scan) (allowed : Bool) : Scan := { s with keyAllowed := allowed }

/-! ### Candidates -/

/-- Gives up the innermost candidate, unless it is required. -/
def dropCandidate (s : Scan) : Option Scan :=
  match s.candidates with
  | some k :: rest => if k.required then none else some { s with candidates := none :: rest }
  | _ => some s

/-- Makes what starts at the position a candidate, where keys are allowed. -/
def noteCandidate (s : Scan) : Option Scan :=
  if s.keyAllowed then do
    let s ← s.dropCandidate
    let p := s.position
    let required := !s.inFlow && s.indents.head? == some p.column
    return { s with
      candidates := some ⟨required, s.tokens.length, p.line, p.column, p.index⟩
        :: s.candidates.drop 1 }
  else some s

/-- Whether a candidate is too far back to be a key. -/
def isStale (p : Position) (k : KeyCandidate) : Bool :=
  k.line < p.line || k.index + 1024 < p.index

/-- Gives up the candidates that are too far back. -/
def dropStale (s : Scan) : Option Scan :=
  if s.candidates.any fun k => k.any fun k => k.required && isStale s.position k then none
  else some { s with
    candidates := s.candidates.map fun k => k.filter fun k => !isStale s.position k }

/-! ### Indentation -/

/-- Closes the block collections that are deeper than a column, or all of them. -/
def unroll (s : Scan) (column : Option Nat) : Scan :=
  if s.inFlow then s
  else
    let deeper (n : Nat) : Bool := column.all (· < n)
    { s with
      tokens := s.tokens ++ (s.indents.takeWhile deeper).map fun _ => .blockEnd
      indents := s.indents.dropWhile deeper }

/-- Opens a block collection after the first `n` tokens, if the column is deeper than the last
one. -/
def roll (s : Scan) (column n : Nat) (t : Token) : Scan :=
  if !s.inFlow && s.indents.head?.all (· < column) then
    { s.insert n t with indents := column :: s.indents }
  else s

/-! ### Blanks -/

/-- Skips blanks, comments and line breaks, and a byte order mark where a line starts.  Where a key may
start, a tab is no blank. -/
def skipBlanks : Nat → Scan → Scan
  | 0, s => s
  | fuel + 1, s =>
    match s.position.breakLine? with
    | some (_, p) => skipBlanks fuel { s with position := p, keyAllowed := s.keyAllowed || !s.inFlow }
    | none =>
      match s.position.peek? with
      | some c =>
        if c = ' ' ∨ (c = '\t' ∧ (s.inFlow ∨ !s.keyAllowed))
            ∨ (c = '\ufeff' ∧ s.position.column = 0) then
          skipBlanks fuel { s with position := s.position.skip 1 }
        else if c = '#' then
          skipBlanks fuel { s with position := (s.position.span fun c => !isBreak c).2 }
        else s
      | none => s

/-! ### Names and tags -/

/-- Whether a character belongs to the name of an anchor, a handle or a directive. -/
def isNameChar (c : Char) : Bool := c.isAlphanum || c == '_' || c == '-'

/-- Reads the handle of a tag, if it is one: a name between exclamation marks, or only one mark. -/
def tagHandle (p : Position) : List Char × Position :=
  let (name, q) := (p.skip 1).span isNameChar
  if q.peek? == some '!' then ('!' :: (name ++ ['!']), q.skip 1) else ('!' :: name, q)

/-- The number of bytes of the character that starts with a byte. -/
def byteCount? (b : Nat) : Option Nat :=
  if b < 0x80 then some 1
  else if 0xC0 ≤ b ∧ b < 0xE0 then some 2
  else if 0xE0 ≤ b ∧ b < 0xF0 then some 3
  else if 0xF0 ≤ b ∧ b < 0xF8 then some 4
  else none

/-- Reads a byte that is written as a percent sign and two digits. -/
def escapedByte (p : Position) : Option (Nat × Position) := do
  if p.peek? ≠ some '%' then none
  let high ← Text.hexDigit? (← p.peek? 1)
  let low ← Text.hexDigit? (← p.peek? 2)
  return (high * 16 + low, p.skip 3)

/-- Reads so many bytes inside a character. -/
def escapedTail : Nat → Position → Option (List Nat × Position)
  | 0, p => some ([], p)
  | n + 1, p => do
    let (b, p) ← escapedByte p
    if b < 0x80 ∨ 0xC0 ≤ b then none
    let (more, p) ← escapedTail n p
    return (b :: more, p)

/-- Reads a character whose bytes are written as digits.  Bytes that are no character become the
replacement character. -/
def escapedChar (p : Position) : Option (List Char × Position) := do
  let (b, p) ← escapedByte p
  let (more, p) ← escapedTail ((← byteCount? b) - 1) p
  match Utf8.decode ((b :: more).map UInt8.ofNat) with
  | .ok text => return (text, p)
  | .error _ => return (['\ufffd'], p)

/-- Whether a character belongs to a tag; commas and brackets only where it is written out. -/
def isTagChar (whole : Bool) (c : Char) : Bool :=
  isNameChar c || ";/?:@&=+$.!~*'()".toList.contains c || (whole && ",[]".toList.contains c)

/-- Reads the characters of a tag. -/
def tagText (whole : Bool) : Nat → Position → Option (List Char × Position)
  | 0, p => some ([], p)
  | fuel + 1, p =>
    match p.peek? with
    | none => some ([], p)
    | some c =>
      if c = '%' then do
        let (text, p) ← escapedChar p
        let (more, p) ← tagText whole fuel p
        return (text ++ more, p)
      else if isTagChar whole c then do
        let (more, p) ← tagText whole fuel (p.skip 1)
        return (c :: more, p)
      else some ([], p)

/-! ### Tokens -/

/-- Reads decimal digits, nine at most. -/
def digits (p : Position) : Option (Nat × Position) :=
  match p.span Char.isDigit with
  | ([], _) => none
  | (ds, p) => if ds.length ≤ 9 then some (Text.decimalValue ds, p) else none

/-- Reads the value of a directive: a version, or what a handle stands for. -/
def directiveValue (name : String) (p : Position) : Option (Token × Position) := do
  let (_, p) := p.span isSpace
  if name = "YAML" then
    let (major, p) ← digits p
    if p.peek? ≠ some '.' then none
    let (minor, p) ← digits (p.skip 1)
    return (.version major minor, p)
  else if name = "TAG" then
    if p.peek? ≠ some '!' then none
    let (handle, p) := tagHandle p
    if handle.length > 1 ∧ handle.getLast? ≠ some '!' then none
    let (blanks, p) := p.span isSpace
    if blanks.isEmpty then none
    let (meaning, p) ← tagText true (p.rest.length + 1) p
    if meaning.isEmpty || !endsWord p.peek? then none
    return (.handle (String.ofList handle) (String.ofList meaning), p)
  else none

/-- Reads a directive with its line. -/
def directive (s : Scan) : Option Scan := do
  let s ← (s.unroll none).dropCandidate
  let (name, p) := (s.position.skip 1).span isNameChar
  if name.isEmpty || !endsWord p.peek? then none
  let (token, p) ← directiveValue (String.ofList name) p
  let (_, p) := p.span isSpace
  let p := if p.peek? == some '#' then (p.span fun c => !isBreak c).2 else p
  let p ← match p.peek? with
    | none => some p
    | some _ => p.breakLine?.map (·.2)
  return { (s.emit token).allowKey false with position := p }

/-- Reads the mark that starts or ends a document. -/
def documentMark (s : Scan) (t : Token) : Option Scan := do
  let s ← (s.unroll none).dropCandidate
  return (s.emitOver 3 t).allowKey false

/-- Opens a flow collection. -/
def openFlow (s : Scan) (t : Token) : Option Scan := do
  let s ← s.noteCandidate
  return { (s.emitOver 1 t).allowKey true with candidates := none :: s.candidates }

/-- Closes a flow collection. -/
def closeFlow (s : Scan) (t : Token) : Option Scan := do
  let s ← s.dropCandidate
  let candidates := if s.inFlow then s.candidates.drop 1 else s.candidates
  return { (s.emitOver 1 t).allowKey false with candidates := candidates }

/-- Reads the comma of a flow collection. -/
def flowEntry (s : Scan) : Option Scan := do
  let s ← s.dropCandidate
  return (s.emitOver 1 .flowEntry).allowKey true

/-- Reads the dash of a block sequence. -/
def blockEntry (s : Scan) : Option Scan := do
  if !s.inFlow && !s.keyAllowed then none
  let s ← (s.roll s.position.column s.tokens.length .blockSequence).dropCandidate
  return (s.emitOver 1 .blockEntry).allowKey true

/-- Reads the question mark of a key. -/
def key (s : Scan) : Option Scan := do
  if !s.inFlow && !s.keyAllowed then none
  let s ← (s.roll s.position.column s.tokens.length .blockMapping).dropCandidate
  return (s.emitOver 1 .key).allowKey !s.inFlow

/-- Reads the colon of a value; a candidate on the line becomes its key. -/
def value (s : Scan) : Option Scan :=
  match s.candidates with
  | some k :: rest =>
    let s := ({ s with candidates := none :: rest }.insert k.token .key).roll k.column k.token
      .blockMapping
    some ((s.emitOver 1 .value).allowKey false)
  | _ =>
    if !s.inFlow && !s.keyAllowed then none
    else
      let s := s.roll s.position.column s.tokens.length .blockMapping
      some ((s.emitOver 1 .value).allowKey !s.inFlow)

/-- Reads an anchor or an alias. -/
def named (s : Scan) (t : String → Token) : Option Scan := do
  let s ← s.noteCandidate
  let (name, p) := (s.position.skip 1).span isNameChar
  if name.isEmpty then none
  if !(endsWord p.peek? || p.peek?.any ("?:,]\x7d%@`".toList.contains ·)) then none
  return { (s.emit (t (String.ofList name))).allowKey false with position := p }

/-- Reads a tag. -/
def tag (s : Scan) : Option Scan := do
  let s ← s.noteCandidate
  let p := s.position
  let (handle, suffix, p) ←
    if p.peek? 1 == some '<' then do
      let (text, p) ← tagText true (p.rest.length + 1) (p.skip 2)
      if text.isEmpty || p.peek? != some '>' then none
      pure ([], text, p.skip 1)
    else do
      let (handle, p) := tagHandle p
      let (text, p) ← tagText false (p.rest.length + 1) p
      if handle.length > 1 ∧ handle.getLast? = some '!' then
        if text.isEmpty then none
        pure (handle, text, p)
      else
        match handle.drop 1 ++ text with
        | [] => pure ([], ['!'], p)
        | suffix => pure (['!'], suffix, p)
  if !(endsWord p.peek? || (s.inFlow && p.peek? == some ',')) then none
  return { (s.emit (.tag (String.ofList handle) (String.ofList suffix))).allowKey false with
    position := p }

/-- Reads a block scalar. -/
def block (s : Scan) (literal : Bool) : Option Scan := do
  let s ← s.dropCandidate
  let (text, p) ← blockScalar literal s.indents.head? (s.position.skip 1)
  let style := if literal then .literal else .folded
  return { (s.emit (.scalar style (String.ofList text))).allowKey true with position := p }

/-- Reads a quoted scalar. -/
def quoted (s : Scan) (single : Bool) : Option Scan := do
  let s ← s.noteCandidate
  let (text, p) ← quotedScalar single (s.position.skip 1)
  return { (s.emit (.scalar .quoted (String.ofList text))).allowKey false with position := p }

/-- Reads a plain scalar. -/
def plain (s : Scan) : Option Scan := do
  let s ← s.noteCandidate
  let indent := match s.indents.head? with
    | some n => n + 1
    | none => 0
  let (text, broken, p) ← plainScalar s.inFlow indent s.position
  return { (s.emit (.scalar .plain (String.ofList text))).allowKey broken with position := p }

/-- Whether a plain scalar can start with a character before another one. -/
def startsPlain (c : Char) (next : Option Char) : Bool :=
  if c == '-' then !(next.any isSpace)
  else if c == '?' || c == ':' then !endsWord next
  else !isSpace c && !("-?:,[]\x7b\x7d#&*!|>'\"%@`".toList.contains c)

/-- Reads the token that starts with a character at the position. -/
def token (s : Scan) (c : Char) : Option Scan :=
  let p := s.position
  let next := p.peek? 1
  if p.column == 0 && c == '%' then s.directive
  else if p.column == 0 && p.hasWord ['-', '-', '-'] then s.documentMark .documentStart
  else if p.column == 0 && p.hasWord ['.', '.', '.'] then s.documentMark .documentEnd
  else if c == '[' then s.openFlow .flowSequence
  else if c == '{' then s.openFlow .flowMapping
  else if c == ']' then s.closeFlow .flowSequenceEnd
  else if c == '}' then s.closeFlow .flowMappingEnd
  else if c == ',' then s.flowEntry
  else if c == '-' && endsWord next then s.blockEntry
  else if c == '?' && (s.inFlow || endsWord next) then s.key
  else if c == ':' && (s.inFlow || endsWord next) then s.value
  else if c == '*' then s.named .alias
  else if c == '&' then s.named .anchor
  else if c == '!' then s.tag
  else if c == '|' && !s.inFlow then s.block true
  else if c == '>' && !s.inFlow then s.block false
  else if c == '\'' then s.quoted true
  else if c == '\"' then s.quoted false
  else if startsPlain c next then s.plain
  else none

/-- What a step gives, or says that it cannot be taken at the position. -/
def orRefuse (s : Scan) (step : Option Scan) : Except String Scan :=
  match step with
  | some s => .ok s
  | none =>
    .error s!"cannot read a token at line {s.position.line + 1} column {s.position.column + 1}"

/-- Reads tokens up to the end of the text. -/
def run : Nat → Scan → Except String (List Token)
  | 0, s => Scan.tokens <$> s.orRefuse none
  | fuel + 1, s => do
    let s := skipBlanks s.position.rest.length s
    let s ← s.orRefuse s.dropStale
    match s.position.peek? with
    | none => Scan.tokens <$> s.orRefuse (s.unroll none).dropCandidate
    | some c => do
      let s ← s.orRefuse ((s.unroll (some s.position.column)).token c)
      run fuel s

end Scan

/-- The tokens of a text, or why it has none. -/
def Token.ofText (text : List Char) : Except String (List Token) :=
  if text.all isReadable then (Scan.ofText text).run (text.length + 1)
  else .error "control characters are not allowed"

end Groundplan.Yaml
