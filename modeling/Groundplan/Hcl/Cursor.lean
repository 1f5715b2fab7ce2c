/-!
# Reading position

A `Cursor` is the text that is still to be read, with its byte offset in the document.  A `Parse` reads
from a cursor and leaves another one behind, or stops and says where.  Where a reading stops at a
mismatch, another one may be tried from the same place; text that is malformed can not be read in any
way.
-/

namespace Groundplan.Hcl

/-- A position in a document. -/
structure Cursor where
  /-- Bytes read so far. -/
  offset : Nat
  /-- What is still to be read. -/
  rest : List Char
  deriving Repr

/-- Why a reading stopped, and at which byte. -/
inductive Stop where
  /-- Something else stands here. -/
  | mismatch (offset : Nat)
  /-- What stands here has begun as it should and does not go on as it must. -/
  | malformed (offset : Nat)
  deriving DecidableEq, Repr

/-- Where a reading stopped. -/
def Stop.offset : Stop → Nat
  | mismatch offset | malformed offset => offset

/-- The characters before a byte. -/
def charsBefore (offset : Nat) : List Char → List Char
  | [] => []
  | c :: rest =>
    if c.utf8Size ≤ offset then c :: charsBefore (offset - c.utf8Size) rest else []

/-- Says in which line and column of a text a reading stopped. -/
def Stop.message (stop : Stop) (text : String) : String :=
  let before := charsBefore stop.offset text.toList
  let line := before.countP (· == '\n') + 1
  let column := (before.reverse.takeWhile (· != '\n')).length + 1
  s!"HCL parse error in line {line}, column {column}"

/-- Reading that may stop. -/
abbrev Parse := StateT Cursor (Except Stop)

namespace Cursor

/-- The start of a document. -/
def ofString (text : String) : Cursor := ⟨0, text.toList⟩

/-- The position after some characters. -/
def advance (c : Cursor) : Nat → Cursor
  | 0 => c
  | n + 1 =>
    match c.rest with
    | [] => c
    | x :: rest => advance ⟨c.offset + x.utf8Size, rest⟩ n

/-- Number of bytes of a list of characters. -/
def byteCount (text : List Char) : Nat := text.foldl (fun n c => n + c.utf8Size) 0

/-- Splits off the characters that satisfy a test. -/
def span (c : Cursor) (p : Char → Bool) : List Char × Cursor :=
  let (taken, rest) := c.rest.span p
  (taken, ⟨c.offset + byteCount taken, rest⟩)

end Cursor

namespace Parse

/-- The byte offset of the position. -/
def here : Parse Nat := return (← get).offset

/-- The character at the position. -/
def peek? : Parse (Option Char) := return (← get).rest.head?

/-- Stops at a mismatch. -/
def refuse {α : Type} : Parse α := fun c => .error (.mismatch c.offset)

/-- What `p` reads, which has to stand here. -/
def committed {α : Type} (p : Parse α) : Parse α := fun c =>
  match p c with
  | .ok r => .ok r
  | .error stop => .error (.malformed stop.offset)

/-- What `p` reads; or, if it stops at a mismatch, the position stays. -/
def attempt {α : Type} (p : Parse α) : Parse (Option α) := fun c =>
  match p c with
  | .ok (x, c) => .ok (some x, c)
  | .error (.mismatch _) => .ok (none, c)
  | .error (.malformed offset) => .error (.malformed offset)

/-- Reads some characters, if they stand at the position. -/
def accept (text : List Char) : Parse Bool := do
  let c ← get
  if text.isPrefixOf c.rest then
    set (c.advance text.length)
    return true
  else return false

/-- Reads some characters, or refuses. -/
def expect (text : List Char) : Parse Unit := do
  if ← accept text then return () else refuse

/-- Reads the characters that satisfy a test. -/
def takeWhile (p : Char → Bool) : Parse (List Char) := do
  let (taken, c) := (← get).span p
  set c
  return taken

end Parse
end Groundplan.Hcl
