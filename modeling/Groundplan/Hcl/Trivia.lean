import Groundplan.Hcl.Cursor

/-!
# Blanks and comments

Between the tokens of a line stand spaces, tabs and `/* */` comments; where line breaks are free,
line breaks and `#` and `//` comments stand there too.  Comments do not nest, and an unfinished one is
no comment.
-/

namespace Groundplan.Hcl

/-- What skipping is inside of, with the position to fall back to if it does not end. -/
inductive Skipping where
  | blanks
  | blockComment (start : Cursor)
  | lineComment (start : Cursor)

/-- Skips blanks and comments; line breaks and line comments only when `lines`. -/
def skipTrivia (lines : Bool) : Skipping → Nat → List Char → Cursor
  | .blanks, o, [] => ⟨o, []⟩
  | .blanks, o, c :: rest =>
    if c = ' ' ∨ c = '\t' ∨ (lines ∧ (c = '\n' ∨ c = '\r')) then skipTrivia lines .blanks (o + 1) rest
    else if c = '#' ∧ lines then skipTrivia lines (.lineComment ⟨o, c :: rest⟩) (o + 1) rest
    else if c = '/' then
      match rest with
      | '*' :: more => skipTrivia lines (.blockComment ⟨o, c :: rest⟩) (o + 2) more
      | '/' :: more =>
        if lines then skipTrivia lines (.lineComment ⟨o, c :: rest⟩) (o + 2) more else ⟨o, c :: rest⟩
      | _ => ⟨o, c :: rest⟩
    else ⟨o, c :: rest⟩
  | .blockComment start, _, [] => start
  | .blockComment _, o, '*' :: '/' :: rest => skipTrivia lines .blanks (o + 2) rest
  | .blockComment start, o, c :: rest =>
    skipTrivia lines (.blockComment start) (o + c.utf8Size) rest
  | .lineComment _, o, [] => ⟨o, []⟩
  | .lineComment _, o, '\n' :: rest => skipTrivia lines .blanks (o + 1) rest
  | .lineComment _, o, '\r' :: '\n' :: rest => skipTrivia lines .blanks (o + 2) rest
  | .lineComment start, _, '\r' :: _ => start
  | .lineComment start, o, c :: rest =>
    skipTrivia lines (.lineComment start) (o + c.utf8Size) rest

/-- The position of the line break that ends a comment which starts at `start`, or `start` when a
carriage return stands inside the comment. -/
def lineCommentEnd (start : Cursor) : Nat → List Char → Cursor
  | o, [] => ⟨o, []⟩
  | o, '\n' :: rest => ⟨o, '\n' :: rest⟩
  | o, '\r' :: '\n' :: rest => ⟨o, '\r' :: '\n' :: rest⟩
  | _, '\r' :: _ => start
  | o, c :: rest => lineCommentEnd start (o + c.utf8Size) rest

namespace Parse

/-- Skips blanks and comments within a line. -/
def skipSpace : Parse Unit := modify fun c => skipTrivia false .blanks c.offset c.rest

/-- Skips blanks and comments, line breaks included. -/
def skipLines : Parse Unit := modify fun c => skipTrivia true .blanks c.offset c.rest

/-- Skips blanks and comments, line breaks included only when `lines`. -/
def skipBetween (lines : Bool) : Parse Unit := if lines then skipLines else skipSpace

/-- Skips a comment up to the end of the line. -/
def skipLineComment : Parse Unit := do
  let c ← get
  match c.rest with
  | '#' :: rest => set (lineCommentEnd c (c.offset + 1) rest)
  | '/' :: '/' :: rest => set (lineCommentEnd c (c.offset + 2) rest)
  | _ => return ()

/-- Reads a line break, if one stands at the position. -/
def acceptLineBreak : Parse Bool := do
  if ← accept ['\n'] then return true else accept ['\r', '\n']

/-- Reads the end of a line or finds the end of the document. -/
def expectLineEnd : Parse Unit := do
  if ← acceptLineBreak then return ()
  match ← peek? with
  | none => return ()
  | some _ => refuse

end Parse
end Groundplan.Hcl
