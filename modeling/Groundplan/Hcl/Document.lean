import Groundplan.Hcl.Reader

/-!
# Reading documents

A document is a body: attributes and blocks, each on a line of its own.  An attribute may be named
once in a body.  A block holds a body between braces on lines of their own, or at most one attribute
on the line of the braces.
-/

namespace Groundplan.Hcl

namespace Structure

/-- The name that a structure defines as an attribute. -/
def name? : Structure → Option String
  | entry definition => some definition.name
  | block .. => none

end Structure

namespace Parse

/-- Reads the labels of a block: names and quoted texts, up to something else. -/
def labels : Nat → Parse (List String)
  | 0 => refuse
  | fuel + 1 => do
    skipSpace
    match ← peek? with
    | some c =>
      if c = '\"' then return (← quotedText) :: (← labels fuel)
      else if Text.isIdentifierStart c then return (← identifier) :: (← labels fuel)
      else return []
    | none => return []

/-- Reads an attribute after its name. -/
def entryValue (fuel : Nat) (name : String) : Parse Structure := do
  expect ['=']
  skipSpace
  return .entry ⟨name, ← expr fuel .line⟩

/-- Reads a body on the line of its braces, which holds at most one attribute. -/
def lineBody (fuel : Nat) : Parse BodyDef := do
  if ← accept ['\x7d'] then return .mk []
  let name ← identifier
  skipSpace
  let entry ← entryValue fuel name
  skipSpace
  expect ['\x7d']
  return .mk [entry]

mutual

/-- Reads the structures of a body after those that define the attributes `defined`. -/
def structures (fuel : Nat) (defined : List String) : Parse (List Structure) :=
  match fuel with
  | 0 => refuse
  | fuel + 1 => do
    skipLines
    match ← peek? with
    | none => return []
    | some c =>
      if !Text.isIdentifierStart c then return []
      let first ← structure? fuel
      let defined ← match first.name? with
        | some name => if defined.contains name then refuse else pure (name :: defined)
        | none => pure defined
      skipSpace
      skipLineComment
      expectLineEnd
      return first :: (← structures fuel defined)
termination_by structural fuel

/-- Reads an attribute or a block. -/
def structure? (fuel : Nat) : Parse Structure :=
  match fuel with
  | 0 => refuse
  | fuel + 1 => do
    let start ← here
    let name ← identifier
    let named : Span := ⟨start, ← here⟩
    skipSpace
    if (← get).rest.head? = some '=' then entryValue fuel name
    else
      let labels ← labels fuel
      expect ['\x7b']
      let body ← blockBody fuel
      return .block (some ⟨start, ← here⟩) (some named) name labels body
termination_by structural fuel

/-- Reads the body of a block after its opening brace, up to and including the closing one. -/
def blockBody (fuel : Nat) : Parse BodyDef :=
  match fuel with
  | 0 => refuse
  | fuel + 1 => do
    skipSpace
    let back ← get
    skipLineComment
    if ← acceptLineBreak then
      let body ← structures fuel []
      skipLines
      expect ['\x7d']
      return .mk body
    else
      set back
      lineBody fuel
termination_by structural fuel

end

/-- Reads a whole document. -/
def document (fuel : Nat) : Parse BodyDef := do
  let body ← structures fuel []
  skipLines
  match ← peek? with
  | none => return .mk body
  | some _ => refuse

end Parse

/-- The body that a text is, or why it is no document.  The bound on the depth of reading is more
than any text of its length needs. -/
def BodyDef.read (text : String) : Except Stop BodyDef :=
  (·.1) <$> Parse.document (8 * text.length + 16) (.ofString text)

end Groundplan.Hcl
