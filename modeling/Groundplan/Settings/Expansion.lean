/-!
# Variables in settings

The text of settings may name variables of the environment as `$NAME` or `${NAME}`.  A name is a
letter or an underscore with letters, digits and underscores after it, as many as there are.  The text
is read once from the left: a variable that is set is replaced by its value, which is not read again,
and everything else stays.
-/

namespace Groundplan

/-- The variables that are set. -/
abbrev Environment := List (String × String)

namespace Environment

/-- The value of a variable. -/
def get? (env : Environment) (name : String) : Option String :=
  (env.find? (·.1 == name)).map (·.2)

end Environment

namespace Expansion

/-- A piece of a text. -/
inductive Piece where
  | plain (c : Char)
  /-- A variable, with or without braces around its name. -/
  | named (braced : Bool) (name : List Char)
  deriving DecidableEq, Repr

/-- Whether a name can start with a character. -/
def startsName (c : Char) : Bool := c.isAlpha || c == '_'

/-- Whether a name can go on with a character. -/
def continuesName (c : Char) : Bool := c.isAlphanum || c == '_'

/-- The name that a text starts with. -/
def name? : List Char → Option (List Char)
  | c :: rest => if startsName c then some (c :: rest.takeWhile continuesName) else none
  | [] => none

/-- The variable that follows a dollar sign, and its number of characters. -/
def named? : List Char → Option (Piece × Nat)
  | '{' :: rest =>
    match name? rest with
    | some name =>
      if rest[name.length]? = some '}' then some (.named true name, name.length + 2) else none
    | none => none
  | rest => (name? rest).map fun name => (.named false name, name.length)

/-- The pieces of a text after its first `skip` characters. -/
def piecesAfter (skip : Nat) (text : List Char) : List Piece :=
  match skip, text with
  | _, [] => []
  | skip + 1, _ :: rest => piecesAfter skip rest
  | 0, c :: rest =>
    if c = '$' then
      match named? rest with
      | some (piece, length) => piece :: piecesAfter length rest
      | none => .plain c :: piecesAfter 0 rest
    else .plain c :: piecesAfter 0 rest
termination_by structural text

/-- The pieces of a text. -/
def pieces (text : List Char) : List Piece := piecesAfter 0 text

/-- A piece as it was written. -/
def Piece.written : Piece → List Char
  | plain c => [c]
  | named true name => '$' :: '{' :: name ++ ['}']
  | named false name => '$' :: name

/-- What a piece becomes. -/
def Piece.expanded (env : Environment) : Piece → List Char
  | plain c => [c]
  | named braced name =>
    match env.get? (String.ofList name) with
    | some value => value.toList
    | none => (named braced name).written

end Expansion

/-- The text with the variables of an environment replaced. -/
def Environment.expand (env : Environment) (text : String) : String :=
  String.ofList ((Expansion.pieces text.toList).flatMap (Expansion.Piece.expanded env))

/-- The names of the variables in a text. -/
def Expansion.names (text : String) : List String :=
  (Expansion.pieces text.toList).filterMap fun
    | .plain _ => none
    | .named _ name => some (String.ofList name)

end Groundplan
