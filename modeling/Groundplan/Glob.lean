/-!
# Glob patterns

In a pattern `?` matches any character, `*` any text, `**` any number of leading components of a path,
and `[…]` one character of a class, `[!…]` one outside of it.  `*`, `?` and classes match slashes and
points as well.  A pattern that breaks the rules has a `Fault` at a position counted in characters.
-/

namespace Groundplan.Glob

/-- One entry of a character class. -/
inductive Member where
  | single (c : Char)
  | range (first last : Char)
  deriving DecidableEq, Repr

/-- A token of a pattern. -/
inductive Token where
  | char (c : Char)
  | anyChar
  | anyText
  | anyComponents
  | within (members : List Member)
  | except (members : List Member)
  deriving DecidableEq, Repr

/-- A pattern is a list of tokens. -/
abbrev Pattern := List Token

/-- The rules that a pattern can break. -/
inductive Rule where
  | wildcards
  | recursiveWildcards
  | range
  deriving DecidableEq, Repr

/-- What is wrong with a pattern, and where. -/
structure Fault where
  position : Nat
  rule : Rule
  deriving DecidableEq, Repr

/-- The wording of a rule. -/
def Rule.message : Rule → String
  | wildcards => "wildcards are either regular `*` or recursive `**`"
  | recursiveWildcards => "recursive wildcards must form a single path component"
  | range => "invalid range pattern"

/-- The wording of a fault. -/
def Fault.message (f : Fault) : String :=
  s!"Pattern syntax error near position {f.position}: {f.rule.message}"

/-! ### Reading -/

/-- The entries of a class. -/
def members : List Char → List Member
  | a :: '-' :: b :: rest => .range a b :: members rest
  | a :: rest => .single a :: members rest
  | [] => []

/-- Splits a class at its closing bracket; the first character belongs to the class even when it is a
bracket. -/
def splitClass : List Char → Option (List Char × List Char)
  | [] => none
  | first :: rest =>
    match rest.span (· ≠ ']') with
    | (_, []) => none
    | (inside, _ :: after) => some (first :: inside, after)

/-- The token of a class and what follows it, after the opening bracket. -/
def classToken? : List Char → Option (Token × List Char)
  | '!' :: rest => (fun (inside, after) => (.except (members inside), after)) <$> splitClass rest
  | rest => (fun (inside, after) => (.within (members inside), after)) <$> splitClass rest

/-- Number of stars at the start. -/
def stars (text : List Char) : Nat := (text.takeWhile (· == '*')).length

/-- Whether `**` may stand after a character. -/
def startsComponent : Option Char → Bool
  | none => true
  | some c => c == '/'

/-- Reads a pattern of at most `fuel` characters from a position on; `previous` is the character
before it. -/
def readFrom (fuel position : Nat) (previous : Option Char) (text : List Char) :
    Except Fault Pattern :=
  match fuel, text with
  | 0, _ => .ok []
  | _, [] => .ok []
  | fuel + 1, '?' :: rest => (.anyChar :: ·) <$> readFrom fuel (position + 1) (some '?') rest
  | fuel + 1, '*' :: rest =>
    match stars rest with
    | 0 => (.anyText :: ·) <$> readFrom fuel (position + 1) (some '*') rest
    | 1 =>
      if startsComponent previous then
        match rest.drop 1 with
        | [] => .ok [.anyComponents]
        | '/' :: more => (.anyComponents :: ·) <$> readFrom fuel (position + 3) (some '/') more
        | _ => .error ⟨position + 2, .recursiveWildcards⟩
      else .error ⟨position - 1, .recursiveWildcards⟩
    | _ => .error ⟨position + 2, .wildcards⟩
  | fuel + 1, '[' :: rest =>
    match classToken? rest with
    | some (token, after) =>
      (token :: ·) <$> readFrom fuel (position + 1 + (rest.length - after.length)) (some ']') after
    | none => .error ⟨position, .range⟩
  | fuel + 1, c :: rest => (.char c :: ·) <$> readFrom fuel (position + 1) (some c) rest

/-- Reads a pattern. -/
def Pattern.read (text : String) : Except Fault Pattern :=
  readFrom text.length 0 none text.toList

/-! ### Matching -/

/-- Whether an entry of a class holds a character. -/
def Member.holds (c : Char) : Member → Bool
  | single a => c == a
  | range a b => a ≤ c && c ≤ b

/-- Whether a token that stands for one character matches it. -/
def Token.accepts (c : Char) : Token → Bool
  | char a => c == a
  | anyChar => true
  | within members => members.any (Member.holds c)
  | except members => !members.any (Member.holds c)
  | anyText => false
  | anyComponents => false

/-- What may be left of a text after any of its characters. -/
def suffixes : List Char → List (List Char)
  | [] => [[]]
  | c :: rest => (c :: rest) :: suffixes rest

/-- What follows the slashes of a text, and the empty rest. -/
def remainders : List Char → List (List Char)
  | [] => [[]]
  | c :: rest => if c = '/' then rest :: remainders rest else remainders rest

/-- What may be left of a text after some of its leading components: the text itself, what follows one
of its slashes, or nothing. -/
def afterComponents (text : List Char) : List (List Char) :=
  text :: remainders text

/-- Whether a pattern matches a whole text. -/
def Pattern.isMatch : Pattern → List Char → Bool
  | [], text => text.isEmpty
  | .anyText :: tokens, text => (suffixes text).any (isMatch tokens)
  | .anyComponents :: tokens, text => (afterComponents text).any (isMatch tokens)
  | token :: tokens, c :: text => token.accepts c && isMatch tokens text
  | _ :: _, [] => false

/-- Whether a pattern matches a whole text. -/
def Pattern.matchesText (p : Pattern) (text : String) : Bool := p.isMatch text.toList

end Groundplan.Glob
