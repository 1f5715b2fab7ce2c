import Groundplan.Source
import Groundplan.Value

/-!
# Configuration trees

What a document says, apart from the dialect that it is written in: a `Body` of attributes and
blocks, whose expressions are literals, templates, collections, and forms that are kept only as the
source text of their span.
-/

namespace Groundplan

/-- A value written out. -/
inductive Literal where
  | null
  | bool (value : Bool)
  | number (value : Number)
  | string (value : String)
  deriving DecidableEq, Repr

namespace Literal

/-- The canonical value of a literal. -/
def toValue : Literal → Value
  | null => .null
  | bool b => .bool b
  | number n => .number n
  | string s => .string s

/-- The text of a literal inside a template; null has none. -/
def text? : Literal → Option String
  | null => none
  | bool b => some (if b then "true" else "false")
  | number n => some n.text
  | string s => some s

end Literal

mutual

/-- An expression with the span of its source. -/
inductive Expression where
  /-- A value written out. -/
  | literal (span : Span) (value : Literal)
  /-- Text with interpolations and directives. -/
  | template (span : Span) (parts : List Part)
  /-- A template that is nothing but one interpolation, and so stands for its expression. -/
  | wrap (span : Span) (inner : Expression)
  /-- A list of expressions. -/
  | tuple (span : Span) (items : List Expression)
  /-- Keys with values. -/
  | object (span : Span) (items : List Item)
  /-- A variable, an attribute or an element of one. -/
  | reference (span : Span)
  /-- A choice between two expressions. -/
  | conditional (span : Span) (condition yes no : Expression)
  /-- A repetition inside a template. -/
  | forEach (span : Span) (key : Option String) (value : String) (collection body : Expression)
  /-- Anything else. -/
  | dynamic (span : Span)
  deriving Repr

/-- An entry of an object expression. -/
inductive Item where
  | mk (key value : Expression)
  deriving Repr

/-- A part of a template. -/
inductive Part where
  /-- Text as it is, unescaped. -/
  | literal (text : String)
  /-- An expression inserted into the text. -/
  | interpolation (expr : Expression)
  /-- A conditional or a repetition over text. -/
  | directive (expr : Expression)
  deriving Repr

end

namespace Expression

/-- The span of an expression. -/
def span : Expression → Span
  | literal s _ => s
  | template s _ => s
  | wrap s _ => s
  | tuple s _ => s
  | object s _ => s
  | reference s => s
  | conditional s _ _ _ => s
  | forEach s _ _ _ _ => s
  | dynamic s => s

end Expression

/-- The text of a template without interpolations and directives. -/
def Part.literalText? : List Part → Option String
  | [] => some ""
  | .literal text :: rest => (text ++ ·) <$> literalText? rest
  | .interpolation _ :: _ => none
  | .directive _ :: _ => none

/-- A named expression. -/
structure Attribute where
  name : String
  expr : Expression
  deriving Repr

mutual

/-- A scope: attributes and blocks, each in the order of the document. -/
inductive Body where
  | mk (attributes : List Attribute) (blocks : List Block)
  deriving Repr

/-- A labelled scope inside another. -/
inductive Block where
  | mk (kind : String) (labels : List String) (span : Span) (body : Body)
  deriving Repr

end

namespace Body

/-- The attributes of a scope. -/
def attributes : Body → List Attribute
  | mk attributes _ => attributes

/-- The blocks of a scope. -/
def blocks : Body → List Block
  | mk _ blocks => blocks

end Body

namespace Block

/-- The type of a block. -/
def kind : Block → String
  | mk kind _ _ _ => kind

/-- The labels of a block. -/
def labels : Block → List String
  | mk _ labels _ _ => labels

/-- The span from the type of a block to its closing brace. -/
def span : Block → Span
  | mk _ _ span _ => span

/-- The scope of a block. -/
def body : Block → Body
  | mk _ _ _ body => body

end Block
end Groundplan
