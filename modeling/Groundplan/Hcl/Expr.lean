import Groundplan.Number
import Groundplan.Source

/-!
# HCL documents as they are written

The tree of an HCL document keeps every form of the language apart and records where it stands.  A
span is recorded for every term, and for the whole of an expression; an operation in the middle of an
expression has none, and `Expr.extent` rebuilds it from its operands.
-/

namespace Groundplan.Hcl

/-- Operators before an operand. -/
inductive UnaryOperator where
  | minus
  | not
  deriving DecidableEq, Repr

/-- Operators between two operands. -/
inductive BinaryOperator where
  | or
  | and
  | equal
  | different
  | atMost
  | atLeast
  | less
  | greater
  | plus
  | minus
  | times
  | over
  | modulo
  deriving DecidableEq, Repr

/-- On which sides a template marker strips the white space next to it. -/
structure Strip where
  /-- Before the marker. -/
  before : Bool
  /-- After the marker. -/
  after : Bool
  deriving DecidableEq, Repr

mutual

/-- An expression and the span that was recorded for it. -/
inductive Expr where
  | mk (span : Option Span) (form : Form)
  deriving Repr

/-- The forms of an expression. -/
inductive Form where
  | null
  | bool (value : Bool)
  | number (value : Number)
  /-- A quoted text without markers, unescaped. -/
  | string (value : String)
  | array (items : List Expr)
  | object (items : List (Key × Expr))
  /-- A quoted text with markers. -/
  | template (elements : List Element)
  | heredoc (elements : List Element)
  | parens (inner : Expr)
  | variable (name : String)
  | conditional (condition yes no : Expr)
  /-- A call; the last argument may be spread. -/
  | call (name : List String) (arguments : List Expr) (spread : Bool)
  /-- Attribute and element accesses, one after the other. -/
  | traversal (base : Expr) (accesses : List Access)
  | unary (operator : UnaryOperator) (operand : Expr)
  | binary (operator : BinaryOperator) (left right : Expr)
  /-- `[for …]`. -/
  | listFor (key : Option String) (value : String) (collection item : Expr) (filter : List Expr)
  /-- `{for …}`; the values of equal keys may be grouped. -/
  | objectFor (key : Option String) (value : String) (collection itemKey item : Expr)
      (grouped : Bool) (filter : List Expr)
  deriving Repr

/-- The key of an object item. -/
inductive Key where
  /-- A bare identifier. -/
  | identifier (span : Option Span) (name : String)
  | expr (e : Expr)
  deriving Repr

/-- An access to a part of a value. -/
inductive Access where
  /-- `.name`. -/
  | member (span : Option Span) (name : String)
  /-- `.0`. -/
  | legacyIndex (span : Option Span) (index : Nat)
  /-- `.*`. -/
  | attributeSplat (span : Option Span)
  /-- `[…]`. -/
  | index (span : Option Span) (e : Expr)
  /-- `[*]`. -/
  | fullSplat (span : Option Span)
  deriving Repr

/-- A piece of a template. -/
inductive Element where
  /-- Text, unescaped. -/
  | literal (text : String)
  /-- `${…}`. -/
  | interpolation (strip : Strip) (e : Expr)
  /-- `%{if …}` up to `%{endif}`. -/
  | ifThen (opening : Strip) (condition : Expr) (yes : List Element) (closing : Strip)
  /-- `%{if …}` with `%{else}` up to `%{endif}`. -/
  | ifElse (opening : Strip) (condition : Expr) (yes : List Element) (middle : Strip)
      (no : List Element) (closing : Strip)
  /-- `%{for …}` up to `%{endfor}`. -/
  | repetition (opening : Strip) (key : Option String) (value : String) (collection : Expr)
      (body : List Element) (closing : Strip)
  deriving Repr

end

/-! ### Spans -/

namespace Access

/-- The recorded span of an access. -/
def span : Access → Option Span
  | member s _ => s
  | legacyIndex s _ => s
  | attributeSplat s => s
  | index s _ => s
  | fullSplat s => s

end Access

namespace Expr

/-- The recorded span. -/
def span : Expr → Option Span
  | mk s _ => s

/-- The form of an expression. -/
def form : Expr → Form
  | mk _ f => f

/-- The expression with a recorded span. -/
def withSpan (s : Span) : Expr → Expr
  | mk _ f => mk (some s) f

/-- The span from the start of one to the end of another. -/
def join (first last : Option Span) : Option Span :=
  match first, last with
  | some a, some b => some ⟨a.start, b.stop⟩
  | _, _ => none

/-- The span of an expression: the recorded one, or for a traversal, a binary operation or a
conditional the one from its first operand to its last. -/
def extent (e : Expr) : Option Span :=
  match e with
  | .mk (some s) _ => some s
  | .mk none (.traversal base accesses) =>
    join (extent base) (accesses.getLast?.bind Access.span)
  | .mk none (.binary _ left right) => join (extent left) (extent right)
  | .mk none (.conditional condition _ no) => join (extent condition) (extent no)
  | .mk none _ => none

end Expr

/-! ### Equality up to spans -/

mutual

/-- Whether two expressions are the same wherever they stand. -/
def Expr.same (a b : Expr) : Bool :=
  match a, b with
  | .mk _ f, .mk _ g => Form.same f g
termination_by structural a

/-- Whether two forms are the same wherever they stand. -/
def Form.same (a b : Form) : Bool :=
  match a, b with
  | .null, .null => true
  | .bool x, .bool y => x == y
  | .number x, .number y => x == y
  | .string x, .string y => x == y
  | .array xs, .array ys => sameExprs xs ys
  | .object xs, .object ys => sameItems xs ys
  | .template xs, .template ys => sameElements xs ys
  | .heredoc xs, .heredoc ys => sameElements xs ys
  | .parens x, .parens y => Expr.same x y
  | .variable x, .variable y => x == y
  | .conditional c x y, .conditional d u v => Expr.same c d && Expr.same x u && Expr.same y v
  | .call m xs s, .call n ys t => m == n && sameExprs xs ys && s == t
  | .traversal x os, .traversal y ps => Expr.same x y && sameAccesses os ps
  | .unary o x, .unary p y => o == p && Expr.same x y
  | .binary o x y, .binary p u v => o == p && Expr.same x u && Expr.same y v
  | .listFor k v c x ws, .listFor l w d y zs =>
    k == l && v == w && Expr.same c d && Expr.same x y && sameExprs ws zs
  | .objectFor k v c x y g ws, .objectFor l w d t u h zs =>
    k == l && v == w && Expr.same c d && Expr.same x t && Expr.same y u && g == h
      && sameExprs ws zs
  | _, _ => false
termination_by structural a

/-- Whether two lists of expressions are the same wherever they stand. -/
def sameExprs (xs ys : List Expr) : Bool :=
  match xs, ys with
  | [], [] => true
  | x :: xs, y :: ys => Expr.same x y && sameExprs xs ys
  | _, _ => false
termination_by structural xs

/-- Whether two keys are the same wherever they stand. -/
def Key.same (a b : Key) : Bool :=
  match a, b with
  | .identifier _ x, .identifier _ y => x == y
  | .expr x, .expr y => Expr.same x y
  | _, _ => false
termination_by structural a

/-- Whether two lists of object items are the same wherever they stand. -/
def sameItems (xs ys : List (Key × Expr)) : Bool :=
  match xs, ys with
  | [], [] => true
  | (k, x) :: xs, (l, y) :: ys => Key.same k l && Expr.same x y && sameItems xs ys
  | _, _ => false
termination_by structural xs

/-- Whether two accesses are the same wherever they stand. -/
def Access.same (a b : Access) : Bool :=
  match a, b with
  | .member _ x, .member _ y => x == y
  | .legacyIndex _ x, .legacyIndex _ y => x == y
  | .attributeSplat _, .attributeSplat _ => true
  | .index _ x, .index _ y => Expr.same x y
  | .fullSplat _, .fullSplat _ => true
  | _, _ => false
termination_by structural a

/-- Whether two lists of accesses are the same wherever they stand. -/
def sameAccesses (xs ys : List Access) : Bool :=
  match xs, ys with
  | [], [] => true
  | x :: xs, y :: ys => Access.same x y && sameAccesses xs ys
  | _, _ => false
termination_by structural xs

/-- Whether two pieces of templates are the same wherever they stand. -/
def Element.same (a b : Element) : Bool :=
  match a, b with
  | .literal x, .literal y => x == y
  | .interpolation s x, .interpolation t y => s == t && Expr.same x y
  | .ifThen o c xs e, .ifThen p d ys f =>
    o == p && Expr.same c d && sameElements xs ys && e == f
  | .ifElse o c xs m us e, .ifElse p d ys n vs f =>
    o == p && Expr.same c d && sameElements xs ys && m == n && sameElements us vs && e == f
  | .repetition o k v c xs e, .repetition p l w d ys f =>
    o == p && k == l && v == w && Expr.same c d && sameElements xs ys && e == f
  | _, _ => false
termination_by structural a

/-- Whether two lists of template pieces are the same wherever they stand. -/
def sameElements (xs ys : List Element) : Bool :=
  match xs, ys with
  | [], [] => true
  | x :: xs, y :: ys => Element.same x y && sameElements xs ys
  | _, _ => false
termination_by structural xs

end

/-! ### Documents -/

/-- An attribute of a body. -/
structure AttributeDef where
  name : String
  value : Expr
  deriving Repr

mutual

/-- The structures of a body, in order. -/
inductive BodyDef where
  | mk (structures : List Structure)
  deriving Repr

/-- An attribute, or a block with its own span and that of its type. -/
inductive Structure where
  | entry (definition : AttributeDef)
  | block (span identSpan : Option Span) (kind : String) (labels : List String) (body : BodyDef)
  deriving Repr

end

namespace BodyDef

/-- The structures of a body. -/
def structures : BodyDef → List Structure
  | mk structures => structures

end BodyDef

end Groundplan.Hcl
