import Groundplan.Error
import Groundplan.Hcl.Expr
import Groundplan.Text.Blank
import Groundplan.Tree

/-!
# Configuration trees of HCL documents

Lowering forgets what canonical values do not depend on: operations, calls and repetitions over
collections become `dynamic` expressions, variables and accesses `reference` ones, and only their
spans stay.  A strip mark of a template takes the white space off the texts next to it.
-/

namespace Groundplan.Hcl

namespace Element

/-- Whether the markers of a template piece strip the text before it and the text after it. -/
def strips : Element → Strip
  | literal _ => ⟨false, false⟩
  | interpolation strip _ => strip
  | ifThen opening _ _ closing => ⟨opening.before, closing.after⟩
  | ifElse opening _ _ _ _ closing => ⟨opening.before, closing.after⟩
  | repetition opening _ _ _ _ closing => ⟨opening.before, closing.after⟩

end Element

/-- The text between two markers, stripped on the sides where they say so. -/
def stripped (start stop : Bool) (text : String) : String :=
  let text := text.toList
  let text := if start then Text.trimStart text else text
  String.ofList (if stop then Text.trimEnd text else text)

/-- Whether the text before the elements `rest` is stripped at its end; `last` is what the marker
after the template says. -/
def stripsEnd (last : Bool) (rest : List Element) : Bool :=
  match rest with
  | [] => last
  | next :: _ => next.strips.before

/-- The error for a piece of syntax without a span. -/
def unplaced (file : String) : Error :=
  .unreadable file "parser produced an expression without a source span"

/-- A span, which has to be there. -/
def placed (file : String) : Option Span → Except Error Span
  | some span => .ok span
  | none => .error (unplaced file)

/-- The expression of a template: its only part, if that is an interpolation. -/
def ofParts (span : Span) : List Part → Expression
  | [.interpolation inner] => .wrap span inner
  | parts => .template span parts

/-- A conditional whose operands lower, and otherwise one that is kept as it is written. -/
def conditionalExpression (span : Span) (condition yes no : Except Error Expression) : Expression :=
  match condition, yes, no with
  | .ok condition, .ok yes, .ok no => .conditional span condition yes no
  | _, _, _ => .dynamic span

mutual

/-- Lowers an expression. -/
def Expr.lower (file : String) (e : Expr) : Except Error Expression :=
  match e with
  | .mk recorded form => do
    let span ← placed file (Expr.mk recorded form).extent
    Form.lower file span form
termination_by structural e

/-- Lowers a form that stands at a span. -/
def Form.lower (file : String) (span : Span) (form : Form) : Except Error Expression :=
  match form with
  | .null => .ok (.literal span .null)
  | .bool value => .ok (.literal span (.bool value))
  | .number value => .ok (.literal span (.number value))
  | .string value => .ok (.literal span (.string value))
  | .array items => .tuple span <$> lowerExprs file items
  | .object items => .object span <$> lowerItems file items
  | .template elements => ofParts span <$> lowerElements file false false elements
  | .heredoc elements => ofParts span <$> lowerElements file false false elements
  | .variable _ => .ok (.reference span)
  | .traversal _ _ => .ok (.reference span)
  | .conditional condition yes no =>
    .ok (conditionalExpression span (Expr.lower file condition) (Expr.lower file yes)
      (Expr.lower file no))
  | .parens _ => .ok (.dynamic span)
  | .call _ _ _ => .ok (.dynamic span)
  | .unary _ _ => .ok (.dynamic span)
  | .binary _ _ _ => .ok (.dynamic span)
  | .listFor _ _ _ _ _ => .ok (.dynamic span)
  | .objectFor _ _ _ _ _ _ _ => .ok (.dynamic span)
termination_by structural form

/-- Lowers expressions, in order. -/
def lowerExprs (file : String) (es : List Expr) : Except Error (List Expression) :=
  match es with
  | [] => .ok []
  | e :: rest => do
    let first ← Expr.lower file e
    let others ← lowerExprs file rest
    return first :: others
termination_by structural es

/-- Lowers the key of an object item; a bare name is a reference. -/
def Key.lower (file : String) (key : Key) : Except Error Expression :=
  match key with
  | .identifier span _ => .reference <$> placed file span
  | .expr e => Expr.lower file e
termination_by structural key

/-- Lowers the items of an object, in order. -/
def lowerItems (file : String) (items : List (Key × Expr)) : Except Error (List Item) :=
  match items with
  | [] => .ok []
  | (key, value) :: rest => do
    let key ← Key.lower file key
    let value ← Expr.lower file value
    let others ← lowerItems file rest
    return .mk key value :: others
termination_by structural items

/-- Lowers a piece of a template other than text. -/
def Element.lower (file : String) (element : Element) : Except Error Part :=
  match element with
  | .literal text => .ok (.literal text)
  | .interpolation _ e => .interpolation <$> Expr.lower file e
  | .ifThen opening condition yes closing => do
    let condition ← Expr.lower file condition
    let span := condition.span
    let yes ← lowerElements file opening.after closing.before yes
    return .directive (.conditional span condition (.template span yes) (.template span []))
  | .ifElse opening condition yes middle no closing => do
    let condition ← Expr.lower file condition
    let span := condition.span
    let yes ← lowerElements file opening.after middle.before yes
    let no ← lowerElements file middle.after closing.before no
    return .directive (.conditional span condition (.template span yes) (.template span no))
  | .repetition opening key value collection body closing => do
    let collection ← Expr.lower file collection
    let span := collection.span
    let body ← lowerElements file opening.after closing.before body
    return .directive (.forEach span key value collection (.template span body))
termination_by structural element

/-- Lowers a template.  Its first text is stripped at its start when `first`, its last one at its end
when `last`, and the texts between as the markers next to them say. -/
def lowerElements (file : String) (first last : Bool) (elements : List Element) :
    Except Error (List Part) :=
  match elements with
  | [] => .ok []
  | .literal text :: rest => do
    let others ← lowerElements file false last rest
    return .literal (stripped first (stripsEnd last rest) text) :: others
  | element :: rest => do
    let part ← Element.lower file element
    let others ← lowerElements file element.strips.after last rest
    return part :: others
termination_by structural elements

end

mutual

/-- Lowers a body. -/
def BodyDef.lower (file : String) (body : BodyDef) : Except Error Body :=
  match body with
  | .mk structures => do
    let (attributes, blocks) ← lowerStructures file structures
    return .mk attributes blocks
termination_by structural body

/-- Lowers the structures of a body, attributes and blocks apart. -/
def lowerStructures (file : String) (structures : List Structure) :
    Except Error (List Attribute × List Block) :=
  match structures with
  | [] => .ok ([], [])
  | .entry definition :: rest => do
    let expr ← definition.value.lower file
    let (attributes, blocks) ← lowerStructures file rest
    return (⟨definition.name, expr⟩ :: attributes, blocks)
  | .block span identSpan kind labels body :: rest => do
    let body ← BodyDef.lower file body
    let span ← placed file (span.or identSpan)
    let (attributes, blocks) ← lowerStructures file rest
    return (attributes, .mk kind labels span body :: blocks)
termination_by structural structures

end

end Groundplan.Hcl
