import Groundplan.Tree
import Groundplan.Error

/-!
# Canonical form of expressions

An expression stands in value position, where it becomes a `Value`, or in string position (inside a
template or as an object key), where it becomes text.  Literals and collections are evaluated;
templates are rebuilt from their parts; what cannot be evaluated is quoted from the source inside a
marker `${…}`, a conditional or a repetition inside a template as a directive.  Every step into
an expression counts one level against a ceiling.
-/

namespace Groundplan

/-- What a conversion reads besides the tree: the source that spans point into, and the ceiling on
nesting. -/
structure Conversion where
  source : Source
  maxDepth : Nat

namespace Conversion

/-- The depth one level further in, as long as it is below the ceiling. -/
def enter (c : Conversion) (depth : Nat) : Except Error Nat :=
  if depth + 1 ≤ c.maxDepth then .ok (depth + 1) else .error (.tooDeep c.maxDepth)

/-- The source text of a span. -/
def quote (c : Conversion) (span : Span) : Except Error String :=
  match c.source.quote span with
  | .ok text => .ok text
  | .error fault => .error (.unreadable "" fault.message)

/-- The marker that stands for the expression of a span. -/
def marker (c : Conversion) (span : Span) : Except Error String :=
  (fun text => "$\x7b" ++ text ++ "\x7d") <$> c.quote span

/-- The error for an expression that has no text: it quotes the source, or gives the offsets when
the source has none there. -/
def noText (c : Conversion) (span : Span) : Error :=
  let expression := match c.source.quote span with
    | .ok text => text
    | .error _ => s!"<{span.start}..{span.stop}>"
  .noValue expression "null cannot be converted to a string"

/-- The directive for a conditional; an empty second branch is left out. -/
def ifText (condition yes no : String) : String :=
  "%\x7bif " ++ condition ++ "\x7d" ++ yes ++ (if no = "" then "" else "%\x7belse\x7d" ++ no)
    ++ "%\x7bendif\x7d"

/-- The directive for a repetition. -/
def forText (key : Option String) (value collection body : String) : String :=
  let names := match key with
    | some key => key ++ ", " ++ value
    | none => value
  "%\x7bfor " ++ names ++ " in " ++ collection ++ "\x7d" ++ body ++ "%\x7bendfor\x7d"

/-- The text of a template: its literal text when it has nothing else, and otherwise what its parts
render to. -/
def joined (parts : List Part) (rendered : Except Error String) : Except Error String :=
  match Part.literalText? parts with
  | some text => .ok text
  | none => rendered

/-- The text of an object key: a bare reference is quoted as it stands, anything else is in string
position. -/
def keyed (c : Conversion) (key : Expression) (rendered : Except Error String) :
    Except Error String :=
  match key with
  | .reference span => c.quote span
  | _ => rendered

mutual

/-- An expression in value position. -/
def expression (c : Conversion) (depth : Nat) (e : Expression) : Except Error Value := do
  let depth ← c.enter depth
  match e with
  | .literal _ value => .ok value.toValue
  | .template _ parts => .string <$> joined parts (rendered c depth parts)
  | .wrap _ inner => expression c depth inner
  | .tuple _ items => .array <$> elements c depth items
  | .object _ items => .object <$> entries c depth [] items
  | .reference span => .string <$> c.marker span
  | .conditional span _ _ _ => .string <$> c.marker span
  | .forEach span _ _ _ _ => .string <$> c.marker span
  | .dynamic span => .string <$> c.marker span
termination_by structural e

/-- The elements of a tuple, in order. -/
def elements (c : Conversion) (depth : Nat) (es : List Expression) : Except Error (List Value) :=
  match es with
  | [] => .ok []
  | e :: rest => do
    let value ← expression c depth e
    let values ← elements c depth rest
    return value :: values
termination_by structural es

/-- Adds the items of an object to the entries before them; of equal keys the last one counts. -/
def entries (c : Conversion) (depth : Nat) (before : Entries Value) (items : List Item) :
    Except Error (Entries Value) :=
  match items with
  | [] => .ok before
  | .mk key value :: rest => do
    let key ← c.keyed key (partText c depth key)
    let value ← expression c depth value
    entries c depth (before.insert key value) rest
termination_by structural items

/-- The texts of the parts of a template, joined. -/
def rendered (c : Conversion) (depth : Nat) (parts : List Part) : Except Error String :=
  match parts with
  | [] => .ok ""
  | .literal text :: rest => (text ++ ·) <$> rendered c depth rest
  | .interpolation e :: rest => do
    let text ← partText c depth e
    (text ++ ·) <$> rendered c depth rest
  | .directive e :: rest => do
    let text ← partText c depth e
    (text ++ ·) <$> rendered c depth rest
termination_by structural parts

/-- An expression in string position. -/
def partText (c : Conversion) (depth : Nat) (e : Expression) : Except Error String := do
  let depth ← c.enter depth
  match e with
  | .literal span value =>
    match value.text? with
    | some text => .ok text
    | none => .error (c.noText span)
  | .template _ parts => joined parts (rendered c depth parts)
  | .wrap _ inner => partText c depth inner
  | .conditional _ condition yes no => do
    let condition ← c.quote condition.span
    let yes ← partText c depth yes
    let no ← partText c depth no
    return ifText condition yes no
  | .forEach _ key value collection body => do
    let collection ← c.quote collection.span
    let body ← partText c depth body
    return forText key value collection body
  | .tuple span _ => c.marker span
  | .object span _ => c.marker span
  | .reference span => c.marker span
  | .dynamic span => c.marker span
termination_by structural e

end

/-- A template that is only text renders to it, so that nothing has to be looked at beforehand. -/
theorem joined_rendered (c : Conversion) (depth : Nat) (parts : List Part) :
    joined parts (c.rendered depth parts) = c.rendered depth parts := by
  unfold joined
  split
  case h_2 => rfl
  case h_1 text htext =>
    induction parts generalizing text with
    | nil =>
      obtain rfl := Option.some.inj htext
      rw [rendered]
    | cons part rest ih =>
      cases part with
      | literal t =>
        rw [Part.literalText?] at htext
        obtain ⟨u, hu, rfl⟩ := Option.map_eq_some_iff.mp htext
        rw [rendered, ← ih u hu]
        rfl
      | interpolation | directive => cases htext

end Conversion
end Groundplan
