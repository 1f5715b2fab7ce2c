import Groundplan.Hcl.Heredoc
import Groundplan.Hcl.Token

/-!
# Reading expressions and templates

An expression is a term followed by accesses, operations and at most one conditional.  Operators have
no precedence: the right operand of one is everything up to the end of the expression or to a `?`.
Expressions within a line stop at its end; inside brackets, parentheses and interpolations line breaks
are free, and they stay free behind a list, a call or a repetition.  In a repetition they are free from
the value on.
-/

namespace Groundplan.Hcl

/-! ### Operators and items -/

/-- The binary operator that a text starts with, and its length. -/
def operator? : List Char → Option (BinaryOperator × Nat)
  | '=' :: '=' :: _ => some (.equal, 2)
  | '!' :: '=' :: _ => some (.different, 2)
  | '<' :: '=' :: _ => some (.atMost, 2)
  | '>' :: '=' :: _ => some (.atLeast, 2)
  | '&' :: '&' :: _ => some (.and, 2)
  | '|' :: '|' :: _ => some (.or, 2)
  | '/' :: '/' :: _ => none
  | '/' :: '*' :: _ => none
  | '<' :: _ => some (.less, 1)
  | '>' :: _ => some (.greater, 1)
  | '+' :: _ => some (.plus, 1)
  | '-' :: _ => some (.minus, 1)
  | '*' :: _ => some (.times, 1)
  | '/' :: _ => some (.over, 1)
  | '%' :: _ => some (.modulo, 1)
  | _ => none

/-- How an expression is read. -/
structure Mode where
  /-- Whether line breaks are free between its parts. -/
  lines : Bool
  /-- Whether it may be a conditional. -/
  conditional : Bool
  deriving DecidableEq, Repr

namespace Mode

/-- An expression within a line. -/
def line : Mode := ⟨false, true⟩

/-- An expression between parentheses or markers. -/
def enclosed : Mode := ⟨true, true⟩

/-- An element of what is read in mode `m`: its line breaks are free, and it may be a conditional only
if that may. -/
def element (m : Mode) : Mode := { m with lines := true }

/-- The mode behind a binary operator: neither its right operand nor what is an element of that, nor a
branch of the conditional behind it, may be a conditional of its own. -/
def operand (m : Mode) : Mode := { m with conditional := false }

end Mode

/-- Whether line breaks are free behind a form: behind a list, a call, a repetition, and behind such an
operand of a unary operator. -/
def Form.freesLines : Form → Bool
  | .array _ => true
  | .call _ _ _ => true
  | .listFor _ _ _ _ _ => true
  | .objectFor _ _ _ _ _ _ _ => true
  | .unary _ (.mk _ form) => form.freesLines
  | _ => false

/-- The mode behind a term. -/
def Mode.after (m : Mode) (e : Expr) : Mode := { m with lines := m.lines || e.form.freesLines }

/-- Whether an access starts here; three points are no access. -/
def startsAccess : List Char → Bool
  | '.' :: '.' :: '.' :: _ => false
  | '.' :: _ => true
  | '[' :: _ => true
  | _ => false

/-- Whether a repetition starts here: the word `for` with a blank, a line feed or a comment after
it. -/
def startsFor : List Char → Bool
  | 'f' :: 'o' :: 'r' :: c :: _ => c == ' ' || c == '\t' || c == '#' || c == '/' || c == '\n'
  | _ => false

/-- Adds an item to an object.  An equal key keeps its place and takes the new item. -/
def addItem (items : List (Key × Expr)) (key : Key) (value : Expr) : List (Key × Expr) :=
  match items with
  | [] => [(key, value)]
  | (k, v) :: rest =>
    if k.same key then (key, value) :: rest else (k, v) :: addItem rest key value

/-- The key that an expression is: a bare name stands for itself. -/
def Key.ofExpr : Expr → Key
  | .mk span (.variable name) => .identifier span name
  | e => .expr e

/-- The expression of a bare name. -/
def Form.ofName : String → Form
  | "null" => .null
  | "true" => .bool true
  | "false" => .bool false
  | name => .variable name

namespace Parse

/-! ### Leaves -/

/-- Reads with the position where it starts and ends. -/
def spanned (p : Parse Form) : Parse Expr := do
  let start ← here
  let form ← p
  return .mk (some ⟨start, ← here⟩) form

/-- Reads a strip mark, if one stands at the position. -/
def stripMark : Parse Bool := accept ['~']

/-- Reads the end of a marker, and whether it strips what follows. -/
def markerEnd : Parse Bool := do
  skipLines
  let strip ← stripMark
  expect ['\x7d']
  return strip

/-- Reads a whole directive marker that holds only a word. -/
def wordMarker (word : List Char) : Parse Strip := do
  expect ['%', '\x7b']
  let before ← stripMark
  skipLines
  expect word
  return ⟨before, ← markerEnd⟩

/-- Reads the variables of a repetition up to and including the word `in`. -/
def forVariables : Parse (Option String × String) := do
  skipLines
  let first ← identifier
  skipLines
  let names ←
    if ← accept [','] then
      skipLines
      let second ← identifier
      skipLines
      pure (some first, second)
    else pure (none, first)
  expect ['i', 'n']
  return names

/-- Reads the further names of a call up to and including its opening parenthesis; none when no call
stands here. -/
def callName (lines : Bool) : Nat → Parse (Option (List String))
  | 0 => refuse
  | fuel + 1 => do
    skipBetween lines
    if ← accept ['('] then return some []
    else if ← accept [':', ':'] then
      skipBetween lines
      match ← attempt identifier with
      | none => return none
      | some name => return (name :: ·) <$> (← callName lines fuel)
    else return none

/-- Reads the start of a heredoc: whether it is indented, and its delimiter. -/
def heredocStart : Parse (Bool × List Char) := do
  expect ['<', '<']
  let indented ← accept ['-']
  let delimiter ← identifier
  if ← acceptLineBreak then return (indented, delimiter.toList) else refuse

/-- Reads the line that ends a heredoc. -/
def heredocEnd (delimiter : List Char) : Parse Unit := do
  let _ ← takeWhile fun c => c == ' ' || c == '\t'
  expect delimiter

/-- The expression of a quoted template: a string when it has no markers. -/
def quotedForm : List Element → Form
  | [] => .string ""
  | [.literal text] => .string text
  | elements => .template elements

/-! ### Grammar -/

mutual

/-- Reads an expression. -/
def expr (fuel : Nat) (mode : Mode) : Parse Expr :=
  match fuel with
  | 0 => refuse
  | fuel + 1 => do
    let start ← here
    let first ← term fuel mode
    let e ← operations fuel mode.conditional (mode.after first) first
    return e.withSpan ⟨start, ← here⟩
termination_by structural fuel

/-- Reads what follows the operand `e`: a conditional only with `conditional`, whose branches are read
in the mode that the operators before it leave behind. -/
def operations (fuel : Nat) (conditional : Bool) (mode : Mode) (e : Expr) : Parse Expr :=
  match fuel with
  | 0 => refuse
  | fuel + 1 => do
    let back ← get
    skipBetween mode.lines
    let rest := (← get).rest
    if startsAccess rest then
      let accesses ← accesses fuel mode.lines
      operations fuel conditional mode (.mk none (.traversal e accesses))
    else if rest.head? = some '?' ∧ conditional then
      expect ['?']
      skipBetween mode.lines
      let yes ← expr fuel mode
      skipBetween mode.lines
      expect [':']
      skipBetween mode.lines
      let no ← expr fuel mode
      return .mk none (.conditional e yes no)
    else
      match operator? rest with
      | some (operator, length) => do
        modify fun c => c.advance length
        skipBetween mode.lines
        let right ← expr fuel mode.operand
        operations fuel conditional mode.operand (.mk none (.binary operator e right))
      | none => do
        if rest.head? = some '!' then refuse
        set back
        return e
termination_by structural fuel

/-- Reads accesses as long as they follow. -/
def accesses (fuel : Nat) (lines : Bool) : Parse (List Access) :=
  match fuel with
  | 0 => refuse
  | fuel + 1 => do
    let back ← get
    skipBetween lines
    if startsAccess (← get).rest then
      let first ← access fuel
      let others ← accesses fuel lines
      return first :: others
    else
      set back
      return []
termination_by structural fuel

/-- Reads one access.  A number behind a point has no leading zeros. -/
def access (fuel : Nat) : Parse Access :=
  match fuel with
  | 0 => refuse
  | fuel + 1 => do
    let start ← here
    if ← accept ['.'] then
      skipLines
      if ← accept ['*'] then return .attributeSplat (some ⟨start, ← here⟩)
      if ← accept ['0'] then return .legacyIndex (some ⟨start, ← here⟩) 0
      match ← takeWhile Char.isDigit with
      | [] => do
        let name ← identifier
        return .member (some ⟨start, ← here⟩) name
      | ds =>
        let index := Text.decimalValue ds
        if (index : Int) ≤ Number.greatestInteger then
          return .legacyIndex (some ⟨start, ← here⟩) index
        else refuse
    else
      expect ['[']
      skipLines
      if ← accept ['*'] then
        skipLines
        expect [']']
        return .fullSplat (some ⟨start, ← here⟩)
      let e ← expr fuel .enclosed
      skipLines
      expect [']']
      return .index (some ⟨start, ← here⟩) e
termination_by structural fuel

/-- Reads a term. -/
def term (fuel : Nat) (mode : Mode) : Parse Expr :=
  match fuel with
  | 0 => refuse
  | fuel + 1 => spanned do
    match ← peek? with
    | none => refuse
    | some c =>
      if c = '\"' then
        expect ['\"']
        let elements ← elements fuel .quoted
        expect ['\"']
        return quotedForm elements
      else if c = '[' then
        expect ['[']
        array fuel mode
      else if c = '\x7b' then
        expect ['\x7b']
        object fuel mode
      else if c = '(' then
        expect ['(']
        skipLines
        let inner ← expr fuel .enclosed
        skipLines
        expect [')']
        return .parens inner
      else if c = '<' then
        let (indented, delimiter) ← heredocStart
        let elements ← heredoc fuel delimiter
        return .heredoc (if indented then dedent elements else elements)
      else if c = '-' then
        expect ['-']
        skipSpace
        match ← peek? with
        | none => refuse
        | some d =>
          if d.isDigit then return .number (← number).neg
          else return .unary .minus (← term fuel mode)
      else if c = '!' then
        expect ['!']
        skipSpace
        return .unary .not (← term fuel mode)
      else if c.isDigit then return .number (← number)
      else
        let name ← identifier
        let back ← get
        match ← callName mode.lines fuel with
        | some names => do
          let (items, spread) ← arguments fuel mode.element
          return .call (name :: names) items spread
        | none => do
          set back
          return .ofName name
termination_by structural fuel

/-- Reads the arguments of a call and its closing parenthesis. -/
def arguments (fuel : Nat) (mode : Mode) : Parse (List Expr × Bool) :=
  match fuel with
  | 0 => refuse
  | fuel + 1 => do
    skipLines
    if ← accept [')'] then return ([], false)
    let first ← expr fuel mode
    skipLines
    if ← accept [','] then
      let (others, spread) ← arguments fuel mode
      return (first :: others, spread)
    let spread ← accept ['.', '.', '.']
    skipLines
    expect [')']
    return ([first], spread)
termination_by structural fuel

/-- Reads what follows the opening bracket of a list. -/
def array (fuel : Nat) (mode : Mode) : Parse Form :=
  match fuel with
  | 0 => refuse
  | fuel + 1 => do
    skipLines
    if startsFor (← get).rest then listFor fuel mode
    else return .array (← arrayItems fuel mode.element)
termination_by structural fuel

/-- Reads the items of a list and its closing bracket. -/
def arrayItems (fuel : Nat) (mode : Mode) : Parse (List Expr) :=
  match fuel with
  | 0 => refuse
  | fuel + 1 => do
    skipLines
    if ← accept [']'] then return []
    let first ← expr fuel mode
    skipLines
    if ← accept [','] then return first :: (← arrayItems fuel mode)
    expect [']']
    return [first]
termination_by structural fuel

/-- Reads a repetition over a list from its first word to its closing bracket. -/
def listFor (fuel : Nat) (mode : Mode) : Parse Form :=
  match fuel with
  | 0 => refuse
  | fuel + 1 => do
    expect ['f', 'o', 'r']
    let (key, value) ← forVariables
    let collection ← forCollection fuel mode
    skipLines
    let item ← expr fuel mode.element
    let filter ← forFilter fuel mode.element
    expect [']']
    return .listFor key value collection item filter
termination_by structural fuel

/-- Reads the collection of a repetition and the colon after it. -/
def forCollection (fuel : Nat) (mode : Mode) : Parse Expr :=
  match fuel with
  | 0 => refuse
  | fuel + 1 => do
    skipLines
    let collection ← expr fuel mode
    skipLines
    expect [':']
    return collection
termination_by structural fuel

/-- Reads the filter of a repetition, if there is one. -/
def forFilter (fuel : Nat) (mode : Mode) : Parse (List Expr) :=
  match fuel with
  | 0 => refuse
  | fuel + 1 => do
    skipLines
    if ← accept ['i', 'f'] then
      skipLines
      let filter ← expr fuel mode
      skipLines
      return [filter]
    else return []
termination_by structural fuel

/-- Reads what follows the opening brace of an object. -/
def object (fuel : Nat) (mode : Mode) : Parse Form :=
  match fuel with
  | 0 => refuse
  | fuel + 1 => do
    skipLines
    if startsFor (← get).rest then objectFor fuel mode else return .object (← objectItems fuel [])
termination_by structural fuel

/-- Reads the items of an object after those in `before`, and its closing brace. -/
def objectItems (fuel : Nat) (before : List (Key × Expr)) : Parse (List (Key × Expr)) :=
  match fuel with
  | 0 => refuse
  | fuel + 1 => do
    skipLines
    if ← accept ['\x7d'] then return before
    let key ← expr fuel .line
    skipSpace
    if !(← accept ['=']) then expect [':']
    skipSpace
    let value ← expr fuel .line
    let items := addItem before (.ofExpr key) value
    skipSpace
    skipLineComment
    if ← accept ['\x7d'] then return items
    if ← accept [','] then objectItems fuel items
    else if ← acceptLineBreak then objectItems fuel items
    else refuse
termination_by structural fuel

/-- Reads a repetition over an object from its first word to its closing brace. -/
def objectFor (fuel : Nat) (mode : Mode) : Parse Form :=
  match fuel with
  | 0 => refuse
  | fuel + 1 => do
    expect ['f', 'o', 'r']
    let (key, value) ← forVariables
    let collection ← forCollection fuel mode
    skipLines
    let itemKey ← expr fuel mode
    skipLines
    expect ['=', '>']
    skipLines
    let item ← expr fuel mode.element
    skipLines
    let grouped ← accept ['.', '.', '.']
    let filter ← forFilter fuel mode.element
    expect ['\x7d']
    return .objectFor key value collection itemKey item grouped filter
termination_by structural fuel

/-- Reads the text of a heredoc and its last line.  A heredoc whose first line is already the last one
is empty, if no other line can be its last one. -/
def heredoc (fuel : Nat) (delimiter : List Char) : Parse (List Element) :=
  match fuel with
  | 0 => refuse
  | fuel + 1 => do
    let whole ← attempt do
      let elements ← elements fuel (.heredoc delimiter)
      heredocEnd delimiter
      return elements
    match whole with
    | some elements => return elements
    | none => do
      heredocEnd delimiter
      return []
termination_by structural fuel

/-- Reads text and markers up to the end of a template or to the marker of an enclosing directive. -/
def elements (fuel : Nat) (kind : TextKind) : Parse (List Element) :=
  match fuel with
  | 0 => refuse
  | fuel + 1 => do
    let (literal, broken) ← text kind
    if broken then return .literal literal :: (← elements fuel kind)
    let back ← get
    let marker ← marker? fuel
    let others ← match marker with
      | some element => do
        let others ← elements fuel kind
        pure (element :: others)
      | none => do
        set back
        pure []
    return if literal = "" then others else .literal literal :: others
termination_by structural fuel

/-- Reads an interpolation or a directive with its branches; none at any other place. -/
def marker? (fuel : Nat) : Parse (Option Element) :=
  match fuel with
  | 0 => refuse
  | fuel + 1 => do
    if ← accept ['$', '\x7b'] then some <$> committed (interpolation fuel)
    else if ← accept ['%', '\x7b'] then
      let before ← stripMark
      skipLines
      if ← accept ['i', 'f'] then some <$> committed (conditional fuel before)
      else if ← accept ['f', 'o', 'r'] then some <$> committed (repetition fuel before)
      else return none
    else return none
termination_by structural fuel

/-- Reads an interpolation after its opening. -/
def interpolation (fuel : Nat) : Parse Element :=
  match fuel with
  | 0 => refuse
  | fuel + 1 => do
    let before ← stripMark
    skipLines
    let e ← expr fuel .enclosed
    return .interpolation ⟨before, ← markerEnd⟩ e
termination_by structural fuel

/-- Reads a conditional after the word `if`. -/
def conditional (fuel : Nat) (before : Bool) : Parse Element :=
  match fuel with
  | 0 => refuse
  | fuel + 1 => do
    skipLines
    let condition ← expr fuel .line
    let opening : Strip := ⟨before, ← markerEnd⟩
    let yes ← elements fuel .bare
    match ← attempt (wordMarker ['e', 'l', 's', 'e']) with
    | some middle => do
      let no ← elements fuel .bare
      let closing ← wordMarker ['e', 'n', 'd', 'i', 'f']
      return .ifElse opening condition yes middle no closing
    | none => do
      let closing ← wordMarker ['e', 'n', 'd', 'i', 'f']
      return .ifThen opening condition yes closing
termination_by structural fuel

/-- Reads a repetition after the word `for`. -/
def repetition (fuel : Nat) (before : Bool) : Parse Element :=
  match fuel with
  | 0 => refuse
  | fuel + 1 => do
    let (key, value) ← forVariables
    skipLines
    let collection ← expr fuel .line
    let opening : Strip := ⟨before, ← markerEnd⟩
    let body ← elements fuel .bare
    let closing ← wordMarker ['e', 'n', 'd', 'f', 'o', 'r']
    return .repetition opening key value collection body closing
termination_by structural fuel

end

end Parse
end Groundplan.Hcl
