import Groundplan.Canonical.Expression

/-!
# Canonical form of scopes

A scope becomes an object: first its attributes, of which the last of a name counts, then its blocks
one after the other.  A block without labels joins the array under its type; a labelled one is nested
under its type and labels, one object for each level, and blocks on the same path collect into an
array.  Nothing is overwritten: where a block meets a value, both stay, and where a label path runs
into something that is not an object the conversion fails.
-/

namespace Groundplan

/-- A label path met a value that is not an object. -/
structure Collision where
  /-- The type or label that holds the value. -/
  segment : String
  /-- What it holds. -/
  holds : ValueKind
  deriving DecidableEq, Repr

/-- The wording of a collision. -/
def Collision.message (x : Collision) : String :=
  s!"'{x.segment}' already holds {x.holds.phrase} instead of an object"

namespace Entries

/-- Puts a block's object under a key.  A fresh key holds `fresh`; an array grows at its end; any
other value becomes the first of two elements. -/
def addBlock (entries : Entries Value) (key : String) (value fresh : Value) : Entries Value :=
  match entries.find? key with
  | none => entries.insert key fresh
  | some (.array items) => entries.insert key (.array (items ++ [value]))
  | some previous => entries.insert key (.array [previous, value])

/-- Puts a block's object under a key and the labels below it, opening an object for each level. -/
def nest (entries : Entries Value) (key : String) :
    List String → Value → Except Collision (Entries Value)
  | [], value => .ok (entries.addBlock key value value)
  | label :: labels, value =>
    match entries.find? key with
    | none => do
      let inner ← nest [] label labels value
      return entries.insert key (.object inner)
    | some (.object inner) => do
      let inner ← nest inner label labels value
      return entries.insert key (.object inner)
    | some other => .error ⟨key, other.kind⟩

/-- Folds the object of a block into a scope. -/
def aggregate (entries : Entries Value) (kind : String) (labels : List String) (value : Value) :
    Except Collision (Entries Value) :=
  match labels with
  | [] => .ok (entries.addBlock kind value (.array [value]))
  | _ :: _ => entries.nest kind labels value

end Entries

namespace Conversion

/-- Adds attributes to the entries before them, in order. -/
def attributes (c : Conversion) (depth : Nat) (before : Entries Value) :
    List Attribute → Except Error (Entries Value)
  | [] => .ok before
  | a :: rest => do
    let value ← c.expression depth a.expr
    attributes c depth (before.insert a.name value) rest

/-- A block's object folded into the scope around it. -/
def aggregated (before : Entries Value) (kind : String) (labels : List String)
    (value : Entries Value) : Except Error (Entries Value) :=
  match before.aggregate kind labels (.object value) with
  | .ok after => .ok after
  | .error x => .error (.ambiguousBlock (".".intercalate (kind :: labels)) x.message)

mutual

/-- The object of a scope. -/
def scope (c : Conversion) (depth : Nat) (body : Body) : Except Error (Entries Value) :=
  match body with
  | .mk attributes blocks => do
    let depth ← c.enter depth
    let before ← c.attributes depth [] attributes
    scopeBlocks c depth before blocks
termination_by structural body

/-- Adds blocks to the entries before them, in order. -/
def scopeBlocks (c : Conversion) (depth : Nat) (before : Entries Value) (blocks : List Block) :
    Except Error (Entries Value) :=
  match blocks with
  | [] => .ok before
  | .mk kind labels _ body :: rest => do
    let value ← scope c depth body
    let after ← aggregated before kind labels value
    scopeBlocks c depth after rest
termination_by structural blocks

end

/-- The canonical object of a document's body. -/
def body (c : Conversion) (b : Body) : Except Error (Entries Value) := c.scope 0 b

end Conversion
end Groundplan
