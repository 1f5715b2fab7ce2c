import Groundplan.Canonical.Scope

/-!
# Resource records

Every top-level `resource` block with a type and a name gives one record, in the order of the
document.  Its configuration is the object of the block's scope, converted at the depth that the
scope has inside the document.
-/

namespace Groundplan

/-- A resource that a document declares. -/
structure ResourceRecord where
  id : String
  name : String
  type : String
  /-- The document's path. -/
  source : String
  /-- The line where the block starts. -/
  line : Nat
  /-- The canonical object of the block. -/
  config : Value
  deriving Repr

namespace ResourceRecord

/-- The block type that declares resources. -/
def blockKind : String := "resource"

end ResourceRecord

/-- The type and the name of a block that declares a resource. -/
def Block.resource? (b : Block) : Option (String × String) :=
  if b.kind = ResourceRecord.blockKind then
    match b.labels with
    | [type, name] => some (type, name)
    | _ => none
  else none

namespace Conversion

/-- The configuration of a top-level block. -/
def resourceValue (c : Conversion) (b : Block) : Except Error Value := do
  let depth ← c.enter 0
  .object <$> c.scope depth b.body

/-- The records of top-level blocks. -/
def records (c : Conversion) (path : String) : List Block → Except Error (List ResourceRecord)
  | [] => .ok []
  | b :: rest =>
    match b.resource? with
    | none => records c path rest
    | some (type, name) => do
      let config ← c.resourceValue b
      let others ← records c path rest
      return ⟨type ++ "." ++ name, name, type, path, c.source.lineAt b.span.start, config⟩ :: others

/-- The records of a document's body. -/
def resources (c : Conversion) (path : String) (b : Body) : Except Error (List ResourceRecord) :=
  c.records path b.blocks

end Conversion
end Groundplan
