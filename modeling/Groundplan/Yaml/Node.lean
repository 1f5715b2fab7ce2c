/-!
# YAML documents

The tree of a YAML document.  Scalars are text; how one was written decides if it can be read as
anything else.  An alias stays in the tree and is followed to the node that it stands for: anchors are
numbers, and of the nodes with the number of an alias the last one that starts is meant.
-/

namespace Groundplan.Yaml

/-- How a scalar is written. -/
inductive Style where
  | plain
  | quoted
  | literal
  | folded
  deriving DecidableEq, Repr

/-- A node of a document. -/
inductive Node where
  | scalar (tag : Option String) (style : Style) (text : String)
  | sequence (items : List Node)
  | mapping (entries : List (Node × Node))
  | anchored (anchor : Nat) (node : Node)
  | alias (anchor : Nat)
  deriving Repr

/-- The scalar that stands where nothing is written. -/
def Node.empty : Node := .scalar none .plain ""

mutual

/-- The nodes with anchors, in the order in which they start. -/
def Node.anchors (node : Node) : List (Nat × Node) :=
  match node with
  | .scalar _ _ _ => []
  | .sequence items => itemAnchors items
  | .mapping entries => entryAnchors entries
  | .anchored n node => (n, node) :: Node.anchors node
  | .alias _ => []
termination_by structural node

/-- The nodes with anchors in a list of nodes. -/
def itemAnchors (items : List Node) : List (Nat × Node) :=
  match items with
  | [] => []
  | item :: rest => Node.anchors item ++ itemAnchors rest
termination_by structural items

/-- The nodes with anchors in a list of entries. -/
def entryAnchors (entries : List (Node × Node)) : List (Nat × Node) :=
  match entries with
  | [] => []
  | (key, value) :: rest => Node.anchors key ++ Node.anchors value ++ entryAnchors rest
termination_by structural entries

end

/-- A document. -/
structure Document where
  root : Node
  deriving Repr

namespace Document

/-- The node that an alias stands for. -/
def target? (d : Document) (anchor : Nat) : Option Node :=
  (d.root.anchors.reverse.find? (·.1 == anchor)).map (·.2)

/-- What a node is: without its anchor, and when it is an alias, what it stands for. -/
def follow (d : Document) : Node → Node
  | .alias n => (d.target? n).getD .empty
  | .anchored _ node => node
  | node => node

end Document
end Groundplan.Yaml
