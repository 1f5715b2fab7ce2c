import Groundplan.Yaml.Node
import Groundplan.Yaml.Token

/-!
# Reading YAML

`Yaml.read` gives the documents of a text, or says why the text is not YAML.  A missing node is an
empty plain scalar.  A node with an anchor gets the number of different names that anchors had before
it, and an alias the number of the last anchor before it with its name.
-/

namespace Groundplan.Yaml

/-- What is still to be read, and what is known in the document at hand. -/
structure NodeReading where
  tokens : List Token
  /-- The names of anchors, each with the number of the last one. -/
  anchors : List (String × Nat)
  /-- What the handles of tags stand for. -/
  handles : List (String × String)

/-- Reading of nodes that may refuse. -/
abbrev ReadNode := StateT NodeReading (Except String)

namespace ReadNode

/-- Refuses. -/
def refuse {α : Type} : ReadNode α := fun s =>
  .error s!"did not find expected node content {s.tokens.length} tokens before the end"

/-- The next token. -/
def peek? : ReadNode (Option Token) := return (← get).tokens.head?

/-- Reads the next token. -/
def next : ReadNode Unit := modify fun s => { s with tokens := s.tokens.drop 1 }

/-- Reads a token, if it is the next one. -/
def accept (t : Token) : ReadNode Bool := do
  if (← peek?) = some t then
    next
    return true
  else return false

/-- Reads a token, or refuses. -/
def expect (t : Token) : ReadNode Unit := do
  if ← accept t then return () else refuse

/-- The alias for an anchor. -/
def resolve (name : String) : ReadNode Node := do
  match (← get).anchors.find? (·.1 == name) with
  | some (_, n) => return .alias n
  | none => refuse

/-- The number of a new anchor. -/
def number (name : String) : ReadNode Nat := do
  let anchors := (← get).anchors
  let n := anchors.length
  modify fun s => { s with anchors := (name, n) :: anchors.filter (·.1 != name) }
  return n

/-- The handles that need no directive. -/
def defaultHandles : List (String × String) := [("!", "!"), ("!!", "tag:yaml.org,2002:")]

/-- The tag that a handle and a suffix stand for. -/
def tagOf (handle suffix : String) : ReadNode String := do
  if handle = "" then return suffix
  match ((← get).handles ++ defaultHandles).find? (·.1 == handle) with
  | some (_, meaning) => return meaning ++ suffix
  | none => refuse

/-- Reads an anchor, if one stands here. -/
def anchor? : ReadNode (Option String) := do
  match ← peek? with
  | some (.anchor name) => do
    next
    return some name
  | _ => return none

/-- Reads a tag, if one stands here. -/
def tag? : ReadNode (Option String) := do
  match ← peek? with
  | some (.tag handle suffix) => do
    next
    return some (← tagOf handle suffix)
  | _ => return none

/-- Reads the anchor and the tag before a node, in either order. -/
def properties : ReadNode (Option String × Option String) := do
  match ← anchor? with
  | some name => return (some name, ← tag?)
  | none => do
    match ← tag? with
    | some tag => return (← anchor?, some tag)
    | none => return (none, none)

/-- Whether no node follows before the next entry of a block sequence. -/
def endsEntry : Option Token → Bool
  | some .blockEntry => true
  | some .blockEnd => true
  | some .key => true
  | some .value => true
  | _ => false

/-- Whether no node follows before the next part of a block mapping. -/
def endsPart : Option Token → Bool
  | some .key => true
  | some .value => true
  | some .blockEnd => true
  | _ => false

/-- Whether no node follows before the next part of a flow collection with the closing token
`last`. -/
def endsFlowPart (last : Token) : Option Token → Bool
  | some .flowEntry => true
  | some t => t = last
  | none => false

mutual

/-- Reads a node.  Block collections are read only with `block`, and a block sequence that is not
indented only with `flat`. -/
def node (fuel : Nat) (block flat : Bool) : ReadNode Node :=
  match fuel with
  | 0 => refuse
  | fuel + 1 => do
    match ← peek? with
    | some (.alias name) => do
      next
      resolve name
    | _ => do
      let (anchor, tag) ← properties
      match anchor with
      | some name => do
        let n ← number name
        return .anchored n (← content fuel block flat true tag)
      | none => content fuel block flat tag.isSome tag
termination_by structural fuel

/-- Reads what a node holds after its anchor and its tag. -/
def content (fuel : Nat) (block flat marked : Bool) (tag : Option String) : ReadNode Node :=
  match fuel with
  | 0 => refuse
  | fuel + 1 => do
    match ← peek? with
    | some (.scalar style text) => do
      next
      return .scalar (tag.filter (· != "!")) style text
    | some .flowSequence => do
      next
      return .sequence (← flowItems fuel true)
    | some .flowMapping => do
      next
      return .mapping (← flowEntries fuel true)
    | some .blockSequence =>
      if block then do
        next
        return .sequence (← blockItems fuel)
      else if marked then return .scalar tag .plain ""
      else refuse
    | some .blockMapping =>
      if block then do
        next
        return .mapping (← blockEntries fuel)
      else if marked then return .scalar tag .plain ""
      else refuse
    | some .blockEntry =>
      if flat then return .sequence (← flatItems fuel)
      else if marked then return .scalar tag .plain ""
      else refuse
    | _ => if marked then return .scalar tag .plain "" else refuse
termination_by structural fuel

/-- Reads the items of a block sequence up to its end. -/
def blockItems (fuel : Nat) : ReadNode (List Node) :=
  match fuel with
  | 0 => refuse
  | fuel + 1 => do
    if ← accept .blockEnd then return []
    expect .blockEntry
    let t ← peek?
    let item ←
      if t = some .blockEntry ∨ t = some .blockEnd then pure Node.empty else node fuel true false
    return item :: (← blockItems fuel)
termination_by structural fuel

/-- Reads the items of a block sequence that is not indented. -/
def flatItems (fuel : Nat) : ReadNode (List Node) :=
  match fuel with
  | 0 => refuse
  | fuel + 1 => do
    if ← accept .blockEntry then
      let item ← if endsEntry (← peek?) then pure Node.empty else node fuel true false
      return item :: (← flatItems fuel)
    else return []
termination_by structural fuel

/-- Reads the entries of a block mapping up to its end. -/
def blockEntries (fuel : Nat) : ReadNode (List (Node × Node)) :=
  match fuel with
  | 0 => refuse
  | fuel + 1 => do
    if ← accept .blockEnd then return []
    expect .key
    let key ← if endsPart (← peek?) then pure Node.empty else node fuel true true
    let value ←
      if ← accept .value then
        if endsPart (← peek?) then pure Node.empty else node fuel true true
      else pure Node.empty
    return (key, value) :: (← blockEntries fuel)
termination_by structural fuel

/-- Reads the items of a flow sequence up to its end; a pair is a mapping of one entry. -/
def flowItems (fuel : Nat) (first : Bool) : ReadNode (List Node) :=
  match fuel with
  | 0 => refuse
  | fuel + 1 => do
    if ← accept .flowSequenceEnd then return []
    if !first then expect .flowEntry
    if ← accept .flowSequenceEnd then return []
    let item ←
      if ← accept .key then do
        let entry ← flowPair fuel
        pure (Node.mapping [entry])
      else node fuel false false
    return item :: (← flowItems fuel false)
termination_by structural fuel

/-- Reads the entries of a flow mapping up to its end. -/
def flowEntries (fuel : Nat) (first : Bool) : ReadNode (List (Node × Node)) :=
  match fuel with
  | 0 => refuse
  | fuel + 1 => do
    if ← accept .flowMappingEnd then return []
    if !first then expect .flowEntry
    if ← accept .flowMappingEnd then return []
    let entry ←
      if ← accept .key then flowEntry fuel
      else do
        let key ← node fuel false false
        pure (key, Node.empty)
    return entry :: (← flowEntries fuel false)
termination_by structural fuel

/-- Reads a key and its value in a flow mapping. -/
def flowEntry (fuel : Nat) : ReadNode (Node × Node) :=
  match fuel with
  | 0 => refuse
  | fuel + 1 => do
    let t ← peek?
    let key ←
      if t = some .value ∨ endsFlowPart .flowMappingEnd t then pure Node.empty
      else node fuel false false
    return (key, ← flowValue fuel .flowMappingEnd)
termination_by structural fuel

/-- Reads a key and its value in a flow sequence.  Where the key is missing, the token behind it is
passed over. -/
def flowPair (fuel : Nat) : ReadNode (Node × Node) :=
  match fuel with
  | 0 => refuse
  | fuel + 1 => do
    let t ← peek?
    let key ←
      if t = some .value ∨ endsFlowPart .flowSequenceEnd t then do
        next
        pure Node.empty
      else node fuel false false
    return (key, ← flowValue fuel .flowSequenceEnd)
termination_by structural fuel

/-- Reads the value behind a key in a flow collection with the closing token `last`, if there is
one. -/
def flowValue (fuel : Nat) (last : Token) : ReadNode Node :=
  match fuel with
  | 0 => refuse
  | fuel + 1 => do
    if ← accept .value then
      if endsFlowPart last (← peek?) then return Node.empty else node fuel false false
    else return Node.empty
termination_by structural fuel

end

/-! ### Documents -/

/-- Whether no node follows before the next document. -/
def endsDocument : Option Token → Bool
  | none => true
  | some .documentStart => true
  | some .documentEnd => true
  | some (.version _ _) => true
  | some (.handle _ _) => true
  | _ => false

/-- Skips the marks that end a document. -/
def skipEnds : Nat → ReadNode Unit
  | 0 => return ()
  | fuel + 1 => do
    if ← accept .documentEnd then skipEnds fuel else return ()

/-- Reads directives: one version at most, and each handle once. -/
def directives (versioned : Bool) : Nat → ReadNode Unit
  | 0 => refuse
  | fuel + 1 => do
    match ← peek? with
    | some (.version major minor) => do
      next
      if versioned ∨ major ≠ 1 ∨ (minor ≠ 1 ∧ minor ≠ 2) then refuse
      directives true fuel
    | some (.handle name meaning) => do
      next
      if (← get).handles.any (·.1 == name) then refuse
      modify fun s => { s with handles := (name, meaning) :: s.handles }
      directives versioned fuel
    | _ => return ()

/-- Reads the documents up to the end; only the first one may start without a mark. -/
def documents (fuel : Nat) (first : Bool) : ReadNode (List Document) :=
  match fuel with
  | 0 => refuse
  | fuel + 1 => do
    if !first then skipEnds fuel
    modify fun s => { s with anchors := [], handles := [] }
    let t ← peek?
    if t.isNone then return []
    if first && !(endsDocument t && t != some .documentEnd) then
      let root ← node fuel true false
      return ⟨root⟩ :: (← documents fuel false)
    directives false fuel
    expect .documentStart
    let root ← if endsDocument (← peek?) then pure Node.empty else node fuel true false
    return ⟨root⟩ :: (← documents fuel false)
termination_by structural fuel

end ReadNode

/-- The documents of a text, or why it has none. -/
def read (text : String) : Except String (List Document) := do
  let tokens ← Token.ofText text.toList
  let (documents, _) ← ReadNode.documents (4 * tokens.length + 8) true |>.run ⟨tokens, [], []⟩
  return documents

end Groundplan.Yaml
