import Groundplan.Canonical.Scope
import Groundplan.Proofs.Entries
import Groundplan.Proofs.Outcome

/-!
# Blocks change one slot

A block that is folded into a scope reads and changes the slot of its type and nothing else:
`aggregate_eq` writes `Entries.aggregate` as an insertion under the type of what `filled` makes of
the old slot.  So the slots of other keys stay as they are (`find?_aggregate_of_ne`), and what a
type ends up with depends on its own blocks alone (`find?_aggregate_self`).
-/

namespace Groundplan

/-- What a slot holds once the object of a block has joined it; `fresh` if it was empty. -/
def joinedBy (value fresh : Value) : Option Value → Value
  | none => fresh
  | some (.array items) => .array (items ++ [value])
  | some previous => .array [previous, value]

/-- What the slot of `key` holds once an object is nested below it under labels. -/
def nestedIn (key : String) (slot : Option Value) (labels : List String) (value : Value) :
    Except Collision Value :=
  match labels with
  | [] => .ok (joinedBy value value slot)
  | label :: rest =>
    match slot with
    | none => .object <$> Entries.nest [] label rest value
    | some (.object inner) => .object <$> Entries.nest inner label rest value
    | some other => .error ⟨key, other.kind⟩

/-- What the slot of a type holds once a block of the type is folded into the scope. -/
def filled (kind : String) (slot : Option Value) (labels : List String) (value : Value) :
    Except Collision Value :=
  match labels with
  | [] => .ok (joinedBy value (.array [value]) slot)
  | _ :: _ => nestedIn kind slot labels value

namespace Entries

variable {entries : Entries Value} {key : String} {labels : List String} {value fresh : Value}

theorem addBlock_eq :
    entries.addBlock key value fresh
      = entries.insert key (joinedBy value fresh (find? entries key)) := by
  rw [addBlock]
  cases find? entries key with
  | none => rfl
  | some held => cases held <;> rfl

/-- Nesting replaces the slot of its key. -/
theorem nest_eq :
    entries.nest key labels value
      = entries.insert key <$> nestedIn key (find? entries key) labels value := by
  cases labels with
  | nil =>
    rw [nest, addBlock_eq, nestedIn]
    rfl
  | cons label rest =>
    rw [nest]
    cases find? entries key with
    | none =>
      rw [nestedIn]
      cases nest [] label rest value <;> rfl
    | some held =>
      cases held with
      | object inner =>
        simp only [nestedIn]
        cases nest inner label rest value <;> rfl
      | null => rfl
      | bool b => rfl
      | number n => rfl
      | string s => rfl
      | array items => rfl

end Entries

/-- The entries that a slot holds, or opens when it is empty. -/
def Opens (slot : Option Value) (inner : Entries Value) : Prop :=
  slot = none ∧ inner = [] ∨ slot = some (.object inner)

open Entries in
/-- Nesting under one label more goes on in the slot of that label. -/
theorem nestedIn_cons_eq_ok {key label : String} {slot : Option Value} {labels : List String}
    {value new : Value} :
    nestedIn key slot (label :: labels) value = .ok new ↔
      ∃ inner deeper, Opens slot inner ∧
        nestedIn label (find? inner label) labels value = .ok deeper ∧
        .object (insert inner label deeper) = new := by
  -- inside an object, nesting goes on in the slot of the next label
  have hinner (inner : Entries Value) :
      .object <$> nest inner label labels value = .ok new ↔
        ∃ deeper, nestedIn label (find? inner label) labels value = .ok deeper ∧
          .object (insert inner label deeper) = new := by
    rw [map_eq_ok]
    simp only [nest_eq, map_eq_ok]
    constructor
    · rintro ⟨_, ⟨deeper, hdeeper, rfl⟩, rfl⟩
      exact ⟨deeper, hdeeper, rfl⟩
    · rintro ⟨deeper, hdeeper, rfl⟩
      exact ⟨_, ⟨deeper, hdeeper, rfl⟩, rfl⟩
  constructor
  · intro h
    match slot with
    | none =>
      obtain ⟨deeper, hdeeper⟩ := (hinner []).mp h
      exact ⟨[], deeper, Or.inl ⟨rfl, rfl⟩, hdeeper⟩
    | some (.object inner) =>
      obtain ⟨deeper, hdeeper⟩ := (hinner inner).mp h
      exact ⟨inner, deeper, Or.inr rfl, hdeeper⟩
    -- anything else in the slot is a collision
    | some .null | some (.bool _) | some (.number _) | some (.string _) | some (.array _) =>
      cases h
  · rintro ⟨inner, deeper, ⟨rfl, rfl⟩ | rfl, hdeeper⟩
    · exact (hinner []).mpr ⟨deeper, hdeeper⟩
    · exact (hinner inner).mpr ⟨deeper, hdeeper⟩

namespace Entries

variable {entries after : Entries Value} {other kind : String} {labels : List String} {value : Value}

/-- A block replaces the slot of its type. -/
theorem aggregate_eq :
    entries.aggregate kind labels value
      = entries.insert kind <$> filled kind (find? entries kind) labels value := by
  cases labels with
  | nil =>
    rw [aggregate, addBlock_eq, filled]
    rfl
  | cons label rest => exact nest_eq

theorem aggregate_eq_ok :
    entries.aggregate kind labels value = .ok after ↔
      ∃ slot, filled kind (find? entries kind) labels value = .ok slot ∧
        entries.insert kind slot = after := by
  rw [aggregate_eq, map_eq_ok]

/-- The slot of the type after a block. -/
theorem find?_aggregate_self (h : entries.aggregate kind labels value = .ok after) :
    ∃ slot, filled kind (find? entries kind) labels value = .ok slot ∧
      find? after kind = some slot := by
  obtain ⟨slot, hslot, rfl⟩ := aggregate_eq_ok.mp h
  exact ⟨slot, hslot, find?_insert_self⟩

/-- The slots of other keys after a block. -/
theorem find?_aggregate_of_ne (h : entries.aggregate kind labels value = .ok after)
    (hne : other ≠ kind) : find? after other = find? entries other := by
  obtain ⟨slot, -, rfl⟩ := aggregate_eq_ok.mp h
  exact find?_insert_of_ne hne

theorem mem_keys_aggregate (h : entries.aggregate kind labels value = .ok after) :
    other ∈ keys after ↔ other = kind ∨ other ∈ keys entries := by
  obtain ⟨slot, -, rfl⟩ := aggregate_eq_ok.mp h
  exact mem_keys_insert

theorem Ordered.aggregate (hentries : Ordered entries)
    (h : entries.aggregate kind labels value = .ok after) : Ordered after := by
  obtain ⟨slot, -, rfl⟩ := aggregate_eq_ok.mp h
  exact ordered_insert hentries

end Entries
end Groundplan
