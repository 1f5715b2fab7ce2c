import Groundplan.Proofs.Scope

/-!
# Canonical values are in order

In a canonical value every object, at any depth, has each key once and in the order of the keys
(`Value.Ordered`).  Expressions convert to such values (`ordered_expression`), a block that joins
such entries leaves such entries (`ordered_aggregate`), and so scopes convert to them too
(`ordered_scope`).
-/

namespace Groundplan

/-- Every object of the value has each key once, in the order of the keys. -/
inductive Value.Ordered : Value → Prop where
  | null : Ordered .null
  | bool (b : Bool) : Ordered (.bool b)
  | number (n : Number) : Ordered (.number n)
  | string (s : String) : Ordered (.string s)
  | array {items : List Value} (hitems : ∀ v ∈ items, Ordered v) : Ordered (.array items)
  | object {entries : List (String × Value)} (hkeys : Entries.Ordered entries)
      (hvalues : ∀ p ∈ entries, Ordered p.2) : Ordered (.object entries)

namespace Value

open Entries

variable {entries : Entries Value} {key : String} {value held : Value}

theorem ordered_object_iff :
    Ordered (.object entries) ↔ Entries.Ordered entries ∧ ∀ p ∈ entries, Ordered p.2 := by
  constructor
  · rintro (_ | _ | _ | _ | _ | ⟨hkeys, hvalues⟩)
    exact ⟨hkeys, hvalues⟩
  · rintro ⟨hkeys, hvalues⟩
    exact .object hkeys hvalues

theorem ordered_array_iff {items : List Value} :
    Ordered (.array items) ↔ ∀ v ∈ items, Ordered v := by
  constructor
  · rintro (_ | _ | _ | _ | hitems | _)
    exact hitems
  · exact .array

theorem ordered_empty : Ordered (.object []) := .object ordered_nil fun _ hp => nomatch hp

theorem Ordered.insert (h : Ordered (.object entries)) (hvalue : Ordered value) :
    Ordered (.object (entries.insert key value)) := by
  obtain ⟨hkeys, hvalues⟩ := ordered_object_iff.mp h
  refine .object (ordered_insert hkeys) fun p hp => ?_
  rcases mem_insert hp with rfl | hp
  · exact hvalue
  · exact hvalues p hp

theorem Ordered.of_find? (h : Ordered (.object entries)) (hfind : find? entries key = some held) :
    Ordered held :=
  (ordered_object_iff.mp h).2 _ (mem_of_find? hfind)

theorem ordered_toValue (l : Literal) : Ordered l.toValue := by
  cases l with
  | null => exact .null
  | bool b => exact .bool b
  | number n => exact .number n
  | string s => exact .string s

/-! ### Blocks -/

/-- A slot that holds something holds a value in order. -/
def OrderedSlot (slot : Option Value) : Prop := ∀ held, slot = some held → Ordered held

theorem Ordered.slot (h : Ordered (.object entries)) : OrderedSlot (find? entries key) :=
  fun _ hfind => h.of_find? hfind

theorem orderedSlot_some : OrderedSlot (some held) ↔ Ordered held := by
  constructor
  · exact fun h => h held rfl
  · rintro h held' ⟨⟩
    exact h

variable {slot : Option Value} {fresh : Value} {labels : List String}

theorem ordered_joinedBy (hslot : OrderedSlot slot) (hvalue : Ordered value)
    (hfresh : Ordered fresh) : Ordered (joinedBy value fresh slot) := by
  unfold joinedBy
  split
  · exact hfresh
  · rename_i items
    refine .array fun v hv => ?_
    rcases List.mem_append.mp hv with hv | hv
    · exact ordered_array_iff.mp (orderedSlot_some.mp hslot) v hv
    · rw [List.mem_singleton.mp hv]
      exact hvalue
  · rename_i previous _
    refine .array fun v hv => ?_
    rcases List.mem_pair.mp hv with rfl | rfl
    · exact orderedSlot_some.mp hslot
    · exact hvalue

/-- Nesting keeps a slot in order. -/
theorem ordered_nestedIn {new : Value} (hslot : OrderedSlot slot) (hvalue : Ordered value)
    (h : nestedIn key slot labels value = .ok new) : Ordered new := by
  induction labels generalizing key slot new with
  | nil =>
    rw [nestedIn] at h
    obtain rfl := Except.ok.inj h
    exact ordered_joinedBy hslot hvalue hvalue
  | cons label labels ih =>
    obtain ⟨inner, deeper, hopens, hdeeper, rfl⟩ := nestedIn_cons_eq_ok.mp h
    -- the slot holds an object in order or opens an empty one
    have hinner : Ordered (.object inner) := by
      rcases hopens with ⟨-, rfl⟩ | rfl
      · exact ordered_empty
      · exact orderedSlot_some.mp hslot
    exact hinner.insert (ih hinner.slot hdeeper)

/-- A block that joins entries in order leaves entries in order. -/
theorem ordered_aggregate {kind : String} {after : Entries Value} (h : Ordered (.object entries))
    (hvalue : Ordered value) (hafter : entries.aggregate kind labels value = .ok after) :
    Ordered (.object after) := by
  obtain ⟨slot, hslot, rfl⟩ := aggregate_eq_ok.mp hafter
  apply h.insert
  cases labels with
  | nil =>
    rw [filled] at hslot
    obtain rfl := Except.ok.inj hslot
    refine ordered_joinedBy h.slot hvalue (.array fun v hv => ?_)
    rw [List.mem_singleton.mp hv]
    exact hvalue
  | cons label labels =>
    rw [filled] at hslot
    exact ordered_nestedIn h.slot hvalue hslot

end Value

/-! ### Conversion -/

namespace Conversion

open Entries Value

mutual

/-- An expression converts to a value in order. -/
theorem ordered_expression {c : Conversion} {depth : Nat} {v : Value} (e : Expression)
    (h : c.expression depth e = .ok v) : v.Ordered := by
  rw [Conversion.expression.eq_def] at h
  obtain ⟨inner, -, h⟩ := bind_eq_ok.mp h
  cases e with
  | literal span value =>
    obtain rfl := Except.ok.inj h
    exact ordered_toValue value
  | template span parts =>
    obtain ⟨text, -, rfl⟩ := map_eq_ok.mp h
    exact .string text
  | wrap span inner => exact ordered_expression inner h
  | tuple span items =>
    obtain ⟨values, hvalues, rfl⟩ := map_eq_ok.mp h
    exact .array (ordered_elements items hvalues)
  | object span items =>
    obtain ⟨entries, hentries, rfl⟩ := map_eq_ok.mp h
    exact ordered_entries items ordered_empty hentries
  | reference span | conditional span condition yes no | forEach span key value collection body
  | dynamic span =>
    obtain ⟨text, -, rfl⟩ := map_eq_ok.mp h
    exact .string text
termination_by structural e

theorem ordered_elements {c : Conversion} {depth : Nat} {values : List Value} (es : List Expression)
    (h : c.elements depth es = .ok values) : ∀ v ∈ values, v.Ordered := by
  cases es with
  | nil =>
    rw [elements] at h
    obtain rfl := Except.ok.inj h
    exact fun v hv => nomatch hv
  | cons e rest =>
    rw [elements] at h
    obtain ⟨value, hvalue, h⟩ := bind_eq_ok.mp h
    obtain ⟨others, hothers, h⟩ := bind_eq_ok.mp h
    obtain rfl := Except.ok.inj h
    intro v hv
    rcases List.mem_cons.mp hv with rfl | hv
    · exact ordered_expression e hvalue
    · exact ordered_elements rest hothers v hv
termination_by structural es

theorem ordered_entries {c : Conversion} {depth : Nat} {before after : Entries Value}
    (items : List Item) (hbefore : Ordered (.object before))
    (h : c.entries depth before items = .ok after) : Ordered (.object after) := by
  cases items with
  | nil =>
    rw [Conversion.entries] at h
    obtain rfl := Except.ok.inj h
    exact hbefore
  | cons item rest =>
    obtain ⟨key, value⟩ := item
    rw [Conversion.entries] at h
    obtain ⟨key, -, h⟩ := bind_eq_ok.mp h
    obtain ⟨v, hv, h⟩ := bind_eq_ok.mp h
    exact ordered_entries rest (hbefore.insert (ordered_expression value hv)) h
termination_by structural items

end

/-- Values in order are assigned to entries in order. -/
theorem ordered_assigned_values {value : Attribute → Value} {attributes : List Attribute}
    (h : ∀ a ∈ attributes, (value a).Ordered) : Ordered (.object (assigned value attributes)) := by
  refine .object (ordered_assigned value attributes) fun p hp => ?_
  obtain ⟨a, ha, rfl⟩ := List.mem_map.mp ((assigned_perm value attributes).mem_iff.mp hp)
  exact h a (Attribute.mem_of_mem_effective ha)

mutual

/-- A scope converts to an object in order. -/
theorem ordered_scope {c : Conversion} {depth : Nat} {out : Entries Value} (body : Body)
    (h : c.scope depth body = .ok out) : Ordered (.object out) := by
  obtain ⟨attributes, blocks⟩ := body
  obtain ⟨value, object, hvalue, -, hblocks⟩ := exists_parts h
  refine ordered_blocks blocks ?_ hblocks
  exact ordered_assigned_values fun a ha => ordered_expression a.expr (hvalue a ha)
termination_by structural body

theorem ordered_blocks {c : Conversion} {depth : Nat} {before out : Entries Value}
    (blocks : List Block) (hbefore : Ordered (.object before))
    (h : c.scopeBlocks depth before blocks = .ok out) : Ordered (.object out) := by
  cases blocks with
  | nil =>
    obtain rfl := scopeBlocks_nil_eq_ok.mp h
    exact hbefore
  | cons b rest =>
    obtain ⟨kind, labels, span, body⟩ := b
    obtain ⟨object, middle, hobject, hmiddle, hrest⟩ := scopeBlocks_cons_eq_ok.mp h
    exact ordered_blocks rest (ordered_aggregate hbefore (ordered_scope body hobject) hmiddle) hrest
termination_by structural blocks

end

end Conversion
end Groundplan
