import Groundplan.Proofs.ValueOrder
import Mathlib.Algebra.BigOperators.Group.List.Basic
import Mathlib.Algebra.Order.Group.Multiset
import Mathlib.Tactic.Abel

/-!
# Scalars are conserved

`Value.scalars` is the multiset of the nulls, booleans, numbers and strings of a value, at any
depth.  Whatever a block runs into (an attribute, an array, the object of another block), the
scalars afterwards are those before and those of the block's own object (`scalars_aggregate`).  So
the object of a scope has the scalars of its attributes that count and of every block once
(`scope_scalars`).

The step is an equation about insertion: what an insertion drops are the scalars of the slot
(`scalars_insert`), and what a block puts into a slot has the scalars of the slot and its own
(`scalars_nestedIn`).
-/

namespace Groundplan

namespace Value

/-! ### The scalars of a value -/

mutual

/-- The scalars of a value, at any depth. -/
def scalars (v : Value) : Multiset Literal :=
  match v with
  | null => {.null}
  | bool b => {.bool b}
  | number n => {.number n}
  | string s => {.string s}
  | array items => itemScalars items
  | object entries => entryScalars entries
termination_by structural v

/-- The scalars of the elements of an array. -/
def itemScalars (items : List Value) : Multiset Literal :=
  match items with
  | [] => 0
  | item :: rest => scalars item + itemScalars rest
termination_by structural items

/-- The scalars of the values of an object. -/
def entryScalars (entries : List (String × Value)) : Multiset Literal :=
  match entries with
  | [] => 0
  | (_, item) :: rest => scalars item + entryScalars rest
termination_by structural entries

end

/-- The scalars of what a slot holds. -/
def slotScalars (slot : Option Value) : Multiset Literal := slot.elim 0 scalars

theorem itemScalars_append (items more : List Value) :
    itemScalars (items ++ more) = itemScalars items + itemScalars more := by
  induction items with
  | nil => rw [List.nil_append, itemScalars, zero_add]
  | cons item rest ih => rw [List.cons_append, itemScalars, itemScalars, ih, add_assoc]

theorem scalars_object (entries : List (String × Value)) :
    scalars (.object entries) = (entries.map fun p => scalars p.2).sum := by
  rw [scalars]
  induction entries with
  | nil => rfl
  | cons p rest ih => rw [entryScalars, ih, List.map_cons, List.sum_cons]

theorem scalars_object_perm {entries others : List (String × Value)} (h : entries.Perm others) :
    scalars (.object entries) = scalars (.object others) := by
  rw [scalars_object, scalars_object]
  exact (h.map _).sum_eq

/-! ### Insertion -/

open Entries

variable {entries after : Entries Value} {key kind : String} {value fresh new : Value}
  {slot : Option Value} {labels : List String}

/-- An insertion drops the scalars of the slot and adds those of the value. -/
theorem scalars_insert (h : Entries.Ordered entries) (key : String) (value : Value) :
    scalars (.object (entries.insert key value)) + slotScalars (find? entries key)
      = scalars (.object entries) + scalars value := by
  rw [scalars_object_perm (insert_perm h key value), scalars_object_perm (perm_of_find? h)]
  rw [scalars_object, scalars_object, List.map_cons, List.sum_cons, List.map_append, List.sum_append]
  -- a slot is no entry or one
  have hslot : ((((find? entries key).toList.map (key, ·)).map fun p => scalars p.2)).sum
      = slotScalars (find? entries key) := by
    cases find? entries key with
    | none => rfl
    | some held => exact List.sum_singleton
  rw [hslot]
  dsimp only
  abel

/-- What replaces a slot adds its scalars to those of the slot. -/
theorem scalars_insert_of_eq_add (h : Entries.Ordered entries)
    (hnew : scalars new = slotScalars (find? entries key) + scalars value) :
    scalars (.object (entries.insert key new)) = scalars (.object entries) + scalars value := by
  have hinsert := scalars_insert h key new
  rw [hnew] at hinsert
  apply add_right_cancel (b := slotScalars (find? entries key))
  rw [hinsert]
  abel

/-! ### Blocks -/

/-- A value that joins a slot adds its scalars to those of the slot. -/
theorem scalars_joinedBy (hfresh : scalars fresh = scalars value) :
    scalars (joinedBy value fresh slot) = slotScalars slot + scalars value := by
  unfold joinedBy
  split
  · rw [hfresh, slotScalars, Option.elim_none, zero_add]
  · rw [slotScalars, Option.elim_some, scalars, scalars, itemScalars_append]
    rw [itemScalars, itemScalars, add_zero]
  · rw [slotScalars, Option.elim_some, scalars]
    rw [itemScalars, itemScalars, itemScalars, add_zero]

/-- A value that is nested in a slot adds its scalars to those of the slot. -/
theorem scalars_nestedIn (hslot : OrderedSlot slot)
    (h : nestedIn key slot labels value = .ok new) :
    scalars new = slotScalars slot + scalars value := by
  induction labels generalizing key slot new with
  | nil =>
    rw [nestedIn] at h
    obtain rfl := Except.ok.inj h
    exact scalars_joinedBy rfl
  | cons label labels ih =>
    obtain ⟨inner, deeper, hopens, hdeeper, rfl⟩ := nestedIn_cons_eq_ok.mp h
    -- the object of the slot is in order, so that the insertion below counts each key once
    have hinner : Ordered (.object inner) ∧ scalars (.object inner) = slotScalars slot := by
      rcases hopens with ⟨rfl, rfl⟩ | rfl
      · exact ⟨ordered_empty, rfl⟩
      · exact ⟨orderedSlot_some.mp hslot, rfl⟩
    rw [← hinner.2]
    exact scalars_insert_of_eq_add (ordered_object_iff.mp hinner.1).1 (ih hinner.1.slot hdeeper)

/-- **A block is added.**  Whatever it runs into, the scalars after a block are those before and its
own. -/
theorem scalars_aggregate (hentries : Ordered (.object entries))
    (h : entries.aggregate kind labels value = .ok after) :
    scalars (.object after) = scalars (.object entries) + scalars value := by
  obtain ⟨new, hnew, rfl⟩ := aggregate_eq_ok.mp h
  apply scalars_insert_of_eq_add (ordered_object_iff.mp hentries).1
  cases labels with
  | nil =>
    rw [filled] at hnew
    obtain rfl := Except.ok.inj hnew
    refine scalars_joinedBy ?_
    rw [scalars, itemScalars, itemScalars, add_zero]
  | cons label labels =>
    rw [filled] at hnew
    exact scalars_nestedIn hentries.slot hnew

/-- Assigned values bring the scalars of the attributes that count. -/
theorem scalars_assigned (value : Attribute → Value) (attributes : List Attribute) :
    scalars (.object (assigned value attributes))
      = ((Attribute.effective attributes).map fun a => scalars (value a)).sum := by
  rw [scalars_object_perm (assigned_perm value attributes), scalars_object, List.map_map]
  rfl

end Value

namespace Conversion

open Value

variable {c : Conversion} {depth : Nat} {before out : Entries Value} {attributes : List Attribute}
  {blocks : List Block} {object : Block → Entries Value}

/-- The blocks of a scope bring the scalars of each of their objects. -/
theorem scalars_scopeBlocks (hbefore : Ordered (.object before))
    (hobject : ∀ b ∈ blocks, c.scope depth b.body = .ok (object b))
    (h : c.scopeBlocks depth before blocks = .ok out) :
    scalars (.object out)
      = scalars (.object before) + (blocks.map fun b => scalars (.object (object b))).sum := by
  induction blocks generalizing before with
  | nil =>
    obtain rfl := scopeBlocks_nil_eq_ok.mp h
    rw [List.map_nil, List.sum_nil, add_zero]
  | cons b rest ih =>
    obtain ⟨entries, middle, hentries, hmiddle, hrest⟩ := scopeBlocks_cons_eq_ok.mp h
    obtain ⟨hb, hobject'⟩ := List.forall_mem_cons.mp hobject
    rw [hb] at hentries
    obtain rfl := Except.ok.inj hentries
    have hmiddle' : Ordered (.object middle) :=
      ordered_aggregate hbefore (ordered_scope b.body hb) hmiddle
    rw [ih hmiddle' hobject' hrest, scalars_aggregate hbefore hmiddle, List.map_cons, List.sum_cons,
      add_assoc]

/-- **Nothing is lost.**  Of a scope that converts, every attribute has a value and every block an
object, and the scalars of the scope's object are those of the last attribute of each name and those
of every block's object. -/
theorem scope_scalars (h : c.scope depth (.mk attributes blocks) = .ok out) :
    ∃ (value : Attribute → Value) (object : Block → Entries Value),
      (∀ a ∈ attributes, c.expression (depth + 1) a.expr = .ok (value a)) ∧
      (∀ b ∈ blocks, c.scope (depth + 1) b.body = .ok (object b)) ∧
      scalars (.object out)
        = ((Attribute.effective attributes).map fun a => scalars (value a)).sum
          + (blocks.map fun b => scalars (.object (object b))).sum := by
  obtain ⟨value, object, hvalue, hobject, hblocks⟩ := exists_parts h
  refine ⟨value, object, hvalue, hobject, ?_⟩
  have hbefore : Ordered (.object (assigned value attributes)) :=
    ordered_assigned_values fun a ha => ordered_expression a.expr (hvalue a ha)
  rw [scalars_scopeBlocks hbefore hobject hblocks, scalars_assigned]

/-- A block meets an attribute, another one a number inside an earlier block, and a third one the
object that was opened for labels. -/
theorem scope_scalars_collisions :
    let c : Conversion := ⟨⟨[]⟩, 3⟩
    let attributes : List Attribute := [⟨"tags", .literal ⟨0, 0⟩ (.string "legacy")⟩]
    let blocks : List Block := [.numbered "tags" [] 1, .numbered "resource" ["a"] 2,
      .numbered "resource" ["a", "id"] 3, .numbered "resource" ["b", "x"] 4,
      .numbered "resource" ["b"] 5]
    let object (n : Int) : Value := .object [("id", .number (.integer n))]
    let out : Entries Value :=
      [("resource", .object
        [("a", .object [("id", .array [.number (.integer 2), object 3])]),
          ("b", .array [.object [("x", object 4)], object 5])]),
        ("tags", .array [.string "legacy", object 1])]
    c.scope 0 (.mk attributes blocks) = .ok out ∧
    ∃ (value : Attribute → Value) (object : Block → Entries Value),
      (∀ a ∈ attributes, c.expression 1 a.expr = .ok (value a)) ∧
      (∀ b ∈ blocks, c.scope 1 b.body = .ok (object b)) ∧
      scalars (.object out)
        = ((Attribute.effective attributes).map fun a => scalars (value a)).sum
          + (blocks.map fun b => scalars (.object (object b))).sum := by
  intro c attributes blocks object out
  have hout : c.scope 0 (.mk attributes blocks) = .ok out := by rfl
  exact ⟨hout, scope_scalars hout⟩

end Conversion
end Groundplan
