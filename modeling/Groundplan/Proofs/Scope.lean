import Groundplan.Proofs.Slot
import Mathlib.Data.List.Induction

/-!
# How a scope is built

A scope converts in two folds: its attributes are put into empty entries, and its blocks are folded
into the result.  `scope_eq_ok` and `scopeBlocks_cons_eq_ok` take a successful conversion apart.
The attributes leave one entry for each name, with the value of the last one (`assigned_perm`), and
the blocks leave every key alone that is not one of their types (`find?_scopeBlocks`).
-/

namespace Groundplan

/-! ### Attributes that count -/

/-- The attributes that count: of equal names the last one. -/
def Attribute.effective : List Attribute → List Attribute
  | [] => []
  | a :: rest => if ∃ b ∈ rest, b.name = a.name then effective rest else a :: effective rest

namespace Attribute

theorem effective_append (attributes : List Attribute) (a : Attribute) :
    effective (attributes ++ [a]) = (effective attributes).filter (fun b => b.name ≠ a.name) ++ [a] := by
  induction attributes with
  | nil => simp [effective]
  | cons b rest ih =>
    rw [List.cons_append, effective, effective]
    by_cases hrest : ∃ x ∈ rest, x.name = b.name
    · have hmore : ∃ x ∈ rest ++ [a], x.name = b.name := by
        obtain ⟨x, hx, hname⟩ := hrest
        exact ⟨x, List.mem_append_left _ hx, hname⟩
      rw [if_pos hmore, if_pos hrest, ih]
    · rw [if_neg hrest]
      by_cases hname : b.name = a.name
      · rw [if_pos ⟨a, by simp, hname.symm⟩, ih, List.filter_cons_of_neg (by simp [hname])]
      · have hmore : ¬ ∃ x ∈ rest ++ [a], x.name = b.name := by
          rintro ⟨x, hx, hxb⟩
          rcases List.mem_append.mp hx with hx | hx
          · exact hrest ⟨x, hx, hxb⟩
          · rw [List.mem_singleton.mp hx] at hxb
            exact hname hxb.symm
        rw [if_neg hmore, ih, List.filter_cons_of_pos (by simpa using hname), List.cons_append]

theorem mem_of_mem_effective {attributes : List Attribute} {a : Attribute}
    (h : a ∈ effective attributes) : a ∈ attributes := by
  induction attributes with
  | nil => exact h
  | cons b rest ih =>
    rw [effective] at h
    split_ifs at h with hrest
    · exact List.mem_cons_of_mem _ (ih h)
    · rcases List.mem_cons.mp h with rfl | h
      · exact List.mem_cons_self
      · exact List.mem_cons_of_mem _ (ih h)

/-- Every name has an attribute that counts. -/
theorem exists_effective {attributes : List Attribute} {a : Attribute} (h : a ∈ attributes) :
    ∃ b ∈ effective attributes, b.name = a.name := by
  induction attributes generalizing a with
  | nil => cases h
  | cons b rest ih =>
    rw [effective]
    split_ifs with hrest
    · rcases List.mem_cons.mp h with rfl | h
      · obtain ⟨x, hx, hname⟩ := hrest
        obtain ⟨y, hy, hy'⟩ := ih hx
        exact ⟨y, hy, hy'.trans hname⟩
      · exact ih h
    · rcases List.mem_cons.mp h with rfl | h
      · exact ⟨a, List.mem_cons_self, rfl⟩
      · obtain ⟨y, hy, hy'⟩ := ih h
        exact ⟨y, List.mem_cons_of_mem _ hy, hy'⟩

end Attribute

/-! ### Assigning values -/

/-- The entries of attributes that have these values. -/
def assigned (value : Attribute → Value) (attributes : List Attribute) : Entries Value :=
  attributes.foldl (fun entries a => entries.insert a.name (value a)) []

section Assigned

open Entries

variable (value : Attribute → Value) (attributes : List Attribute)

theorem assigned_append (a : Attribute) :
    assigned value (attributes ++ [a]) = insert (assigned value attributes) a.name (value a) := by
  simp [assigned]

theorem ordered_assigned : (assigned value attributes).Ordered := by
  induction attributes using List.reverseRecOn with
  | nil => exact ordered_nil
  | append_singleton attributes a ih =>
    rw [assigned_append]
    exact ordered_insert ih

/-- **The last one counts**: there is one entry for each name, with the value of the last attribute
of the name. -/
theorem assigned_perm :
    (assigned value attributes).Perm
      ((Attribute.effective attributes).map fun a => (a.name, value a)) := by
  induction attributes using List.reverseRecOn with
  | nil => exact List.Perm.refl _
  | append_singleton attributes a ih =>
    rw [assigned_append, Attribute.effective_append, List.map_append, List.map_singleton]
    -- the attributes of other names keep their entries
    have hothers : (without (assigned value attributes) a.name).Perm
        (((Attribute.effective attributes).filter fun b => b.name ≠ a.name).map
          fun b => (b.name, value b)) := by
      have := ih.filter fun p => p.1 ≠ a.name
      rw [List.filter_map] at this
      exact this
    have hfirst := insert_perm (ordered_assigned value attributes) a.name (value a)
    exact (hfirst.trans (hothers.cons _)).trans (List.perm_append_singleton _ _).symm

theorem find?_assigned {a : Attribute} (h : a ∈ Attribute.effective attributes) :
    find? (assigned value attributes) a.name = some (value a) := by
  apply (ordered_assigned value attributes).find?_of_mem
  exact (assigned_perm value attributes).mem_iff.mpr (List.mem_map_of_mem h)

theorem mem_keys_assigned {key : String} :
    key ∈ keys (assigned value attributes) ↔ ∃ a ∈ attributes, a.name = key := by
  rw [keys, ((assigned_perm value attributes).map _).mem_iff, List.map_map, List.mem_map]
  constructor
  · rintro ⟨a, ha, rfl⟩
    exact ⟨a, Attribute.mem_of_mem_effective ha, rfl⟩
  · rintro ⟨a, ha, rfl⟩
    exact Attribute.exists_effective ha

end Assigned

namespace Conversion

open Entries

variable {c : Conversion} {depth inner : Nat} {before after out : Entries Value}
  {attributes : List Attribute} {blocks rest : List Block} {b : Block} {key : String}

theorem enter_eq_ok : c.enter depth = .ok inner ↔ depth < c.maxDepth ∧ depth + 1 = inner := by
  rw [enter]
  split_ifs with h
  · simp [Nat.lt_of_succ_le h]
  · simp [show ¬ depth < c.maxDepth from h]

theorem enter_tooDeep (h : c.maxDepth ≤ depth) :
    c.enter depth = .error (.tooDeep c.maxDepth) := by
  rw [enter, if_neg (by omega)]

/-! ### The attributes of a scope -/

theorem attributes_eq_ok {value : Attribute → Value}
    (h : ∀ a ∈ attributes, c.expression depth a.expr = .ok (value a)) :
    c.attributes depth [] attributes = .ok (assigned value attributes) := by
  -- the entries before change along the list
  suffices ∀ before, c.attributes depth before attributes
      = .ok (attributes.foldl (fun entries a => entries.insert a.name (value a)) before) from this []
  induction attributes with
  | nil => exact fun before => rfl
  | cons a rest ih =>
    intro before
    rw [Conversion.attributes, h a List.mem_cons_self, ok_bind, List.foldl_cons]
    exact ih (fun a' ha' => h a' (List.mem_cons_of_mem _ ha')) _

theorem exists_value (h : c.attributes depth before attributes = .ok after) :
    ∀ a ∈ attributes, ∃ v, c.expression depth a.expr = .ok v := by
  induction attributes generalizing before with
  | nil => exact fun a ha => nomatch ha
  | cons a rest ih =>
    rw [Conversion.attributes] at h
    obtain ⟨v, hv, h⟩ := bind_eq_ok.mp h
    intro a' ha'
    rcases List.mem_cons.mp ha' with rfl | ha'
    · exact ⟨v, hv⟩
    · exact ih h a' ha'

/-! ### The blocks of a scope -/

theorem aggregated_eq_ok {kind : String} {labels : List String} {object : Entries Value} :
    aggregated before kind labels object = .ok after ↔
      before.aggregate kind labels (.object object) = .ok after := by
  rw [aggregated]
  cases before.aggregate kind labels (.object object) with
  | error x => simp
  | ok entries => simp

theorem scopeBlocks_nil_eq_ok : c.scopeBlocks depth before [] = .ok out ↔ before = out := by
  rw [scopeBlocks, Except.ok.injEq]

/-- A block and those after it convert iff its own scope does, its object joins the entries, and the
others go on from there. -/
theorem scopeBlocks_cons_eq_ok :
    c.scopeBlocks depth before (b :: rest) = .ok out ↔
      ∃ object middle, c.scope depth b.body = .ok object ∧
        before.aggregate b.kind b.labels (.object object) = .ok middle ∧
        c.scopeBlocks depth middle rest = .ok out := by
  obtain ⟨kind, labels, span, body⟩ := b
  rw [scopeBlocks, bind_eq_ok]
  simp only [bind_eq_ok, aggregated_eq_ok]
  constructor
  · rintro ⟨object, hobject, middle, hmiddle, hrest⟩
    exact ⟨object, middle, hobject, hmiddle, hrest⟩
  · rintro ⟨object, middle, hobject, hmiddle, hrest⟩
    exact ⟨object, hobject, middle, hmiddle, hrest⟩

theorem exists_object (h : c.scopeBlocks depth before blocks = .ok out) :
    ∀ b ∈ blocks, ∃ object, c.scope depth b.body = .ok object := by
  induction blocks generalizing before with
  | nil => exact fun b hb => nomatch hb
  | cons b rest ih =>
    obtain ⟨object, middle, hobject, -, hrest⟩ := scopeBlocks_cons_eq_ok.mp h
    intro b' hb'
    rcases List.mem_cons.mp hb' with rfl | hb'
    · exact ⟨object, hobject⟩
    · exact ih hrest b' hb'

/-- Blocks leave every key alone that is not one of their types. -/
theorem find?_scopeBlocks (h : c.scopeBlocks depth before blocks = .ok out)
    (hkey : ∀ b ∈ blocks, key ≠ b.kind) : find? out key = find? before key := by
  induction blocks generalizing before with
  | nil =>
    obtain rfl := scopeBlocks_nil_eq_ok.mp h
    rfl
  | cons b rest ih =>
    obtain ⟨object, middle, -, hmiddle, hrest⟩ := scopeBlocks_cons_eq_ok.mp h
    rw [ih hrest fun b' hb' => hkey b' (List.mem_cons_of_mem _ hb')]
    exact find?_aggregate_of_ne hmiddle (hkey b List.mem_cons_self)

theorem mem_keys_scopeBlocks (h : c.scopeBlocks depth before blocks = .ok out) :
    key ∈ keys out ↔ key ∈ keys before ∨ ∃ b ∈ blocks, b.kind = key := by
  induction blocks generalizing before with
  | nil =>
    obtain rfl := scopeBlocks_nil_eq_ok.mp h
    simp
  | cons b rest ih =>
    obtain ⟨object, middle, -, hmiddle, hrest⟩ := scopeBlocks_cons_eq_ok.mp h
    rw [ih hrest, mem_keys_aggregate hmiddle]
    constructor
    · rintro ((rfl | hkey) | ⟨b', hb', rfl⟩)
      · exact Or.inr ⟨b, List.mem_cons_self, rfl⟩
      · exact Or.inl hkey
      · exact Or.inr ⟨b', List.mem_cons_of_mem _ hb', rfl⟩
    · rintro (hkey | ⟨b', hb', rfl⟩)
      · exact Or.inl (Or.inr hkey)
      · rcases List.mem_cons.mp hb' with rfl | hb'
        · exact Or.inl (Or.inl rfl)
        · exact Or.inr ⟨b', hb', rfl⟩

theorem ordered_scopeBlocks (hbefore : before.Ordered)
    (h : c.scopeBlocks depth before blocks = .ok out) : out.Ordered := by
  induction blocks generalizing before with
  | nil =>
    obtain rfl := scopeBlocks_nil_eq_ok.mp h
    exact hbefore
  | cons b rest ih =>
    obtain ⟨object, middle, -, hmiddle, hrest⟩ := scopeBlocks_cons_eq_ok.mp h
    exact ih (hbefore.aggregate hmiddle) hrest

/-! ### The whole scope -/

theorem scope_eq_ok :
    c.scope depth (.mk attributes blocks) = .ok out ↔
      depth < c.maxDepth ∧ ∃ before, c.attributes (depth + 1) [] attributes = .ok before ∧
        c.scopeBlocks (depth + 1) before blocks = .ok out := by
  rw [scope, bind_eq_ok]
  simp only [enter_eq_ok, bind_eq_ok]
  constructor
  · rintro ⟨inner, ⟨hdepth, rfl⟩, before, hbefore, hblocks⟩
    exact ⟨hdepth, before, hbefore, hblocks⟩
  · rintro ⟨hdepth, before, hbefore, hblocks⟩
    exact ⟨_, ⟨hdepth, rfl⟩, before, hbefore, hblocks⟩

/-- Of a scope that converts, every attribute has a value and every block an object, and the object of
the scope comes from the entries of these values. -/
theorem exists_parts (h : c.scope depth (.mk attributes blocks) = .ok out) :
    ∃ (value : Attribute → Value) (object : Block → Entries Value),
      (∀ a ∈ attributes, c.expression (depth + 1) a.expr = .ok (value a)) ∧
      (∀ b ∈ blocks, c.scope (depth + 1) b.body = .ok (object b)) ∧
      c.scopeBlocks (depth + 1) (assigned value attributes) blocks = .ok out := by
  obtain ⟨-, before, hbefore, hblocks⟩ := scope_eq_ok.mp h
  have : Nonempty Value := ⟨.null⟩
  choose! value hvalue using exists_value hbefore
  choose! object hobject using exists_object hblocks
  rw [attributes_eq_ok hvalue] at hbefore
  obtain rfl := Except.ok.inj hbefore
  exact ⟨value, object, hvalue, hobject, hblocks⟩

end Conversion

/-! ### A small block -/

namespace Block

/-- A block whose only attribute is a number. -/
def numbered (kind : String) (labels : List String) (n : Int) : Block :=
  .mk kind labels ⟨0, 0⟩ (.mk [⟨"id", .literal ⟨0, 0⟩ (.number (.integer n))⟩] [])

/-- The object of a numbered block. -/
def numberedObject : Block → Entries Value
  | .mk _ _ _ (.mk [⟨_, .literal _ l⟩] _) => [("id", l.toValue)]
  | _ => []

end Block
end Groundplan
