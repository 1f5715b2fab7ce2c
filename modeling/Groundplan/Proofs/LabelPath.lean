import Groundplan.Proofs.Slot

/-!
# Label paths

Blocks of one type that have `n` labels each fill the slot of their type like a tree: `Grouped n
pieces slot` says that the slot holds the objects of `pieces` (labels with an object, in the order
of the document) behind `n` levels of keys, and `collected` objects at the end of a path.  Nesting
one more object keeps it so (`Grouped.nestedIn`).

Read from outside, a grouped slot answers at each path with what lies under it (`Grouped.at?`): at
a full path the objects collected there, and before that an object whose keys are the next labels
(`Grouped.keys_iff`).
-/

namespace Groundplan

/-- What the keys of a path lead to, one object after the other. -/
def Value.at? : Value → List String → Option Value
  | v, [] => some v
  | .object entries, key :: path => (Entries.find? entries key).bind (·.at? path)
  | _, _ :: _ => none

/-- What stands at the end of a label path: the only value, or the array of all. -/
def collected : List Value → Option Value
  | [] => none
  | [value] => some value
  | values => some (.array values)

/-- The labels of a block and the object of its scope. -/
abbrev Piece := List String × Entries Value

namespace Piece

/-- The objects of pieces, as values. -/
def values (pieces : List Piece) : List Value := pieces.map fun p => .object p.2

/-- The pieces whose first label is `key`, without that label. -/
def below (key : String) (pieces : List Piece) : List Piece :=
  pieces.filterMap fun p =>
    match p.1 with
    | [] => none
    | label :: rest => if label = key then some (rest, p.2) else none

/-- The pieces whose labels start with a path, without it. -/
def under : List String → List Piece → List Piece
  | [], pieces => pieces
  | key :: path, pieces => under path (below key pieces)

/-! ### Pieces under a path -/

variable {pieces : List Piece} {key label : String} {path labels rest : List String}
  {object : Entries Value}

theorem below_append (more : List Piece) :
    below key (pieces ++ more) = below key pieces ++ below key more := List.filterMap_append

theorem below_cons_self :
    below key ((key :: rest, object) :: pieces) = (rest, object) :: below key pieces := by
  simp [below]

theorem below_cons_of_ne (h : label ≠ key) :
    below key ((label :: rest, object) :: pieces) = below key pieces := by
  simp [below, h]

theorem mem_below : (labels, object) ∈ below key pieces ↔ (key :: labels, object) ∈ pieces := by
  simp only [below, List.mem_filterMap]
  constructor
  · rintro ⟨⟨ls, o⟩, hp, h⟩
    cases ls with
    | nil => cases h
    | cons l ls =>
      dsimp only at h
      split_ifs at h with hl
      · cases h
        exact hl ▸ hp
  · intro hp
    exact ⟨_, hp, by simp⟩

theorem mem_under : (labels, object) ∈ under path pieces ↔ (path ++ labels, object) ∈ pieces := by
  induction path generalizing pieces with
  | nil => rfl
  | cons key path ih => rw [under, ih, mem_below]; rfl

theorem under_nil : under path [] = [] := by
  induction path with
  | nil => rfl
  | cons key path ih => exact ih

/-- Under a path as long as the labels of all pieces are those that have exactly these labels. -/
theorem values_under (h : ∀ p ∈ pieces, p.1.length = path.length) :
    values (under path pieces) = values (pieces.filter fun p => p.1 = path) := by
  induction path generalizing pieces with
  | nil =>
    have hall : ∀ p ∈ pieces, p.1 = [] := fun p hp => List.length_eq_zero_iff.mp (h p hp)
    rw [under, List.filter_eq_self.mpr fun p hp => by simp [hall p hp]]
  | cons key path ih =>
    have hbelow : ∀ p ∈ below key pieces, p.1.length = path.length := by
      rintro ⟨labels, object⟩ hp
      have := h _ (mem_below.mp hp)
      simpa using this
    rw [under, ih hbelow]
    -- both sides skip the pieces that do not start with `key`
    clear ih hbelow
    induction pieces with
    | nil => rfl
    | cons p pieces ih =>
      obtain ⟨labels, object⟩ := p
      have hrest := ih fun q hq => h q (List.mem_cons_of_mem _ hq)
      cases labels with
      | nil =>
        have := h ([], object) List.mem_cons_self
        simp at this
      | cons label rest =>
        by_cases hl : label = key
        · subst hl
          rw [below_cons_self]
          by_cases hr : rest = path
          · subst hr
            rw [List.filter_cons_of_pos (by simp), List.filter_cons_of_pos (by simp)]
            exact congrArg (Value.object object :: ·) hrest
          · rw [List.filter_cons_of_neg (by simpa using hr),
              List.filter_cons_of_neg (by simpa using hr), hrest]
        · rw [below_cons_of_ne hl, List.filter_cons_of_neg (by simp [hl]), hrest]

end Piece

/-! ### Collected values -/

/-- An object joins the objects that are collected at the end of a path. -/
theorem joinedBy_collected (pieces : List Piece) (labels : List String) (object : Entries Value) :
    some (joinedBy (.object object) (.object object) (collected (Piece.values pieces)))
      = collected (Piece.values (pieces ++ [(labels, object)])) := by
  match pieces with
  | [] => rfl
  | [_] => rfl
  | p :: q :: rest => simp [Piece.values, collected, joinedBy]

theorem collected_eq_none {values : List Value} : collected values = none ↔ values = [] := by
  match values with
  | [] => simp [collected]
  | [v] => simp [collected]
  | v :: w :: rest => simp [collected]

/-! ### Grouped slots -/

open Piece

/-- The slot holds the objects of the pieces behind `n` levels of keys. -/
def Grouped : Nat → List Piece → Option Value → Prop
  | 0, pieces, slot => slot = collected (values pieces)
  | n + 1, pieces, slot =>
    if pieces = [] then slot = none
    else ∃ inner : Entries Value, slot = some (.object inner) ∧ inner.Ordered ∧
      ∀ key, Grouped n (below key pieces) (Entries.find? inner key)

namespace Grouped

variable {n : Nat} {pieces : List Piece} {slot : Option Value} {key : String}
  {labels path : List String} {object inner : Entries Value}

theorem empty (n : Nat) : Grouped n [] none := by
  cases n with
  | zero => rfl
  | succ n =>
    rw [Grouped, if_pos rfl]

theorem eq_none_iff (h : Grouped n pieces slot) : slot = none ↔ pieces = [] := by
  cases n with
  | zero =>
    rw [Grouped] at h
    rw [h, collected_eq_none, values, List.map_eq_nil_iff]
  | succ n =>
    rw [Grouped] at h
    split_ifs at h with hp
    · simp [h, hp]
    · obtain ⟨inner, rfl, -⟩ := h
      simp [hp]

/-- The object that a slot with at least one level holds or opens. -/
theorem exists_inner (h : Grouped (n + 1) pieces slot) :
    ∃ inner : Entries Value, Opens slot inner ∧ inner.Ordered ∧
      ∀ key, Grouped n (below key pieces) (Entries.find? inner key) := by
  rw [Grouped] at h
  split_ifs at h with hp
  · subst hp
    exact ⟨[], Or.inl ⟨h, rfl⟩, Entries.ordered_nil, fun key => empty n⟩
  · obtain ⟨inner, hslot, hinner⟩ := h
    exact ⟨inner, Or.inr hslot, hinner⟩

/-- **One more object.**  Nesting an object whose labels are as many as the levels succeeds and
keeps the slot grouped. -/
theorem nestedIn (key : String) (object : Entries Value) (h : Grouped n pieces slot)
    (hlen : labels.length = n) :
    ∃ value, Groundplan.nestedIn key slot labels (.object object) = .ok value ∧
      Grouped n (pieces ++ [(labels, object)]) (some value) := by
  induction n generalizing key pieces slot labels with
  | zero =>
    obtain rfl := List.length_eq_zero_iff.mp hlen
    rw [Grouped] at h
    refine ⟨_, rfl, ?_⟩
    rw [Grouped, h, joinedBy_collected]
  | succ n ih =>
    obtain ⟨label, rest, rfl⟩ := List.exists_cons_of_length_eq_add_one hlen
    obtain ⟨inner, hopens, hordered, hgrouped⟩ := h.exists_inner
    -- only the slot of the first label changes inside
    obtain ⟨deeper, hdeeper, hfilled⟩ := ih label (hgrouped label) (by simpa using hlen)
    refine ⟨_, nestedIn_cons_eq_ok.mpr ⟨inner, deeper, hopens, hdeeper, rfl⟩, ?_⟩
    rw [Grouped, if_neg (by simp)]
    refine ⟨_, rfl, Entries.ordered_insert hordered, fun other => ?_⟩
    rw [below_append]
    by_cases ho : other = label
    · subst ho
      rw [Entries.find?_insert_self, below_cons_self]
      exact hfilled
    · rw [Entries.find?_insert_of_ne ho, below_cons_of_ne (Ne.symm ho)]
      simpa [below] using hgrouped other

/-! ### Reading a grouped slot -/

/-- **What a path leads to** is what the pieces under it are grouped to. -/
theorem at? (h : Grouped (n + path.length) pieces slot) (hne : under path pieces ≠ []) :
    Grouped n (under path pieces) (slot.bind (·.at? path)) := by
  induction path generalizing pieces slot with
  | nil =>
    cases slot with
    | none => exact h
    | some v => exact h
  | cons key path ih =>
    rw [under] at hne ⊢
    -- something lies under the path, so the slot holds an object
    have hp : pieces ≠ [] := by
      rintro rfl
      exact hne under_nil
    rw [List.length_cons, ← Nat.add_assoc, Grouped, if_neg hp] at h
    obtain ⟨inner, rfl, -, hgrouped⟩ := h
    exact ih (hgrouped key) hne

/-- The keys of an object inside a grouped slot are the first labels of the pieces. -/
theorem keys_iff (h : Grouped (n + 1) pieces (some (.object inner))) :
    key ∈ Entries.keys inner ↔ ∃ p ∈ pieces, [key] <+: p.1 := by
  rw [Grouped] at h
  split_ifs at h with hp
  obtain ⟨inner', hinner, -, hgrouped⟩ := h
  obtain rfl := Value.object.inj (Option.some.inj hinner)
  have hnone := (hgrouped key).eq_none_iff
  rw [Entries.find?_eq_none_iff] at hnone
  -- a key is missing iff no piece lies below it
  rw [← not_iff_not, hnone, List.eq_nil_iff_forall_not_mem]
  constructor
  · rintro hbelow ⟨⟨labels, object⟩, hmem, rest, rfl⟩
    exact hbelow (rest, object) (mem_below.mpr hmem)
  · rintro hnone ⟨labels, object⟩ hmem
    exact hnone ⟨_, mem_below.mp hmem, labels, rfl⟩

end Grouped
end Groundplan
