import Groundplan.Tree
import Mathlib.Order.Bounds.Basic

/-!
# The height of a tree

A conversion descends from scopes into expressions, which stand in value position or in string
position, and it does not descend everywhere: what is quoted from the source is not entered.
`Level.inner` lists what it enters from where it is.  The height of a level is computed along the
tree (`Expression.height`, `Expression.textHeight`, `Body.height`), and it is one more than the
greatest height of what is entered from there (`Level.height_eq`); so it is the length of the longest
way down (`isGreatest_height`).
-/

namespace Groundplan

/-! ### Heights along the tree -/

/-- The height of an object key, whose height in string position is `height`: a bare reference is
not entered. -/
def Expression.keyHeight (key : Expression) (height : Nat) : Nat :=
  match key with
  | .reference _ => 0
  | _ => height

theorem Expression.keyHeight_of_ne {key : Expression} {height : Nat}
    (h : ∀ span, key ≠ .reference span) : key.keyHeight height = height := by
  cases key with
  | reference span => exact absurd rfl (h span)
  | literal | template | wrap | tuple | object | conditional | forEach | dynamic => rfl

mutual

/-- The height of an expression in value position. -/
def Expression.height (e : Expression) : Nat :=
  match e with
  | .literal _ _ => 1
  | .template _ parts => Part.heights parts + 1
  | .wrap _ inner => Expression.height inner + 1
  | .tuple _ items => Expression.heights items + 1
  | .object _ items => Item.heights items + 1
  | .reference _ => 1
  | .conditional _ _ _ _ => 1
  | .forEach _ _ _ _ _ => 1
  | .dynamic _ => 1
termination_by structural e

/-- The greatest height of expressions in value position. -/
def Expression.heights (es : List Expression) : Nat :=
  match es with
  | [] => 0
  | e :: rest => max (Expression.height e) (Expression.heights rest)
termination_by structural es

/-- The greatest height of the keys and values of an object. -/
def Item.heights (items : List Item) : Nat :=
  match items with
  | [] => 0
  | .mk key value :: rest =>
    max (max (key.keyHeight (Expression.textHeight key)) (Expression.height value))
      (Item.heights rest)
termination_by structural items

/-- The greatest height of the parts of a template. -/
def Part.heights (parts : List Part) : Nat :=
  match parts with
  | [] => 0
  | .literal _ :: rest => Part.heights rest
  | .interpolation e :: rest => max (Expression.textHeight e) (Part.heights rest)
  | .directive e :: rest => max (Expression.textHeight e) (Part.heights rest)
termination_by structural parts

/-- The height of an expression in string position. -/
def Expression.textHeight (e : Expression) : Nat :=
  match e with
  | .literal _ _ => 1
  | .template _ parts => Part.heights parts + 1
  | .wrap _ inner => Expression.textHeight inner + 1
  | .conditional _ _ yes no => max (Expression.textHeight yes) (Expression.textHeight no) + 1
  | .forEach _ _ _ _ body => Expression.textHeight body + 1
  | .tuple _ _ => 1
  | .object _ _ => 1
  | .reference _ => 1
  | .dynamic _ => 1
termination_by structural e

end

/-- The greatest height of the expressions of attributes. -/
def Attribute.heights : List Attribute → Nat
  | [] => 0
  | a :: rest => max a.expr.height (heights rest)

mutual

/-- The height of a scope. -/
def Body.height (b : Body) : Nat :=
  match b with
  | .mk attributes blocks => max (Attribute.heights attributes) (Block.heights blocks) + 1
termination_by structural b

/-- The greatest height of the scopes of blocks. -/
def Block.heights (blocks : List Block) : Nat :=
  match blocks with
  | [] => 0
  | .mk _ _ _ body :: rest => max (Body.height body) (Block.heights rest)
termination_by structural blocks

end

/-! ### Ways down -/

/-- Where a conversion may be: in a scope, or in an expression in one of the two positions. -/
inductive Level where
  | scope (body : Body)
  | value (e : Expression)
  | text (e : Expression)

namespace Level

/-- What is entered from the key of an object item. -/
def ofKey : Expression → List Level
  | .reference _ => []
  | key => [text key]

/-- What is entered from a part of a template. -/
def ofPart : Part → List Level
  | .literal _ => []
  | .interpolation e => [text e]
  | .directive e => [text e]

/-- What is entered from an item of an object. -/
def ofItem : Item → List Level
  | .mk key e => ofKey key ++ [value e]

/-- What a conversion enters from a level. -/
def inner : Level → List Level
  | scope body =>
    body.attributes.map (fun a => value a.expr) ++ body.blocks.map (fun b => scope b.body)
  | value (.template _ parts) => parts.flatMap ofPart
  | value (.wrap _ e) => [value e]
  | value (.tuple _ items) => items.map value
  | value (.object _ items) => items.flatMap ofItem
  | text (.template _ parts) => parts.flatMap ofPart
  | text (.wrap _ e) => [text e]
  | text (.conditional _ _ yes no) => [text yes, text no]
  | text (.forEach _ _ _ _ body) => [text body]
  -- literals are leaves, and the rest is quoted
  | value (.literal _ _) | value (.reference _) | value (.conditional _ _ _ _)
  | value (.forEach _ _ _ _ _) | value (.dynamic _) => []
  | text (.literal _ _) | text (.tuple _ _) | text (.object _ _) | text (.reference _)
  | text (.dynamic _) => []

/-- The height of a level. -/
def height : Level → Nat
  | scope body => body.height
  | value e => e.height
  | text e => e.textHeight

/-- A way down from a level, over a number of levels with the first one. -/
inductive Descent : Level → Nat → Prop where
  | stop (l : Level) : Descent l 1
  | step {l next : Level} {n : Nat} (h : next ∈ l.inner) (rest : Descent next n) : Descent l (n + 1)

/-! ### The longest way down -/

/-- The greatest height of some levels. -/
def heights (ls : List Level) : Nat := (ls.map height).foldr max 0

@[simp] theorem heights_nil : heights [] = 0 := rfl

@[simp] theorem heights_cons (l : Level) (ls : List Level) :
    heights (l :: ls) = max l.height (heights ls) := rfl

@[simp] theorem heights_append (ls more : List Level) :
    heights (ls ++ more) = max (heights ls) (heights more) := by
  induction ls with
  | nil => simp
  | cons l rest ih => simp [ih, max_assoc]

theorem le_heights {l : Level} {ls : List Level} (h : l ∈ ls) : l.height ≤ heights ls := by
  induction ls with
  | nil => cases h
  | cons first rest ih =>
    rw [heights_cons]
    rcases List.mem_cons.mp h with rfl | h
    · exact le_max_left _ _
    · exact (ih h).trans (le_max_right _ _)

/-- Unless there is none, some level has the greatest height. -/
theorem exists_height_eq {ls : List Level} (h : 0 < heights ls) :
    ∃ l ∈ ls, l.height = heights ls := by
  induction ls with
  | nil => cases h
  | cons first rest ih =>
    rw [heights_cons] at h ⊢
    rcases le_total (heights rest) first.height with hle | hle
    · exact ⟨first, List.mem_cons_self, (max_eq_left hle).symm⟩
    · rw [max_eq_right hle] at h ⊢
      obtain ⟨l, hl, heq⟩ := ih h
      exact ⟨l, List.mem_cons_of_mem _ hl, heq⟩

theorem heights_ofKey (key : Expression) : heights (ofKey key) = key.keyHeight key.textHeight := by
  cases key <;> simp [ofKey, Expression.keyHeight, height]

theorem heights_values (es : List Expression) :
    heights (es.map value) = Expression.heights es := by
  induction es with
  | nil => rw [Expression.heights]; rfl
  | cons e rest ih => rw [List.map_cons, heights_cons, ih, Expression.heights]; rfl

theorem heights_ofItem (items : List Item) :
    heights (items.flatMap ofItem) = Item.heights items := by
  induction items with
  | nil => rw [Item.heights]; rfl
  | cons item rest ih =>
    obtain ⟨key, e⟩ := item
    rw [List.flatMap_cons, heights_append, ih, ofItem, heights_append, heights_ofKey, Item.heights]
    simp [height]

theorem heights_ofPart (parts : List Part) :
    heights (parts.flatMap ofPart) = Part.heights parts := by
  induction parts with
  | nil => rw [Part.heights]; rfl
  | cons part rest ih =>
    rw [List.flatMap_cons, heights_append, ih]
    cases part <;> simp [ofPart, Part.heights, height]

theorem heights_attributes (attributes : List Attribute) :
    heights (attributes.map fun a => value a.expr) = Attribute.heights attributes := by
  induction attributes with
  | nil => rfl
  | cons a rest ih => rw [List.map_cons, heights_cons, ih]; rfl

theorem heights_blocks (blocks : List Block) :
    heights (blocks.map fun b => scope b.body) = Block.heights blocks := by
  induction blocks with
  | nil => rw [Block.heights]; rfl
  | cons b rest ih =>
    obtain ⟨kind, labels, span, body⟩ := b
    rw [List.map_cons, heights_cons, ih, Block.heights]
    rfl

/-- **One level more**: the height of a level is one more than the greatest of what is entered from
it. -/
theorem height_eq (l : Level) : l.height = heights l.inner + 1 := by
  cases l with
  | scope body =>
    obtain ⟨attributes, blocks⟩ := body
    rw [inner, heights_append, height, Body.height]
    simp only [Body.attributes, Body.blocks, heights_attributes, heights_blocks]
  | value e =>
    rw [height]
    cases e with
    | template span parts => rw [inner, heights_ofPart, Expression.height]
    | wrap span e => simp [inner, Expression.height, height]
    | tuple span items => rw [inner, heights_values, Expression.height]
    | object span items => rw [inner, heights_ofItem, Expression.height]
    | literal | reference | conditional | forEach | dynamic => simp [inner, Expression.height]
  | text e =>
    rw [height]
    cases e with
    | template span parts => rw [inner, heights_ofPart, Expression.textHeight]
    | wrap span e | forEach span key value collection e =>
      simp [inner, Expression.textHeight, height]
    | conditional span condition yes no => simp [inner, Expression.textHeight, height]
    | literal | tuple | object | reference | dynamic => simp [inner, Expression.textHeight]

-- the branches of a conditional are entered in string position only
example :
    let e : Expression := .conditional ⟨0, 0⟩ (.reference ⟨0, 0⟩) (.dynamic ⟨0, 0⟩)
      (.wrap ⟨0, 0⟩ (.reference ⟨0, 0⟩))
    (value e).height = 1 ∧ (text e).height = 3 := by
  decide

theorem one_le_height (l : Level) : 1 ≤ l.height := by
  rw [height_eq]
  omega

/-- No way down is longer than the height. -/
theorem Descent.le_height {l : Level} {n : Nat} (h : Descent l n) : n ≤ l.height := by
  induction h with
  | stop l => exact one_le_height l
  | @step l next n hnext _ ih =>
    have hle : next.height ≤ heights l.inner := le_heights hnext
    rw [height_eq l]
    omega

/-- Some way down is as long as the height. -/
theorem descent_height (l : Level) : Descent l l.height := by
  induction hn : l.height using Nat.strong_induction_on generalizing l with
  | _ n ih =>
    rw [height_eq] at hn
    rcases Nat.eq_zero_or_pos (heights l.inner) with hzero | hpos
    · rw [hzero] at hn
      obtain rfl : 1 = n := by omega
      exact .stop l
    -- the way goes on where the height is greatest
    · obtain ⟨next, hnext, hheight⟩ := exists_height_eq hpos
      obtain rfl : next.height + 1 = n := by omega
      exact .step hnext (ih next.height (by omega) next rfl)

/-- **The longest way down**: the height of a level is the greatest number of levels on a way down
from it. -/
theorem isGreatest_height (l : Level) : IsGreatest {n | Descent l n} l.height :=
  ⟨descent_height l, fun _ h => Descent.le_height h⟩

end Level
end Groundplan
