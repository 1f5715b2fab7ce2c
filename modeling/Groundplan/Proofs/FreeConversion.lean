import Groundplan.Proofs.Height
import Groundplan.Proofs.Skeleton

/-!
# Conversion without a ceiling

Under a ceiling with room for the tree, depths do not show.  In string position an expression then
renders as its skeleton says, also when it fails (`partText_eq_skeleton`, `rendered_eq_skeleton`), and
in value position it has the value that is computed along the tree without counting levels
(`Conversion.freeValue`, `expression_eq_freeValue`).
-/

namespace Groundplan.Conversion

/-- A level with room is entered. -/
theorem enter_bind {α : Type} {c : Conversion} {depth : Nat} (hroom : depth < c.maxDepth)
    (k : Nat → Except Error α) : (c.enter depth >>= k) = k (depth + 1) := by
  rw [enter, if_pos (Nat.succ_le_of_lt hroom)]
  rfl

/-! ### String position -/

/-- Texts of skeletons are joined where the skeletons are. -/
theorem render_append_eq (first others : Except Error Skeleton) :
    (do let text ← Skeleton.render <$> first; (text ++ ·) <$> Skeleton.render <$> others)
      = Skeleton.render <$> (do let k ← first; k.append <$> others) := by
  cases first with
  | error e => rfl
  | ok k =>
    cases others with
    | error e => rfl
    | ok l => exact congrArg Except.ok (Skeleton.render_append k l).symm

mutual

/-- With room for it, an expression in string position renders as its skeleton. -/
theorem partText_eq_skeleton (c : Conversion) (depth : Nat) (e : Expression)
    (hroom : depth + e.textHeight ≤ c.maxDepth) :
    c.partText depth e = Skeleton.render <$> c.skeleton e := by
  rw [partText.eq_def]
  cases e with
  | literal span value =>
    rw [Expression.textHeight] at hroom
    rw [enter_bind (by omega), skeleton]
    dsimp only
    cases value.text? with
    | none => rfl
    | some text => exact congrArg Except.ok (by simp [Skeleton.render])
  | template span parts =>
    rw [Expression.textHeight] at hroom
    rw [enter_bind (by omega), skeleton]
    dsimp only
    rw [joined_rendered]
    exact rendered_eq_skeleton c _ parts (by omega)
  | wrap span inner =>
    rw [Expression.textHeight] at hroom
    rw [enter_bind (by omega), skeleton]
    exact partText_eq_skeleton c _ inner (by omega)
  | conditional span condition yes no =>
    rw [Expression.textHeight] at hroom
    rw [enter_bind (by omega), skeleton]
    dsimp only
    rw [partText_eq_skeleton c _ yes (by omega), partText_eq_skeleton c _ no (by omega)]
    cases c.quote condition.span with
    | error e => rfl
    | ok source =>
      cases c.skeleton yes with
      | error e => rfl
      | ok y =>
        cases c.skeleton no with
        | error e => rfl
        | ok n => exact congrArg Except.ok (by simp [Skeleton.render])
  | forEach span key value collection body =>
    rw [Expression.textHeight] at hroom
    rw [enter_bind (by omega), skeleton]
    dsimp only
    rw [partText_eq_skeleton c _ body (by omega)]
    cases c.quote collection.span with
    | error e => rfl
    | ok source =>
      cases c.skeleton body with
      | error e => rfl
      | ok b => exact congrArg Except.ok (by simp [Skeleton.render])
  | tuple span items | object span items | reference span | dynamic span =>
    rw [Expression.textHeight] at hroom
    rw [enter_bind (by omega), skeleton]
    dsimp only
    rw [marker]
    cases c.quote span with
    | error e => rfl
    | ok source => exact congrArg Except.ok (by simp [Skeleton.render])
termination_by structural e

/-- With room for it, a template renders as its skeleton. -/
theorem rendered_eq_skeleton (c : Conversion) (depth : Nat) (parts : List Part)
    (hroom : depth + Part.heights parts ≤ c.maxDepth) :
    c.rendered depth parts = Skeleton.render <$> c.templateSkeleton parts := by
  cases parts with
  | nil =>
    rw [rendered, templateSkeleton]
    rfl
  | cons part rest =>
    cases part with
    | literal text =>
      rw [Part.heights] at hroom
      rw [rendered, templateSkeleton, rendered_eq_skeleton c depth rest hroom]
      cases c.templateSkeleton rest with
      | error e => rfl
      | ok k => exact congrArg Except.ok (Skeleton.render_prepend text k).symm
    | interpolation e | directive e =>
      rw [Part.heights] at hroom
      rw [rendered, templateSkeleton, partText_eq_skeleton c depth e (by omega),
        rendered_eq_skeleton c depth rest (by omega)]
      exact render_append_eq _ _
termination_by structural parts

end

/-! ### Value position -/

mutual

/-- The value of an expression when levels are not counted. -/
def freeValue (c : Conversion) (e : Expression) : Except Error Value :=
  match e with
  | .literal _ value => .ok value.toValue
  | .template _ parts => (fun k => .string k.render) <$> c.templateSkeleton parts
  | .wrap _ inner => freeValue c inner
  | .tuple _ items => .array <$> freeElements c items
  | .object _ items => .object <$> freeEntries c [] items
  | .reference span => .string <$> c.marker span
  | .conditional span _ _ _ => .string <$> c.marker span
  | .forEach span _ _ _ _ => .string <$> c.marker span
  | .dynamic span => .string <$> c.marker span
termination_by structural e

/-- The elements of a tuple when levels are not counted. -/
def freeElements (c : Conversion) (es : List Expression) : Except Error (List Value) :=
  match es with
  | [] => .ok []
  | e :: rest => do
    let value ← freeValue c e
    let values ← freeElements c rest
    return value :: values
termination_by structural es

/-- The entries of an object when levels are not counted. -/
def freeEntries (c : Conversion) (before : Entries Value) (items : List Item) :
    Except Error (Entries Value) :=
  match items with
  | [] => .ok before
  | .mk key value :: rest => do
    let key ← c.keyed key (Skeleton.render <$> c.skeleton key)
    let value ← freeValue c value
    freeEntries c (before.insert key value) rest
termination_by structural items

end

/-- A key that is a bare reference needs no room. -/
theorem keyed_eq {c : Conversion} {depth : Nat} {key : Expression}
    (hroom : depth + key.keyHeight key.textHeight ≤ c.maxDepth) :
    c.keyed key (c.partText depth key) = c.keyed key (Skeleton.render <$> c.skeleton key) := by
  cases key with
  | reference span => rfl
  | literal | template | wrap | tuple | object | conditional | forEach | dynamic =>
    rw [partText_eq_skeleton c depth _ hroom]

mutual

/-- With room for it, an expression has its free value. -/
theorem expression_eq_freeValue (c : Conversion) (depth : Nat) (e : Expression)
    (hroom : depth + e.height ≤ c.maxDepth) : c.expression depth e = c.freeValue e := by
  rw [expression.eq_def]
  cases e with
  | template span parts =>
    rw [Expression.height] at hroom
    rw [enter_bind (by omega), freeValue]
    dsimp only
    rw [joined_rendered, rendered_eq_skeleton c _ parts (by omega)]
    cases c.templateSkeleton parts <;> rfl
  | wrap span inner =>
    rw [Expression.height] at hroom
    rw [enter_bind (by omega), freeValue]
    exact expression_eq_freeValue c _ inner (by omega)
  | tuple span items =>
    rw [Expression.height] at hroom
    rw [enter_bind (by omega), freeValue]
    dsimp only
    rw [elements_eq_freeElements c _ items (by omega)]
  | object span items =>
    rw [Expression.height] at hroom
    rw [enter_bind (by omega), freeValue]
    dsimp only
    rw [entries_eq_freeEntries c _ [] items (by omega)]
  | literal | reference | conditional | forEach | dynamic =>
    rw [Expression.height] at hroom
    rw [enter_bind (by omega), freeValue]
termination_by structural e

theorem elements_eq_freeElements (c : Conversion) (depth : Nat) (es : List Expression)
    (hroom : depth + Expression.heights es ≤ c.maxDepth) :
    c.elements depth es = c.freeElements es := by
  cases es with
  | nil => rw [elements, freeElements]
  | cons e rest =>
    rw [Expression.heights] at hroom
    rw [elements, freeElements, expression_eq_freeValue c depth e (by omega),
      elements_eq_freeElements c depth rest (by omega)]
termination_by structural es

theorem entries_eq_freeEntries (c : Conversion) (depth : Nat) (before : Entries Value)
    (items : List Item) (hroom : depth + Item.heights items ≤ c.maxDepth) :
    c.entries depth before items = c.freeEntries before items := by
  cases items with
  | nil => rw [entries, freeEntries]
  | cons item rest =>
    obtain ⟨key, value⟩ := item
    rw [Item.heights] at hroom
    rw [entries, freeEntries, keyed_eq (by omega), expression_eq_freeValue c depth value (by omega)]
    refine congrArg _ (funext fun text => congrArg _ (funext fun v => ?_))
    exact entries_eq_freeEntries c depth _ rest (by omega)
termination_by structural items

end

end Groundplan.Conversion
