import Groundplan.Proofs.ConversionErrors
import Groundplan.Proofs.Height

/-!
# The ceiling on nesting is sharp

A conversion under a low ceiling is the conversion under a high one, cut off where the tree does not
fit: `CutOff` says that an outcome is the free one if the tree fits, and that otherwise it fails, at
the ceiling or with an error that comes before.  It is closed under sequencing (`CutOff.bind`) and
under going one level down (`CutOff.enter`), so one induction over expressions and one over scopes
show it of every conversion, with the height of the tree as what has to fit (`expression_cutOff`,
`scope_cutOff`).  The errors of a conversion name its own ceiling, hence an outcome that is the same
under two ceilings does not name any (`sharpAt_of_cutOff`).
-/

namespace Groundplan

open Error (OfConversion)

variable {α β : Type}

/-! ### Conversions that are cut off -/

/-- The outcome under a ceiling: the free one where things fit, and otherwise an error of the
ceiling or one that the free outcome has as well. -/
structure CutOff (limit : Nat) (fits : Prop) (outcome free : Except Error α) : Prop where
  eq_free : fits → outcome = free
  fails : ¬ fits → outcome = .error (.tooDeep limit) ∨ ∃ e, free = .error e ∧ outcome = .error e

namespace CutOff

variable {limit : Nat} {fits fits' : Prop} {outcome free : Except Error α}

/-- What does not depend on the ceiling is not cut off. -/
theorem of_fits (h : fits) (outcome : Except Error α) : CutOff limit fits outcome outcome :=
  ⟨fun _ => rfl, fun hfits => absurd h hfits⟩

theorem congr (h : CutOff limit fits outcome free) (hiff : fits' ↔ fits) :
    CutOff limit fits' outcome free :=
  ⟨fun hfits => h.eq_free (hiff.mp hfits), fun hfits => h.fails fun h => hfits (hiff.mpr h)⟩

/-- A sequence is cut off where one of its steps is. -/
theorem bind {k k' : α → Except Error β} (h : CutOff limit fits outcome free)
    (hk : ∀ a, CutOff limit fits' (k a) (k' a)) :
    CutOff limit (fits ∧ fits') (outcome >>= k) (free >>= k') := by
  constructor
  · rintro ⟨hfits, hfits'⟩
    rw [h.eq_free hfits]
    cases free with
    | error e => rfl
    | ok a => exact (hk a).eq_free hfits'
  · intro hboth
    by_cases hfits : fits
    -- the first step is the free one, so it fails as that does, or the second step is cut off
    · rw [h.eq_free hfits]
      cases free with
      | error e => exact Or.inr ⟨e, rfl, rfl⟩
      | ok a => exact (hk a).fails fun hfits' => hboth ⟨hfits, hfits'⟩
    · rcases h.fails hfits with hdeep | ⟨e, hfree, houtcome⟩
      · rw [hdeep]
        exact Or.inl rfl
      · rw [hfree, houtcome]
        exact Or.inr ⟨e, rfl, rfl⟩

theorem map (f : α → β) (h : CutOff limit fits outcome free) :
    CutOff limit fits (f <$> outcome) (f <$> free) := by
  constructor
  · intro hfits
    rw [h.eq_free hfits]
  · intro hfits
    rcases h.fails hfits with hdeep | ⟨e, hfree, houtcome⟩
    · rw [hdeep]
      exact Or.inl rfl
    · rw [hfree, houtcome]
      exact Or.inr ⟨e, rfl, rfl⟩

open Conversion in
/-- One level down there is room for one level less. -/
theorem enter {s : Source} {limit' depth depth' n : Nat} {k k' : Nat → Except Error α}
    (hfree : depth' + 1 ≤ limit')
    (hk : CutOff limit (n ≤ limit - (depth + 1)) (k (depth + 1)) (k' (depth' + 1))) :
    CutOff limit (n + 1 ≤ limit - depth)
      ((Conversion.mk s limit).enter depth >>= k)
      ((Conversion.mk s limit').enter depth' >>= k') := by
  have hfree' : (Conversion.mk s limit').enter depth' = .ok (depth' + 1) := by
    rw [Conversion.enter, if_pos hfree]
  rw [hfree', ok_bind, Conversion.enter]
  by_cases hroom : depth + 1 ≤ limit
  · rw [if_pos hroom, ok_bind]
    exact hk.congr (by omega)
  · rw [if_neg hroom]
    exact ⟨fun hfits => absurd hfits (by omega), fun _ => Or.inl rfl⟩

/-- A level from which nothing is entered. -/
theorem enter_leaf {s : Source} {limit' depth depth' : Nat} {k : Nat → Except Error α}
    (hfree : depth' + 1 ≤ limit') (hk : k (depth + 1) = k (depth' + 1)) :
    CutOff limit (1 ≤ limit - depth)
      ((Conversion.mk s limit).enter depth >>= k)
      ((Conversion.mk s limit').enter depth' >>= k) := by
  refine enter hfree (n := 0) ?_
  rw [hk]
  exact of_fits (Nat.zero_le _) _

end CutOff

namespace Conversion

/-! ### Expressions -/

/-- A bare reference is quoted as a key, so that only other keys have to fit. -/
theorem keyed_cutOff {s : Source} {limit limit' depth : Nat} {key : Expression}
    {outcome free : Except Error String}
    (h : (∀ span, key ≠ .reference span) →
      CutOff limit (key.textHeight ≤ limit - depth) outcome free) :
    CutOff limit (key.keyHeight key.textHeight ≤ limit - depth)
      ((Conversion.mk s limit).keyed key outcome) ((Conversion.mk s limit').keyed key free) := by
  cases key with
  | reference span => exact .of_fits (Nat.zero_le _) _
  | literal | template | wrap | tuple | object | conditional | forEach | dynamic =>
    exact h fun span hspan => nomatch hspan

mutual

/-- An expression in value position is cut off where its height does not fit. -/
theorem expression_cutOff (s : Source) (limit limit' depth depth' : Nat) (e : Expression)
    (hfree : depth' + e.height ≤ limit') :
    CutOff limit (e.height ≤ limit - depth)
      ((Conversion.mk s limit).expression depth e)
      ((Conversion.mk s limit').expression depth' e) := by
  rw [expression.eq_def ⟨s, limit⟩, expression.eq_def ⟨s, limit'⟩]
  cases e with
  | template span parts =>
    rw [Expression.height] at hfree ⊢
    simp only [joined_rendered]
    refine .enter (by omega) (.map _ ?_)
    exact rendered_cutOff s limit limit' _ _ parts (by omega)
  | wrap span inner =>
    rw [Expression.height] at hfree ⊢
    exact .enter (by omega) (expression_cutOff s limit limit' _ _ inner (by omega))
  | tuple span items =>
    rw [Expression.height] at hfree ⊢
    exact .enter (by omega) (.map _ (elements_cutOff s limit limit' _ _ items (by omega)))
  | object span items =>
    rw [Expression.height] at hfree ⊢
    exact .enter (by omega) (.map _ (entries_cutOff s limit limit' _ _ [] items (by omega)))
  | literal | reference | conditional | forEach | dynamic =>
    rw [Expression.height] at hfree ⊢
    exact .enter_leaf hfree rfl
termination_by structural e

theorem elements_cutOff (s : Source) (limit limit' depth depth' : Nat) (es : List Expression)
    (hfree : depth' + Expression.heights es ≤ limit') :
    CutOff limit (Expression.heights es ≤ limit - depth)
      ((Conversion.mk s limit).elements depth es)
      ((Conversion.mk s limit').elements depth' es) := by
  cases es with
  | nil =>
    rw [elements, elements, Expression.heights]
    exact .of_fits (Nat.zero_le _) _
  | cons e rest =>
    rw [Expression.heights] at hfree ⊢
    rw [elements, elements]
    refine .congr (.bind (expression_cutOff s limit limit' _ _ e (by omega)) fun value => ?_)
      Nat.max_le
    exact .map _ (elements_cutOff s limit limit' _ _ rest (by omega))
termination_by structural es

theorem entries_cutOff (s : Source) (limit limit' depth depth' : Nat) (before : Entries Value)
    (items : List Item) (hfree : depth' + Item.heights items ≤ limit') :
    CutOff limit (Item.heights items ≤ limit - depth)
      ((Conversion.mk s limit).entries depth before items)
      ((Conversion.mk s limit').entries depth' before items) := by
  cases items with
  | nil =>
    rw [entries, entries, Item.heights]
    exact .of_fits (Nat.zero_le _) _
  | cons item rest =>
    obtain ⟨key, value⟩ := item
    rw [Item.heights] at hfree ⊢
    rw [entries, entries]
    have hkey : CutOff limit (key.keyHeight key.textHeight ≤ limit - depth)
        ((Conversion.mk s limit).keyed key ((Conversion.mk s limit).partText depth key))
        ((Conversion.mk s limit').keyed key ((Conversion.mk s limit').partText depth' key)) := by
      refine keyed_cutOff fun hne => partText_cutOff s limit limit' _ _ key ?_
      rw [Expression.keyHeight_of_ne hne] at hfree
      omega
    refine .congr (.bind hkey fun text =>
      .bind (expression_cutOff s limit limit' _ _ value (by omega)) fun value =>
        entries_cutOff s limit limit' _ _ _ rest (by omega)) ?_
    rw [Nat.max_le, Nat.max_le, and_assoc]
termination_by structural items

theorem rendered_cutOff (s : Source) (limit limit' depth depth' : Nat) (parts : List Part)
    (hfree : depth' + Part.heights parts ≤ limit') :
    CutOff limit (Part.heights parts ≤ limit - depth)
      ((Conversion.mk s limit).rendered depth parts)
      ((Conversion.mk s limit').rendered depth' parts) := by
  cases parts with
  | nil =>
    rw [rendered, rendered, Part.heights]
    exact .of_fits (Nat.zero_le _) _
  | cons part rest =>
    cases part with
    | literal text =>
      rw [Part.heights] at hfree ⊢
      rw [rendered, rendered]
      exact .map _ (rendered_cutOff s limit limit' _ _ rest hfree)
    | interpolation e | directive e =>
      rw [Part.heights] at hfree ⊢
      rw [rendered, rendered]
      refine .congr (.bind (partText_cutOff s limit limit' _ _ e (by omega)) fun text => ?_)
        Nat.max_le
      exact .map _ (rendered_cutOff s limit limit' _ _ rest (by omega))
termination_by structural parts

/-- An expression in string position is cut off where its height there does not fit. -/
theorem partText_cutOff (s : Source) (limit limit' depth depth' : Nat) (e : Expression)
    (hfree : depth' + e.textHeight ≤ limit') :
    CutOff limit (e.textHeight ≤ limit - depth)
      ((Conversion.mk s limit).partText depth e)
      ((Conversion.mk s limit').partText depth' e) := by
  rw [partText.eq_def ⟨s, limit⟩, partText.eq_def ⟨s, limit'⟩]
  cases e with
  | template span parts =>
    rw [Expression.textHeight] at hfree ⊢
    simp only [joined_rendered]
    refine .enter (by omega) ?_
    exact rendered_cutOff s limit limit' _ _ parts (by omega)
  | wrap span inner =>
    rw [Expression.textHeight] at hfree ⊢
    exact .enter (by omega) (partText_cutOff s limit limit' _ _ inner (by omega))
  | conditional span condition yes no =>
    rw [Expression.textHeight] at hfree ⊢
    refine .enter (by omega) (.congr (.bind (.of_fits trivial _) fun condition =>
      .bind (partText_cutOff s limit limit' _ _ yes (by omega)) fun yes =>
        .map _ (partText_cutOff s limit limit' _ _ no (by omega))) ?_)
    rw [true_and, Nat.max_le]
  | forEach span key value collection body =>
    rw [Expression.textHeight] at hfree ⊢
    refine .enter (by omega) (.congr (.bind (.of_fits trivial _) fun collection =>
      .map _ (partText_cutOff s limit limit' _ _ body (by omega))) ?_)
    rw [true_and]
  | literal | tuple | object | reference | dynamic =>
    rw [Expression.textHeight] at hfree ⊢
    exact .enter_leaf hfree rfl
termination_by structural e

end

/-! ### Scopes -/

theorem attributes_cutOff (s : Source) (limit limit' depth depth' : Nat) (before : Entries Value)
    (attributes : List Attribute) (hfree : depth' + Attribute.heights attributes ≤ limit') :
    CutOff limit (Attribute.heights attributes ≤ limit - depth)
      ((Conversion.mk s limit).attributes depth before attributes)
      ((Conversion.mk s limit').attributes depth' before attributes) := by
  induction attributes generalizing before with
  | nil => exact .of_fits (Nat.zero_le _) _
  | cons a rest ih =>
    rw [Attribute.heights] at hfree ⊢
    exact .congr (.bind (expression_cutOff s limit limit' _ _ a.expr (by omega)) fun value =>
      ih _ (by omega)) Nat.max_le

mutual

/-- A scope is cut off where its height does not fit. -/
theorem scope_cutOff (s : Source) (limit limit' depth depth' : Nat) (b : Body)
    (hfree : depth' + b.height ≤ limit') :
    CutOff limit (b.height ≤ limit - depth)
      ((Conversion.mk s limit).scope depth b) ((Conversion.mk s limit').scope depth' b) := by
  obtain ⟨attributes, blocks⟩ := b
  rw [Body.height] at hfree ⊢
  rw [scope, scope]
  refine .enter (by omega) (.congr
    (.bind (attributes_cutOff s limit limit' _ _ [] attributes (by omega)) fun before => ?_)
    Nat.max_le)
  exact scopeBlocks_cutOff s limit limit' _ _ before blocks (by omega)
termination_by structural b

theorem scopeBlocks_cutOff (s : Source) (limit limit' depth depth' : Nat) (before : Entries Value)
    (blocks : List Block) (hfree : depth' + Block.heights blocks ≤ limit') :
    CutOff limit (Block.heights blocks ≤ limit - depth)
      ((Conversion.mk s limit).scopeBlocks depth before blocks)
      ((Conversion.mk s limit').scopeBlocks depth' before blocks) := by
  cases blocks with
  | nil =>
    rw [scopeBlocks, scopeBlocks, Block.heights]
    exact .of_fits (Nat.zero_le _) _
  | cons b rest =>
    obtain ⟨kind, labels, span, body⟩ := b
    rw [Block.heights] at hfree ⊢
    rw [scopeBlocks, scopeBlocks]
    -- folding a block into the scope does not look at the ceiling
    refine .congr (.bind (scope_cutOff s limit limit' _ _ body (by omega)) fun value =>
      .bind (.of_fits trivial _) fun after =>
        scopeBlocks_cutOff s limit limit' _ _ after rest (by omega)) ?_
    rw [true_and, Nat.max_le]
termination_by structural blocks

end

end Conversion

/-! ### The threshold -/

/-- A conversion, by ceiling, has a sharp threshold: from it on the outcome is one that names no
ceiling, whatever the ceiling is; under every lower ceiling the conversion fails, at the ceiling or
with the error that it has anyway, and at the ceiling if there is no such error. -/
def SharpAt (threshold : Nat) (outcome : Nat → Except Error α) : Prop :=
  ∃ result : Except Error α,
    (∀ limit, result ≠ .error (.tooDeep limit)) ∧
    (∀ limit, threshold ≤ limit → outcome limit = result) ∧
    (∀ limit, limit < threshold →
      outcome limit = .error (.tooDeep limit) ∨ ∃ e, result = .error e ∧ outcome limit = .error e) ∧
    ∀ limit value, limit < threshold → result = .ok value → outcome limit = .error (.tooDeep limit)

/-- A conversion names no ceiling but its own. -/
theorem eq_of_ofConversion_tooDeep {limit n : Nat} (h : OfConversion limit (.tooDeep n)) :
    n = limit := by
  cases h
  rfl

/-- Conversions that are cut off, and whose errors name their own ceiling, have a sharp
threshold. -/
theorem sharpAt_of_cutOff {threshold : Nat} {outcome : Nat → Except Error α}
    (hcut : ∀ limit free, threshold ≤ free →
      CutOff limit (threshold ≤ limit) (outcome limit) (outcome free))
    (hfails : ∀ limit, FailsWith (OfConversion limit) (outcome limit)) :
    SharpAt threshold outcome := by
  have hsame : ∀ limit, threshold ≤ limit → outcome limit = outcome threshold :=
    fun limit h => (hcut limit threshold le_rfl).eq_free h
  have hlow : ∀ limit, limit < threshold → outcome limit = .error (.tooDeep limit) ∨
      ∃ e, outcome threshold = .error e ∧ outcome limit = .error e :=
    fun limit h => (hcut limit threshold le_rfl).fails (Nat.not_le.mpr h)
  refine ⟨outcome threshold, ?_, hsame, hlow, ?_⟩
  · intro limit h
    -- the error would name the threshold, and the next ceiling as well
    have hthis : limit = threshold := eq_of_ofConversion_tooDeep (hfails threshold _ h)
    have hnext : limit = threshold + 1 :=
      eq_of_ofConversion_tooDeep (hfails (threshold + 1) _ ((hsame _ (by omega)).trans h))
    omega
  · intro limit value hlimit hvalue
    rcases hlow limit hlimit with hdeep | ⟨e, he, -⟩
    · exact hdeep
    · rw [hvalue] at he
      cases he

/-- **The ceiling is sharp.**  For every scope, and for every expression, the number of levels on
the longest way down is a threshold that does not depend on the source: a ceiling that is at least
as high does not show in the outcome, and under a lower one the conversion fails. -/
theorem ceiling_sharp :
    (∀ b : Body, ∃ height, 1 ≤ height ∧ IsGreatest {n | Level.Descent (.scope b) n} height ∧
      ∀ source, SharpAt height fun limit => (Conversion.mk source limit).body b) ∧
    (∀ e : Expression, ∃ height, 1 ≤ height ∧ IsGreatest {n | Level.Descent (.value e) n} height ∧
      ∀ source, SharpAt height fun limit => (Conversion.mk source limit).expression 0 e) := by
  constructor
  · intro b
    refine ⟨b.height, Level.one_le_height (.scope b), Level.isGreatest_height _, fun source => ?_⟩
    apply sharpAt_of_cutOff
    · intro limit free hfree
      exact Conversion.scope_cutOff source limit free 0 0 b (by omega)
    · exact fun limit => Conversion.scope_fails _ 0 b
  · intro e
    refine ⟨e.height, Level.one_le_height (.value e), Level.isGreatest_height _, fun source => ?_⟩
    apply sharpAt_of_cutOff
    · intro limit free hfree
      exact Conversion.expression_cutOff source limit free 0 0 e (by omega)
    · exact fun limit => Conversion.expression_fails _ 0 e

end Groundplan
