import Groundplan.Canonical.Resource
import Groundplan.Proofs.Outcome

/-!
# The errors of a conversion

A conversion fails for four reasons only: a span that the source has no text for, an expression
without a value, a tree that is deeper than the ceiling, and a label path that runs into a value
(`Error.OfConversion`).  Every step of a conversion keeps to them: `expression_fails` and
`partText_fails` by one induction over expressions.  What the expressions of a scope fail with decides
what the scope and the records of a document fail with (`scope_failsWith`, `records_failsWith`); hence
`scope_fails` and `records_fails`.  All four errors concern one document only
(`Error.OfConversion.isLocal`).
-/

namespace Groundplan

/-- An error that a conversion with a ceiling of `limit` levels may end with. -/
inductive Error.OfConversion (limit : Nat) : Error → Prop where
  | unreadable (file message : String) : OfConversion limit (.unreadable file message)
  | noValue (expression message : String) : OfConversion limit (.noValue expression message)
  | tooDeep : OfConversion limit (.tooDeep limit)
  | ambiguousBlock (path message : String) : OfConversion limit (.ambiguousBlock path message)

theorem Error.OfConversion.isLocal {limit : Nat} {e : Error} (h : OfConversion limit e) :
    e.isLocal = true := by
  cases h with
  | unreadable | noValue | tooDeep | ambiguousBlock => rfl

/-! ### The expressions of a scope -/

mutual

/-- The expressions of a scope and of those inside it. -/
def Body.expressions (body : Body) : List Expression :=
  match body with
  | .mk attributes blocks => attributes.map Attribute.expr ++ Block.expressions blocks
termination_by structural body

/-- The expressions of the scopes of blocks. -/
def Block.expressions (blocks : List Block) : List Expression :=
  match blocks with
  | [] => []
  | .mk _ _ _ body :: rest => Body.expressions body ++ Block.expressions rest
termination_by structural blocks

end

namespace Conversion

open Error (OfConversion)

variable (c : Conversion) (depth : Nat)

/-! ### Single steps -/

theorem enter_fails {P : Error → Prop} (h : P (.tooDeep c.maxDepth)) :
    FailsWith P (c.enter depth) := by
  unfold enter
  split
  · exact .ok _
  · exact .error h

theorem quote_fails (span : Span) : FailsWith (OfConversion c.maxDepth) (c.quote span) := by
  unfold quote
  split
  · exact .ok _
  · exact .error (.unreadable _ _)

theorem marker_fails (span : Span) : FailsWith (OfConversion c.maxDepth) (c.marker span) :=
  (c.quote_fails span).map _

variable {c depth}

theorem joined_fails {text : Except Error String} (parts : List Part)
    (h : FailsWith (OfConversion c.maxDepth) text) :
    FailsWith (OfConversion c.maxDepth) (joined parts text) := by
  unfold joined
  split
  · exact .ok _
  · exact h

theorem keyed_fails {text : Except Error String} (key : Expression)
    (h : FailsWith (OfConversion c.maxDepth) text) :
    FailsWith (OfConversion c.maxDepth) (c.keyed key text) := by
  unfold keyed
  split
  · exact c.quote_fails _
  · exact h

/-- A block that cannot be folded into a scope is ambiguous. -/
theorem aggregated_fails (before : Entries Value) (kind : String) (labels : List String)
    (value : Entries Value) {P : Error → Prop}
    (h : ∀ path message, P (.ambiguousBlock path message)) :
    FailsWith P (aggregated before kind labels value) := by
  unfold aggregated
  split
  · exact .ok _
  · exact .error (h _ _)

/-! ### Expressions -/

mutual

/-- An expression in value position fails for the reasons of a conversion. -/
theorem expression_fails (c : Conversion) (depth : Nat) (e : Expression) :
    FailsWith (OfConversion c.maxDepth) (c.expression depth e) := by
  rw [expression.eq_def]
  refine (c.enter_fails depth .tooDeep).bind fun depth => ?_
  cases e with
  | literal span value => exact .ok _
  | template span parts => exact (joined_fails parts (rendered_fails c depth parts)).map _
  | wrap span inner => exact expression_fails c depth inner
  | tuple span items => exact (elements_fails c depth items).map _
  | object span items => exact (entries_fails c depth [] items).map _
  | reference span | conditional span condition yes no | forEach span key value collection body
  | dynamic span => exact (c.marker_fails span).map _
termination_by structural e

theorem elements_fails (c : Conversion) (depth : Nat) (es : List Expression) :
    FailsWith (OfConversion c.maxDepth) (c.elements depth es) := by
  cases es with
  | nil =>
    rw [elements]
    exact .ok _
  | cons e rest =>
    rw [elements]
    refine (expression_fails c depth e).bind fun value => ?_
    exact (elements_fails c depth rest).bind fun values => .ok _
termination_by structural es

theorem entries_fails (c : Conversion) (depth : Nat) (before : Entries Value) (items : List Item) :
    FailsWith (OfConversion c.maxDepth) (c.entries depth before items) := by
  cases items with
  | nil =>
    rw [entries]
    exact .ok _
  | cons item rest =>
    obtain ⟨key, value⟩ := item
    rw [entries]
    refine (keyed_fails key (partText_fails c depth key)).bind fun text => ?_
    refine (expression_fails c depth value).bind fun value => ?_
    exact entries_fails c depth _ rest
termination_by structural items

theorem rendered_fails (c : Conversion) (depth : Nat) (parts : List Part) :
    FailsWith (OfConversion c.maxDepth) (c.rendered depth parts) := by
  cases parts with
  | nil =>
    rw [rendered]
    exact .ok _
  | cons part rest =>
    cases part with
    | literal text =>
      rw [rendered]
      exact (rendered_fails c depth rest).map _
    | interpolation e | directive e =>
      rw [rendered]
      exact (partText_fails c depth e).bind fun text => (rendered_fails c depth rest).map _
termination_by structural parts

/-- An expression in string position fails for the reasons of a conversion. -/
theorem partText_fails (c : Conversion) (depth : Nat) (e : Expression) :
    FailsWith (OfConversion c.maxDepth) (c.partText depth e) := by
  rw [partText.eq_def]
  refine (c.enter_fails depth .tooDeep).bind fun depth => ?_
  cases e with
  | literal span value =>
    -- null is the only literal without a text
    dsimp only
    split
    · exact .ok _
    · exact .error (.noValue _ _)
  | template span parts => exact joined_fails parts (rendered_fails c depth parts)
  | wrap span inner => exact partText_fails c depth inner
  | conditional span condition yes no =>
    refine (c.quote_fails condition.span).bind fun condition => ?_
    refine (partText_fails c depth yes).bind fun yes => ?_
    exact (partText_fails c depth no).bind fun no => .ok _
  | forEach span key value collection body =>
    refine (c.quote_fails collection.span).bind fun collection => ?_
    exact (partText_fails c depth body).bind fun body => .ok _
  | tuple span items | object span items | reference span | dynamic span =>
    exact c.marker_fails span
termination_by structural e

end

/-! ### Scopes and records -/

section Scopes

variable {P : Error → Prop}

theorem attributes_failsWith {attributes : List Attribute} (before : Entries Value)
    (h : ∀ e ∈ attributes.map Attribute.expr, FailsWith P (c.expression depth e)) :
    FailsWith P (c.attributes depth before attributes) := by
  induction attributes generalizing before with
  | nil => exact .ok _
  | cons a rest ih =>
    rw [List.map_cons, List.forall_mem_cons] at h
    exact h.1.bind fun value => ih _ h.2

mutual

/-- Of their own, scopes fail at the ceiling and where a block is ambiguous. -/
theorem scope_failsWith (hdeep : P (.tooDeep c.maxDepth))
    (hambiguous : ∀ path message, P (.ambiguousBlock path message)) (depth : Nat)
    (body : Body)
    (h : ∀ e ∈ body.expressions, ∀ depth, FailsWith P (c.expression depth e)) :
    FailsWith P (c.scope depth body) := by
  obtain ⟨attributes, blocks⟩ := body
  rw [Body.expressions, List.forall_mem_append] at h
  rw [scope]
  refine (c.enter_fails depth hdeep).bind fun depth => ?_
  refine (attributes_failsWith [] fun e he => h.1 e he depth).bind fun before => ?_
  exact scopeBlocks_failsWith hdeep hambiguous depth before blocks h.2
termination_by structural body

theorem scopeBlocks_failsWith (hdeep : P (.tooDeep c.maxDepth))
    (hambiguous : ∀ path message, P (.ambiguousBlock path message)) (depth : Nat)
    (before : Entries Value) (blocks : List Block)
    (h : ∀ e ∈ Block.expressions blocks, ∀ depth, FailsWith P (c.expression depth e)) :
    FailsWith P (c.scopeBlocks depth before blocks) := by
  cases blocks with
  | nil =>
    rw [scopeBlocks]
    exact .ok _
  | cons b rest =>
    obtain ⟨kind, labels, span, body⟩ := b
    rw [Block.expressions, List.forall_mem_append] at h
    rw [scopeBlocks]
    refine (scope_failsWith hdeep hambiguous depth body h.1).bind fun value => ?_
    refine (aggregated_fails before kind labels value hambiguous).bind fun after => ?_
    exact scopeBlocks_failsWith hdeep hambiguous depth after rest h.2
termination_by structural blocks

end

/-- Recording resources converts the scopes of blocks. -/
theorem records_failsWith (hdeep : P (.tooDeep c.maxDepth))
    (hambiguous : ∀ path message, P (.ambiguousBlock path message)) (path : String)
    (blocks : List Block)
    (h : ∀ e ∈ Block.expressions blocks, ∀ depth, FailsWith P (c.expression depth e)) :
    FailsWith P (c.records path blocks) := by
  induction blocks with
  | nil => exact .ok _
  | cons b rest ih =>
    obtain ⟨kind, labels, span, body⟩ := b
    rw [Block.expressions, List.forall_mem_append] at h
    rw [records]
    split
    · exact ih h.2
    · refine FailsWith.bind ?_ fun config => (ih h.2).bind fun others => .ok _
      refine (c.enter_fails 0 hdeep).bind fun depth => FailsWith.map _ ?_
      exact scope_failsWith hdeep hambiguous depth body h.1

end Scopes

/-- A scope fails for the reasons of a conversion. -/
theorem scope_fails (c : Conversion) (depth : Nat) (body : Body) :
    FailsWith (OfConversion c.maxDepth) (c.scope depth body) :=
  scope_failsWith .tooDeep .ambiguousBlock depth body fun e _ depth => expression_fails c depth e

/-- Recording resources fails for the reasons of a conversion. -/
theorem records_fails (c : Conversion) (path : String) (blocks : List Block) :
    FailsWith (OfConversion c.maxDepth) (c.records path blocks) :=
  records_failsWith .tooDeep .ambiguousBlock path blocks fun e _ depth => expression_fails c depth e

end Conversion
end Groundplan
