import Groundplan.Proofs.Demands

/-!
# The spans that a tree stores

`Expression.spans` and `Body.spans` list all spans of a tree, whatever stands at them.  What a
conversion demands is at one of them (`Expression.mem_spans_of_demands`), so a tree whose spans are all
legible converts without an error of reading, whatever the ceiling is (`body_readable`,
`resources_readable`).
-/

namespace Groundplan

/-! ### Spans -/

mutual

/-- The spans of an expression and of everything inside it. -/
def Expression.spans (e : Expression) : List Span :=
  match e with
  | .literal span _ => [span]
  | .template span parts => span :: Part.spans parts
  | .wrap span inner => span :: Expression.spans inner
  | .tuple span items => span :: Expression.allSpans items
  | .object span items => span :: Item.spans items
  | .reference span => [span]
  | .conditional span condition yes no =>
    span :: (Expression.spans condition ++ (Expression.spans yes ++ Expression.spans no))
  | .forEach span _ _ collection body =>
    span :: (Expression.spans collection ++ Expression.spans body)
  | .dynamic span => [span]
termination_by structural e

/-- The spans of expressions, one after the other. -/
def Expression.allSpans (es : List Expression) : List Span :=
  match es with
  | [] => []
  | e :: rest => Expression.spans e ++ Expression.allSpans rest
termination_by structural es

/-- The spans of the items of an object, keys and values. -/
def Item.spans (items : List Item) : List Span :=
  match items with
  | [] => []
  | .mk key value :: rest => Expression.spans key ++ (Expression.spans value ++ Item.spans rest)
termination_by structural items

/-- The spans of the parts of a template. -/
def Part.spans (parts : List Part) : List Span :=
  match parts with
  | [] => []
  | .literal _ :: rest => Part.spans rest
  | .interpolation e :: rest => Expression.spans e ++ Part.spans rest
  | .directive e :: rest => Expression.spans e ++ Part.spans rest
termination_by structural parts

end

mutual

/-- The spans of a scope: those of its expressions, of its blocks, and of the scopes of these. -/
def Body.spans (body : Body) : List Span :=
  match body with
  | .mk attributes blocks =>
    (attributes.map Attribute.expr).flatMap Expression.spans ++ Block.spans blocks
termination_by structural body

/-- The spans of blocks and of their scopes. -/
def Block.spans (blocks : List Block) : List Span :=
  match blocks with
  | [] => []
  | .mk _ _ span body :: rest => span :: (Body.spans body ++ Block.spans rest)
termination_by structural blocks

end

theorem Expression.span_mem_spans (e : Expression) : e.span ∈ e.spans := by
  cases e <;> exact List.mem_cons_self

/-! ### What is demanded -/

/-- The span that a demand is about. -/
def Demand.span : Demand → Span
  | quotation span => span
  | textOfNull span => span

section Demanded

variable {d : Demand}

theorem mem_of_mem_keyDemands {key : Expression} {spans : List Span} {inText : List Demand}
    (hspan : key.span ∈ spans) (htext : d ∈ inText → d.span ∈ spans)
    (h : d ∈ key.keyDemands inText) : d.span ∈ spans := by
  cases key with
  | reference s =>
    obtain rfl := List.mem_singleton.mp h
    exact hspan
  | literal | template | wrap | tuple | object | conditional | forEach | dynamic => exact htext h

mutual

/-- **Only stored spans are demanded**, in value position as in string position. -/
theorem Expression.mem_spans_of_demands (e : Expression) (h : d ∈ e.demands) : d.span ∈ e.spans := by
  cases e with
  | literal s value => cases h
  | template s parts => exact List.mem_cons_of_mem _ (Part.mem_spans_of_demands parts h)
  | wrap s inner => exact List.mem_cons_of_mem _ (Expression.mem_spans_of_demands inner h)
  | tuple s items => exact List.mem_cons_of_mem _ (Expression.mem_allSpans_of_demands items h)
  | object s items => exact List.mem_cons_of_mem _ (Item.mem_spans_of_demands items h)
  | reference s | conditional s condition yes no | forEach s key value collection body | dynamic s =>
    obtain rfl := List.mem_singleton.mp h
    exact List.mem_cons_self
termination_by structural e

theorem Expression.mem_allSpans_of_demands (es : List Expression)
    (h : d ∈ Expression.allDemands es) : d.span ∈ Expression.allSpans es := by
  cases es with
  | nil => cases h
  | cons e rest =>
    rw [Expression.allDemands, List.mem_append] at h
    rw [Expression.allSpans, List.mem_append]
    exact h.imp (Expression.mem_spans_of_demands e) (Expression.mem_allSpans_of_demands rest)
termination_by structural es

theorem Item.mem_spans_of_demands (items : List Item) (h : d ∈ Item.demands items) :
    d.span ∈ Item.spans items := by
  cases items with
  | nil => cases h
  | cons item rest =>
    obtain ⟨key, value⟩ := item
    rw [Item.demands, List.mem_append, List.mem_append] at h
    rw [Item.spans, List.mem_append, List.mem_append]
    refine h.imp (mem_of_mem_keyDemands key.span_mem_spans ?_) (Or.imp ?_ ?_)
    · exact Expression.mem_spans_of_textDemands key
    · exact Expression.mem_spans_of_demands value
    · exact Item.mem_spans_of_demands rest
termination_by structural items

theorem Part.mem_spans_of_demands (parts : List Part) (h : d ∈ Part.demands parts) :
    d.span ∈ Part.spans parts := by
  cases parts with
  | nil => cases h
  | cons part rest =>
    cases part with
    | literal text => exact Part.mem_spans_of_demands rest h
    | interpolation e | directive e =>
      rw [Part.demands, List.mem_append] at h
      rw [Part.spans, List.mem_append]
      exact h.imp (Expression.mem_spans_of_textDemands e) (Part.mem_spans_of_demands rest)
termination_by structural parts

theorem Expression.mem_spans_of_textDemands (e : Expression) (h : d ∈ e.textDemands) :
    d.span ∈ e.spans := by
  cases e with
  | literal s value =>
    cases value with
    | null =>
      obtain rfl := List.mem_singleton.mp h
      exact List.mem_cons_self
    | bool | number | string => cases h
  | template s parts => exact List.mem_cons_of_mem _ (Part.mem_spans_of_demands parts h)
  | wrap s inner => exact List.mem_cons_of_mem _ (Expression.mem_spans_of_textDemands inner h)
  | conditional s condition yes no =>
    rw [Expression.textDemands, List.mem_cons, List.mem_append] at h
    rw [Expression.spans, List.mem_cons, List.mem_append, List.mem_append]
    refine .inr (h.imp ?_ (Or.imp ?_ ?_))
    · rintro rfl
      exact condition.span_mem_spans
    · exact Expression.mem_spans_of_textDemands yes
    · exact Expression.mem_spans_of_textDemands no
  | forEach s key value collection body =>
    rw [Expression.textDemands, List.mem_cons] at h
    rw [Expression.spans, List.mem_cons, List.mem_append]
    refine .inr (h.imp ?_ ?_)
    · rintro rfl
      exact collection.span_mem_spans
    · exact Expression.mem_spans_of_textDemands body
  | tuple s items | object s items | reference s | dynamic s =>
    obtain rfl := List.mem_singleton.mp h
    exact List.mem_cons_self
termination_by structural e

end

end Demanded

section Stored

variable {span : Span}

mutual

theorem Body.mem_spans_of_mem_expressions {e : Expression} (body : Body) (h : e ∈ body.expressions)
    (hspan : span ∈ e.spans) : span ∈ body.spans := by
  obtain ⟨attributes, blocks⟩ := body
  rw [Body.expressions, List.mem_append] at h
  rw [Body.spans, List.mem_append]
  exact h.imp (fun h => List.mem_flatMap.mpr ⟨e, h, hspan⟩)
    fun h => Block.mem_spans_of_mem_expressions blocks h hspan
termination_by structural body

theorem Block.mem_spans_of_mem_expressions {e : Expression} (blocks : List Block)
    (h : e ∈ Block.expressions blocks) (hspan : span ∈ e.spans) : span ∈ Block.spans blocks := by
  cases blocks with
  | nil => cases h
  | cons b rest =>
    obtain ⟨kind, labels, s, body⟩ := b
    rw [Block.expressions, List.mem_append] at h
    rw [Block.spans, List.mem_cons, List.mem_append]
    refine .inr (h.imp ?_ ?_)
    · exact fun h => Body.mem_spans_of_mem_expressions body h hspan
    · exact fun h => Block.mem_spans_of_mem_expressions rest h hspan
termination_by structural blocks

end

theorem Block.span_mem_spans {b : Block} {blocks : List Block} (h : b ∈ blocks) :
    b.span ∈ Block.spans blocks := by
  induction blocks with
  | nil => cases h
  | cons first rest ih =>
    obtain ⟨kind, labels, s, body⟩ := first
    rw [Block.spans]
    rcases List.mem_cons.mp h with rfl | h
    · exact List.mem_cons_self
    · exact List.mem_cons_of_mem _ (List.mem_append_right _ (ih h))

theorem Body.span_mem_spans {b : Block} (body : Body) (h : b ∈ body.blocks) :
    b.span ∈ body.spans := by
  obtain ⟨attributes, blocks⟩ := body
  rw [Body.spans, List.mem_append]
  exact .inr (Block.span_mem_spans h)

end Stored

/-! ### Trees of legible spans -/

namespace Conversion

variable {c : Conversion}

theorem expression_readable {e : Expression} (h : ∀ span ∈ e.spans, c.source.Legible span)
    (depth : Nat) : FailsWith (fun err => err.category ≠ .reading) (c.expression depth e) := by
  intro err herr
  rcases expression_refused herr with rfl | ⟨d, hd, hrefused⟩
  · exact Category.noConfusion
  · cases d with
    | quotation span =>
      have hmet : Demand.refusal? c (.quotation span) = none :=
        Demand.refusal?_eq_none_iff.mpr (h span (e.mem_spans_of_demands hd))
      cases hmet.symm.trans (Demand.refusal?_eq_some_iff.mpr hrefused)
    | textOfNull span =>
      cases hrefused
      exact Category.noConfusion

/-- **Legible trees are readable**: where every span of a tree has a text, no conversion of it fails
to read the source. -/
theorem body_readable {b : Body} (h : ∀ span ∈ b.spans, c.source.Legible span) :
    FailsWith (fun err => err.category ≠ .reading) (c.body b) := by
  refine scope_failsWith Category.noConfusion (fun _ _ => Category.noConfusion) 0 b fun e he => ?_
  exact expression_readable fun span hspan => h span (b.mem_spans_of_mem_expressions he hspan)

theorem resources_readable {b : Body} (path : String)
    (h : ∀ span ∈ b.spans, c.source.Legible span) :
    FailsWith (fun err => err.category ≠ .reading) (c.resources path b) := by
  obtain ⟨attributes, blocks⟩ := b
  refine records_failsWith Category.noConfusion (fun _ _ => Category.noConfusion) path blocks
    fun e he => expression_readable fun span hspan => h span ?_
  rw [Body.spans, List.mem_append]
  exact .inr (Block.mem_spans_of_mem_expressions blocks he hspan)

end Conversion
end Groundplan
