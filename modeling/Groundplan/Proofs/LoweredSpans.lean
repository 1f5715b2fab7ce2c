import Groundplan.Proofs.Extent
import Groundplan.Proofs.Placement
import Groundplan.Proofs.StoredSpans

/-!
# The spans of a lowered document

Lowering stores extents only: those of expressions and blocks, those of bare keys, and for a directive
the one of its controlling expression.  So in a document that is well-placed in its text every stored
span is a range of the text (`BodyDef.lower_ranges`, by one induction over expressions and one over
bodies), and what a conversion quotes from the text is there (`BodyDef.lower_quotable`).
-/

namespace Groundplan.Hcl

/-- All of the spans are ranges of the text. -/
abbrev AllRanges (text : String) (spans : List Span) : Prop := ∀ span ∈ spans, span.IsRangeOf text

section Ranges

variable {text file : String}

theorem placed_ranges {span : Option Span} (h : ∀ s ∈ span, s.IsRangeOf text) :
    SucceedsWith (fun s => s.IsRangeOf text) (placed file span) := by
  intro s hs
  cases span with
  | none => cases hs
  | some s' =>
    obtain rfl := Except.ok.inj hs
    exact h s' rfl

/-! ### Expressions -/

theorem spans_ofParts (span : Span) (parts : List Part) :
    (ofParts span parts).spans = span :: Part.spans parts := by
  unfold ofParts
  split
  · rw [Expression.spans, Part.spans, Part.spans, List.append_nil]
  · rw [Expression.spans]

theorem Part.spans_cons (part : Part) (rest : List Part) :
    Part.spans (part :: rest) = Part.spans [part] ++ Part.spans rest := by
  cases part with
  | literal => rfl
  | interpolation | directive => simp [Part.spans]

/-- A conditional stores the spans of its operands or its own only. -/
theorem conditionalExpression_ranges {span : Span} {condition yes no : Except Error Expression}
    (hspan : span.IsRangeOf text)
    (hcondition : SucceedsWith (fun e => AllRanges text e.spans) condition)
    (hyes : SucceedsWith (fun e => AllRanges text e.spans) yes)
    (hno : SucceedsWith (fun e => AllRanges text e.spans) no) :
    AllRanges text (conditionalExpression span condition yes no).spans := by
  unfold conditionalExpression
  split
  · rw [Expression.spans, AllRanges, List.forall_mem_cons, List.forall_mem_append,
      List.forall_mem_append]
    exact ⟨hspan, hcondition _ rfl, hyes _ rfl, hno _ rfl⟩
  · rw [Expression.spans, AllRanges, List.forall_mem_singleton]
    exact hspan

mutual

/-- A well-placed expression lowers to one whose spans are ranges of the text. -/
theorem Expr.lower_ranges (e : Expr) (h : e.WellPlaced text) :
    SucceedsWith (fun lowered => AllRanges text lowered.spans) (e.lower file) := by
  have hextent := e.extent_isRangeOf h
  obtain ⟨recorded, form⟩ := e
  rw [Expr.lower]
  exact (placed_ranges hextent).bind fun span hspan => Form.lower_ranges form span hspan h.2.2
termination_by structural e

theorem Form.lower_ranges (form : Form) (span : Span) (hspan : span.IsRangeOf text)
    (h : form.WellPlaced text) :
    SucceedsWith (fun lowered => AllRanges text lowered.spans) (form.lower file span) := by
  cases form with
  | array items =>
    rw [Form.lower]
    exact (lowerExprs_ranges items h).map fun _ hitems => List.forall_mem_cons.mpr ⟨hspan, hitems⟩
  | object items =>
    rw [Form.lower]
    exact (lowerItems_ranges items h).map fun _ hitems => List.forall_mem_cons.mpr ⟨hspan, hitems⟩
  | template elements | heredoc elements =>
    rw [Form.lower]
    refine (lowerElements_ranges false false elements h).map fun parts hparts => ?_
    rw [spans_ofParts]
    exact List.forall_mem_cons.mpr ⟨hspan, hparts⟩
  | conditional condition yes no =>
    rw [Form.lower]
    refine .ok (conditionalExpression_ranges hspan ?_ ?_ ?_)
    · exact Expr.lower_ranges condition h.1
    · exact Expr.lower_ranges yes h.2.1
    · exact Expr.lower_ranges no h.2.2
  | null | bool | number | string | parens | «variable» | call | traversal | unary | binary | listFor
  | objectFor =>
    rw [Form.lower]
    exact .ok (List.forall_mem_singleton.mpr hspan)
termination_by structural form

theorem lowerExprs_ranges (es : List Expr) (h : WellPlacedExprs text es) :
    SucceedsWith (fun lowered => AllRanges text (Expression.allSpans lowered))
      (lowerExprs file es) := by
  cases es with
  | nil =>
    rw [lowerExprs]
    exact .ok (List.forall_mem_nil _)
  | cons e rest =>
    rw [lowerExprs]
    refine (Expr.lower_ranges e h.1).bind fun first hfirst => ?_
    refine (lowerExprs_ranges rest h.2).map fun others hothers => ?_
    exact List.forall_mem_append.mpr ⟨hfirst, hothers⟩
termination_by structural es

theorem Key.lower_ranges (key : Key) (h : key.WellPlaced text) :
    SucceedsWith (fun lowered => AllRanges text lowered.spans) (key.lower file) := by
  cases key with
  | identifier span name =>
    rw [Key.lower]
    exact (placed_ranges h).map fun s hs => List.forall_mem_singleton.mpr hs
  | expr e =>
    rw [Key.lower]
    exact Expr.lower_ranges e h
termination_by structural key

theorem lowerItems_ranges (items : List (Key × Expr)) (h : WellPlacedItems text items) :
    SucceedsWith (fun lowered => AllRanges text (Item.spans lowered)) (lowerItems file items) := by
  cases items with
  | nil =>
    rw [lowerItems]
    exact .ok (List.forall_mem_nil _)
  | cons item rest =>
    obtain ⟨key, value⟩ := item
    rw [lowerItems]
    refine (Key.lower_ranges key h.1).bind fun key hkey => ?_
    refine (Expr.lower_ranges value h.2.1).bind fun value hvalue => ?_
    refine (lowerItems_ranges rest h.2.2).map fun others hothers => ?_
    exact List.forall_mem_append.mpr ⟨hkey, List.forall_mem_append.mpr ⟨hvalue, hothers⟩⟩
termination_by structural items

theorem Element.lower_ranges (element : Element) (h : element.WellPlaced text) :
    SucceedsWith (fun lowered => AllRanges text (Part.spans [lowered])) (element.lower file) := by
  cases element with
  | literal text =>
    rw [Element.lower]
    exact .ok (List.forall_mem_nil _)
  | interpolation strip e =>
    rw [Element.lower]
    refine (Expr.lower_ranges e h).map fun lowered hlowered => ?_
    simpa [Part.spans] using hlowered
  | ifThen opening condition yes closing =>
    rw [Element.lower]
    refine (Expr.lower_ranges condition h.1).bind fun condition hcondition => ?_
    refine (lowerElements_ranges _ _ yes h.2).map fun yes hyes => ?_
    -- the directive stands at the span of its condition
    have hspan := hcondition _ condition.span_mem_spans
    simp only [AllRanges, Part.spans, Expression.spans, List.append_nil, List.forall_mem_cons,
      List.forall_mem_append]
    exact ⟨hspan, hcondition, ⟨hspan, hyes⟩, hspan, List.forall_mem_nil _⟩
  | ifElse opening condition yes middle no closing =>
    rw [Element.lower]
    refine (Expr.lower_ranges condition h.1).bind fun condition hcondition => ?_
    refine (lowerElements_ranges _ _ yes h.2.1).bind fun yes hyes => ?_
    refine (lowerElements_ranges _ _ no h.2.2).map fun no hno => ?_
    have hspan := hcondition _ condition.span_mem_spans
    simp only [AllRanges, Part.spans, Expression.spans, List.append_nil, List.forall_mem_cons,
      List.forall_mem_append]
    exact ⟨hspan, hcondition, ⟨hspan, hyes⟩, hspan, hno⟩
  | repetition opening key value collection body closing =>
    rw [Element.lower]
    refine (Expr.lower_ranges collection h.1).bind fun collection hcollection => ?_
    refine (lowerElements_ranges _ _ body h.2).map fun body hbody => ?_
    have hspan := hcollection _ collection.span_mem_spans
    simp only [AllRanges, Part.spans, Expression.spans, List.append_nil, List.forall_mem_cons,
      List.forall_mem_append]
    exact ⟨hspan, hcollection, hspan, hbody⟩
termination_by structural element

theorem lowerElements_ranges (first last : Bool) (elements : List Element)
    (h : WellPlacedElements text elements) :
    SucceedsWith (fun lowered => AllRanges text (Part.spans lowered))
      (lowerElements file first last elements) := by
  cases elements with
  | nil =>
    rw [lowerElements]
    exact .ok (List.forall_mem_nil _)
  | cons element rest =>
    cases element with
    | literal text =>
      rw [lowerElements]
      exact (lowerElements_ranges _ _ rest h.2).map fun others hothers => hothers
    | interpolation | ifThen | ifElse | repetition =>
      rw [lowerElements]
      · refine (Element.lower_ranges _ h.1).bind fun part hpart => ?_
        refine (lowerElements_ranges _ _ rest h.2).map fun others hothers => ?_
        rw [Part.spans_cons]
        exact List.forall_mem_append.mpr ⟨hpart, hothers⟩
      · exact fun text h => nomatch h
termination_by structural elements

end

/-! ### Bodies -/

mutual

/-- A well-placed body lowers to one whose spans are ranges of the text. -/
theorem BodyDef.lower_ranges (body : BodyDef) (h : body.WellPlaced text) :
    SucceedsWith (fun lowered => AllRanges text lowered.spans) (body.lower file) := by
  obtain ⟨structures⟩ := body
  rw [BodyDef.lower]
  refine (lowerStructures_ranges structures h).map fun parts hparts => ?_
  exact List.forall_mem_append.mpr hparts
termination_by structural body

theorem lowerStructures_ranges (structures : List Structure)
    (h : WellPlacedStructures text structures) :
    SucceedsWith (fun parts => AllRanges text ((parts.1.map Attribute.expr).flatMap Expression.spans)
      ∧ AllRanges text (Block.spans parts.2)) (lowerStructures file structures) := by
  cases structures with
  | nil =>
    rw [lowerStructures]
    exact .ok ⟨List.forall_mem_nil _, List.forall_mem_nil _⟩
  | cons first rest =>
    cases first with
    | entry definition =>
      rw [lowerStructures]
      refine (Expr.lower_ranges definition.value h.1).bind fun expr hexpr => ?_
      refine (lowerStructures_ranges rest h.2).map fun others hothers => ?_
      exact ⟨List.forall_mem_append.mpr ⟨hexpr, hothers.1⟩, hothers.2⟩
    | block span identSpan kind labels body =>
      obtain ⟨hspan, hident, hbody, hrest⟩ := h
      rw [lowerStructures]
      refine (BodyDef.lower_ranges body hbody).bind fun body hbody => ?_
      have hplace : ∀ s ∈ span.or identSpan, s.IsRangeOf text := by
        cases span with
        | none => exact hident
        | some s => exact hspan
      refine (placed_ranges hplace).bind fun span hspan => ?_
      refine (lowerStructures_ranges rest hrest).map fun others hothers => ?_
      refine ⟨hothers.1, List.forall_mem_cons.mpr ⟨hspan, ?_⟩⟩
      exact List.forall_mem_append.mpr ⟨hbody, hothers.2⟩
termination_by structural structures

end

/-! ### Conditionals -/

/-- A conditional with an extent lowers whatever its operands do; where one of them does not lower, it
is kept as it is written. -/
theorem Expr.exists_lower_conditional (file : String) {recorded : Option Span}
    {condition yes no : Expr} {span : Span}
    (h : (Expr.mk recorded (.conditional condition yes no)).extent = some span) :
    ∃ lowered, (Expr.mk recorded (.conditional condition yes no)).lower file = .ok lowered ∧
      ((∃ operand ∈ [condition, yes, no], ∃ e, operand.lower file = .error e) →
        lowered = .dynamic span) := by
  refine ⟨_, by rw [lower, h, placed, ok_bind, Form.lower], ?_⟩
  rintro ⟨operand, hoperand, e, he⟩
  unfold conditionalExpression
  split
  · rename_i hcondition hyes hno
    -- all three lower, so none of them is the operand that does not
    simp only [List.mem_cons, List.not_mem_nil, or_false] at hoperand
    rcases hoperand with rfl | rfl | rfl
    · cases he.symm.trans hcondition
    · cases he.symm.trans hyes
    · cases he.symm.trans hno
  · rfl

end Ranges

/-- **Lowered spans are quotable.**  A document that is well-placed in its text lowers to a tree whose
spans are ranges of the text, so that no conversion of it fails to read the source.  It does not lower
only if an expression, a key or a block that has to be placed has no span: none is recorded, and none
reaches from the first of its operands to the last.  In an operand of a conditional this does no
harm. -/
theorem BodyDef.lower_quotable (text file : String) (body : BodyDef) (h : body.WellPlaced text) :
    (∀ lowered, body.lower file = .ok lowered →
      (∀ span ∈ lowered.spans, span.IsRangeOf text) ∧
        ∀ limit path,
          FailsWith (fun e => e.category ≠ .reading)
            (Conversion.body ⟨.ofString text, limit⟩ lowered) ∧
          FailsWith (fun e => e.category ≠ .reading)
            (Conversion.resources ⟨.ofString text, limit⟩ path lowered)) ∧
      (∀ e, body.lower file = .error e ↔ e = unplaced file ∧ none ∈ body.places) ∧
      (∀ form span, (Expr.mk none form).extent = some span ↔
        ∃ first last, form.operands.head? = some (some first) ∧
          form.operands.tail.getLast? = some (some last) ∧ span = ⟨first.start, last.stop⟩) ∧
      ∀ recorded condition yes no span,
        (Expr.mk recorded (.conditional condition yes no)).extent = some span →
          ∃ lowered, (Expr.mk recorded (.conditional condition yes no)).lower file = .ok lowered ∧
            ((∃ operand ∈ [condition, yes, no], ∃ e, operand.lower file = .error e) →
              lowered = .dynamic span) := by
  refine ⟨fun lowered hlowered => ?_, fun e => lower_eq_error_iff,
    fun form span => Expr.extent_eq_some_iff,
    fun recorded condition yes no span => Expr.exists_lower_conditional file⟩
  have hranges : AllRanges text lowered.spans := lower_ranges body h lowered hlowered
  refine ⟨hranges, fun limit path => ?_⟩
  have hlegible : ∀ span ∈ lowered.spans, (Source.ofString text).Legible span :=
    fun span hspan => (hranges span hspan).legible
  exact ⟨Conversion.body_readable hlegible, Conversion.resources_readable path hlegible⟩

/-- Three attributes and a block around a text that starts with a character of two bytes: an operation
on an access without spans of their own, a conditional on it of which an operand cannot be placed, and
a directive on the access under a bare key. -/
theorem BodyDef.lower_quotable_rebuilt :
    let text := "éa.b+c"
    let access : Expr := .mk none (.traversal (.mk (some ⟨0, 3⟩) (.variable "éa"))
      [.member (some ⟨3, 5⟩) "b"])
    let c : Expr := .mk (some ⟨6, 7⟩) (.variable "c")
    let sum : Expr := .mk none (.binary .plus access c)
    let choice : Expr := .mk none (.conditional sum (.mk (some ⟨2, 3⟩) (.array [.mk none .null])) c)
    let keyed : Expr := .mk (some ⟨0, 7⟩) (.object [(.identifier (some ⟨2, 3⟩) "a",
      .mk (some ⟨3, 7⟩) (.template [.ifThen ⟨true, true⟩ access [.literal "x"] ⟨true, true⟩]))])
    let body : BodyDef := .mk [.entry ⟨"sum", sum⟩, .entry ⟨"choice", choice⟩,
      .entry ⟨"keyed", keyed⟩, .block none (some ⟨6, 7⟩) "c" [] (.mk [])]
    body.WellPlaced text ∧ none ∉ body.places ∧
      ∃ lowered, body.lower "main.tf" = .ok lowered ∧
        lowered.spans = [⟨0, 7⟩, ⟨0, 7⟩, ⟨0, 7⟩, ⟨2, 3⟩, ⟨3, 7⟩, ⟨0, 5⟩, ⟨0, 5⟩, ⟨0, 5⟩, ⟨0, 5⟩,
          ⟨6, 7⟩] ∧
        ∀ span ∈ lowered.spans, span.IsRangeOf text := by
  intro text access c sum choice keyed body
  have h07 : Span.IsRangeOf ⟨0, 7⟩ text := ⟨by decide, by decide, by decide⟩
  have h03 : Span.IsRangeOf ⟨0, 3⟩ text := ⟨by decide, by decide, by decide⟩
  have h23 : Span.IsRangeOf ⟨2, 3⟩ text := ⟨by decide, by decide, by decide⟩
  have h35 : Span.IsRangeOf ⟨3, 5⟩ text := ⟨by decide, by decide, by decide⟩
  have h37 : Span.IsRangeOf ⟨3, 7⟩ text := ⟨by decide, by decide, by decide⟩
  have h67 : Span.IsRangeOf ⟨6, 7⟩ text := ⟨by decide, by decide, by decide⟩
  have h : body.WellPlaced text := by
    simp [body, keyed, choice, sum, c, access, BodyDef.WellPlaced, WellPlacedStructures,
      Expr.WellPlaced, Form.WellPlaced, WellPlacedExprs, WellPlacedItems, Key.WellPlaced,
      WellPlacedElements, Element.WellPlaced, WellPlacedAccesses, Access.WellPlaced, Access.span,
      InOrder, Form.operands, Expr.extent, Expr.join, h07, h03, h23, h35, h37, h67]
  obtain ⟨hlowers, -, -, -⟩ := lower_quotable text "main.tf" body h
  refine ⟨h, by decide, _, rfl, by rfl, ?_⟩
  exact (hlowers _ rfl).1

end Groundplan.Hcl
