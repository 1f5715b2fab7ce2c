import Groundplan.Hcl.Expr
import Groundplan.Proofs.Decoding

/-!
# Where expressions stand

The extent of an expression without a recorded span reaches from its first operand to its last
(`Expr.extent_eq_some_iff`).  A document is `WellPlaced` in its text when every span that is recorded
in it is a range of the text and the operands of every operation come in order; then every extent is a
range of the text, whether it is recorded or rebuilt (`Expr.extent_isRangeOf`).
-/

namespace Groundplan.Hcl

/-! ### Operands -/

/-- The extents of the operands of a form, in the order in which they are written.  The operands of a
traversal are its base and its accesses. -/
def Form.operands : Form → List (Option Span)
  | .traversal base accesses => base.extent :: accesses.map Access.span
  | .binary _ left right => [left.extent, right.extent]
  | .conditional condition yes no => [condition.extent, yes.extent, no.extent]
  | _ => []

/-- The spans that there are start in this order. -/
def InOrder (spans : List (Option Span)) : Prop :=
  (spans.filterMap id).Pairwise fun a b => a.start ≤ b.start

section Operands

variable {form : Form} {span first last : Span}

theorem Expr.join_eq_some_iff {a b : Option Span} :
    join a b = some span ↔
      ∃ first last, a = some first ∧ b = some last ∧ span = ⟨first.start, last.stop⟩ := by
  cases a with
  | none => simp [join]
  | some first =>
    cases b with
    | none => simp [join]
    | some last => simp [join, eq_comm]

/-- An extent that is not recorded joins the first operand and the last. -/
theorem Expr.extent_unrecorded (form : Form) :
    (Expr.mk none form).extent
      = join form.operands.head?.join form.operands.tail.getLast?.join := by
  cases form with
  | traversal base accesses =>
    rw [extent, Form.operands, List.head?_cons, List.tail_cons, List.getLast?_map]
    cases accesses.getLast? with
    | none => rfl
    | some last => rfl
  | binary operator left right =>
    rw [extent]
    rfl
  | conditional condition yes no =>
    rw [extent]
    rfl
  | null | bool | number | string | array | object | template | heredoc | parens | «variable» | call
  | unary | listFor | objectFor =>
    -- no other form has operands
    rw [extent]
    · rfl
    all_goals simp

/-- **Rebuilt extents** start where the first operand starts and end where the last one ends. -/
theorem Expr.extent_eq_some_iff :
    (Expr.mk none form).extent = some span ↔
      ∃ first last, form.operands.head? = some (some first) ∧
        form.operands.tail.getLast? = some (some last) ∧ span = ⟨first.start, last.stop⟩ := by
  rw [extent_unrecorded, join_eq_some_iff]
  simp only [Option.join_eq_some_iff]

/-- The first operand starts where the last one does, or before. -/
theorem InOrder.start_le {spans : List (Option Span)} (h : InOrder spans)
    (hfirst : spans.head? = some (some first)) (hlast : spans.tail.getLast? = some (some last)) :
    first.start ≤ last.start := by
  obtain ⟨rest, rfl⟩ := List.head?_eq_some_iff.mp hfirst
  have hpairs : (first :: rest.filterMap id).Pairwise fun a b => a.start ≤ b.start := h
  have hmem : last ∈ rest.filterMap id :=
    List.mem_filterMap.mpr ⟨some last, List.mem_of_getLast? hlast, rfl⟩
  exact List.rel_of_pairwise_cons hpairs hmem

end Operands

/-! ### Documents in their texts -/

mutual

/-- The spans that are recorded in the expression are ranges of the text, and operands come in
order. -/
def Expr.WellPlaced (text : String) (e : Expr) : Prop :=
  match e with
  | .mk recorded form =>
    (∀ span ∈ recorded, span.IsRangeOf text) ∧ InOrder form.operands ∧ Form.WellPlaced text form
termination_by structural e

/-- The expressions inside the form are well-placed. -/
def Form.WellPlaced (text : String) (form : Form) : Prop :=
  match form with
  | .null | .bool _ | .number _ | .string _ | .variable _ => True
  | .array items => WellPlacedExprs text items
  | .object items => WellPlacedItems text items
  | .template elements => WellPlacedElements text elements
  | .heredoc elements => WellPlacedElements text elements
  | .parens inner => Expr.WellPlaced text inner
  | .conditional condition yes no =>
    Expr.WellPlaced text condition ∧ Expr.WellPlaced text yes ∧ Expr.WellPlaced text no
  | .call _ arguments _ => WellPlacedExprs text arguments
  | .traversal base accesses => Expr.WellPlaced text base ∧ WellPlacedAccesses text accesses
  | .unary _ operand => Expr.WellPlaced text operand
  | .binary _ left right => Expr.WellPlaced text left ∧ Expr.WellPlaced text right
  | .listFor _ _ collection item filter =>
    Expr.WellPlaced text collection ∧ Expr.WellPlaced text item ∧ WellPlacedExprs text filter
  | .objectFor _ _ collection itemKey item _ filter =>
    Expr.WellPlaced text collection ∧ Expr.WellPlaced text itemKey ∧ Expr.WellPlaced text item ∧
      WellPlacedExprs text filter
termination_by structural form

/-- All of the expressions are well-placed. -/
def WellPlacedExprs (text : String) (es : List Expr) : Prop :=
  match es with
  | [] => True
  | e :: rest => Expr.WellPlaced text e ∧ WellPlacedExprs text rest
termination_by structural es

/-- The key of an object item is well-placed. -/
def Key.WellPlaced (text : String) (key : Key) : Prop :=
  match key with
  | .identifier recorded _ => ∀ span ∈ recorded, span.IsRangeOf text
  | .expr e => Expr.WellPlaced text e
termination_by structural key

/-- All keys and values are well-placed. -/
def WellPlacedItems (text : String) (items : List (Key × Expr)) : Prop :=
  match items with
  | [] => True
  | (key, value) :: rest =>
    Key.WellPlaced text key ∧ Expr.WellPlaced text value ∧ WellPlacedItems text rest
termination_by structural items

/-- What stands inside an access is well-placed. -/
def Access.WellPlaced (text : String) (access : Access) : Prop :=
  match access with
  | .member _ _ | .legacyIndex _ _ | .attributeSplat _ | .fullSplat _ => True
  | .index _ e => Expr.WellPlaced text e
termination_by structural access

/-- All of the accesses are well-placed. -/
def WellPlacedAccesses (text : String) (accesses : List Access) : Prop :=
  match accesses with
  | [] => True
  | access :: rest =>
    (∀ span ∈ access.span, span.IsRangeOf text) ∧ Access.WellPlaced text access ∧
      WellPlacedAccesses text rest
termination_by structural accesses

/-- The expressions of a piece of a template are well-placed. -/
def Element.WellPlaced (text : String) (element : Element) : Prop :=
  match element with
  | .literal _ => True
  | .interpolation _ e => Expr.WellPlaced text e
  | .ifThen _ condition yes _ => Expr.WellPlaced text condition ∧ WellPlacedElements text yes
  | .ifElse _ condition yes _ no _ =>
    Expr.WellPlaced text condition ∧ WellPlacedElements text yes ∧ WellPlacedElements text no
  | .repetition _ _ _ collection body _ =>
    Expr.WellPlaced text collection ∧ WellPlacedElements text body
termination_by structural element

/-- All pieces of a template are well-placed. -/
def WellPlacedElements (text : String) (elements : List Element) : Prop :=
  match elements with
  | [] => True
  | element :: rest => Element.WellPlaced text element ∧ WellPlacedElements text rest
termination_by structural elements

end

mutual

/-- **Documents in their texts**: all expressions and blocks of the body are well-placed. -/
def BodyDef.WellPlaced (text : String) (body : BodyDef) : Prop :=
  match body with
  | .mk structures => WellPlacedStructures text structures
termination_by structural body

/-- All structures are well-placed. -/
def WellPlacedStructures (text : String) (structures : List Structure) : Prop :=
  match structures with
  | [] => True
  | .entry definition :: rest => definition.value.WellPlaced text ∧ WellPlacedStructures text rest
  | .block recorded named _ _ body :: rest =>
    (∀ span ∈ recorded, span.IsRangeOf text) ∧ (∀ span ∈ named, span.IsRangeOf text) ∧
      BodyDef.WellPlaced text body ∧ WellPlacedStructures text rest
termination_by structural structures

end

/-! ### Extents in texts -/

section Extents

variable {text : String}

/-- From the start of a range to the end of another that does not start before it. -/
theorem isRangeOf_join {a b : Span} (ha : a.IsRangeOf text) (hb : b.IsRangeOf text)
    (h : a.start ≤ b.start) : Span.IsRangeOf ⟨a.start, b.stop⟩ text :=
  ⟨Nat.le_trans h hb.ordered, ha.start, hb.stop⟩

theorem isRangeOf_of_mem_accesses {accesses : List Access} (h : WellPlacedAccesses text accesses)
    {span : Span} (hspan : some span ∈ accesses.map Access.span) : span.IsRangeOf text := by
  induction accesses with
  | nil => cases hspan
  | cons access rest ih =>
    obtain ⟨hranges, -, hrest⟩ := h
    rcases List.mem_cons.mp hspan with hspan | hspan
    · exact hranges span hspan.symm
    · exact ih hrest hspan

mutual

/-- **Extents are ranges**: in a well-placed expression the extent is a range of the text, recorded
or not. -/
theorem Expr.extent_isRangeOf (e : Expr) (h : e.WellPlaced text) :
    ∀ span ∈ e.extent, span.IsRangeOf text := by
  obtain ⟨recorded, form⟩ := e
  obtain ⟨hrecorded, horder, hform⟩ := h
  intro span hspan
  cases recorded with
  | some s =>
    rw [Expr.extent] at hspan
    exact hrecorded span hspan
  | none =>
    obtain ⟨first, last, hfirst, hlast, rfl⟩ := Expr.extent_eq_some_iff.mp hspan
    have hoperands := Form.operands_isRangeOf form hform
    have hstarts : first.IsRangeOf text := hoperands first (List.mem_of_head? hfirst)
    have hends : last.IsRangeOf text :=
      hoperands last (List.mem_of_mem_tail (List.mem_of_getLast? hlast))
    exact isRangeOf_join hstarts hends (horder.start_le hfirst hlast)
termination_by structural e

theorem Form.operands_isRangeOf (form : Form) (h : form.WellPlaced text) :
    ∀ span, some span ∈ form.operands → span.IsRangeOf text := by
  intro span hspan
  cases form with
  | traversal base accesses =>
    rw [Form.operands, List.mem_cons] at hspan
    rcases hspan with hbase | haccess
    · exact Expr.extent_isRangeOf base h.1 span hbase.symm
    · exact isRangeOf_of_mem_accesses h.2 haccess
  | binary operator left right =>
    simp only [Form.operands, List.mem_cons, List.not_mem_nil, or_false] at hspan
    rcases hspan with hleft | hright
    · exact Expr.extent_isRangeOf left h.1 span hleft.symm
    · exact Expr.extent_isRangeOf right h.2 span hright.symm
  | conditional condition yes no =>
    simp only [Form.operands, List.mem_cons, List.not_mem_nil, or_false] at hspan
    rcases hspan with hcondition | hyes | hno
    · exact Expr.extent_isRangeOf condition h.1 span hcondition.symm
    · exact Expr.extent_isRangeOf yes h.2.1 span hyes.symm
    · exact Expr.extent_isRangeOf no h.2.2 span hno.symm
  | null | bool | number | string | array | object | template | heredoc | parens | «variable» | call
  | unary | listFor | objectFor => cases hspan
termination_by structural form

end

end Extents
end Groundplan.Hcl
