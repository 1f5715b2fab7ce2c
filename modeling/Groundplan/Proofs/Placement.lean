import Groundplan.Hcl.Lowering
import Groundplan.Proofs.Outcome

/-!
# What lowering has to place

Lowering needs a span for every expression, object key and block that it comes to.
`BodyDef.places` lists the spans that these have, in the order in which they are looked at; the
operands of a conditional are not among them, since one that does not lower is kept as it is written,
and neither is anything inside a `dynamic` expression.  One induction over expressions and one over
bodies show that the places decide the outcome: a body lowers iff it has a span at all of them
(`BodyDef.exists_lower_iff`), and there is one error otherwise (`BodyDef.lower_eq_error_iff`).
-/

namespace Groundplan.Hcl

/-- The error for a place, if there is no span at it. -/
def unplaced? (file : String) : Option Span → Option Error
  | some _ => none
  | none => some (unplaced file)

/-! ### Places -/

mutual

/-- The spans that lowering an expression asks for: its own, and then those inside it. -/
def Expr.places (e : Expr) : List (Option Span) :=
  match e with
  | .mk recorded form => (Expr.mk recorded form).extent :: Form.places form
termination_by structural e

/-- The spans that are asked for inside a form; a conditional does without those of its operands. -/
def Form.places (form : Form) : List (Option Span) :=
  match form with
  | .array items => placesOfExprs items
  | .object items => placesOfItems items
  | .template elements => placesOfElements elements
  | .heredoc elements => placesOfElements elements
  | .conditional _ _ _ => []
  | .null | .bool _ | .number _ | .string _ | .variable _ | .traversal _ _ => []
  | .parens _ | .call _ _ _ | .unary _ _ | .binary _ _ _ => []
  | .listFor _ _ _ _ _ | .objectFor _ _ _ _ _ _ _ => []
termination_by structural form

/-- The spans that are asked for in expressions, one after the other. -/
def placesOfExprs (es : List Expr) : List (Option Span) :=
  match es with
  | [] => []
  | e :: rest => Expr.places e ++ placesOfExprs rest
termination_by structural es

/-- The spans that are asked for in the key of an object item. -/
def Key.places (key : Key) : List (Option Span) :=
  match key with
  | .identifier span _ => [span]
  | .expr e => Expr.places e
termination_by structural key

/-- The spans that are asked for in the items of an object, of each one the key's first. -/
def placesOfItems (items : List (Key × Expr)) : List (Option Span) :=
  match items with
  | [] => []
  | (key, value) :: rest => Key.places key ++ (Expr.places value ++ placesOfItems rest)
termination_by structural items

/-- The spans that are asked for in a piece of a template, of a directive those of its controlling
expression first. -/
def Element.places (element : Element) : List (Option Span) :=
  match element with
  | .literal _ => []
  | .interpolation _ e => Expr.places e
  | .ifThen _ condition yes _ => Expr.places condition ++ placesOfElements yes
  | .ifElse _ condition yes _ no _ =>
    Expr.places condition ++ (placesOfElements yes ++ placesOfElements no)
  | .repetition _ _ _ collection body _ => Expr.places collection ++ placesOfElements body
termination_by structural element

/-- The spans that are asked for in a template. -/
def placesOfElements (elements : List Element) : List (Option Span) :=
  match elements with
  | [] => []
  | element :: rest => Element.places element ++ placesOfElements rest
termination_by structural elements

end

mutual

/-- The spans that lowering a body asks for. -/
def BodyDef.places (body : BodyDef) : List (Option Span) :=
  match body with
  | .mk structures => placesOfStructures structures
termination_by structural body

/-- The spans that are asked for in the structures of a body.  A block is placed after its body, at
its own span or else at that of its type. -/
def placesOfStructures (structures : List Structure) : List (Option Span) :=
  match structures with
  | [] => []
  | .entry definition :: rest => definition.value.places ++ placesOfStructures rest
  | .block span identSpan _ _ body :: rest =>
    BodyDef.places body ++ (span.or identSpan :: placesOfStructures rest)
termination_by structural structures

end

/-! ### Places decide -/

theorem placed_decided (file : String) (span : Option Span) :
    DecidedBy (unplaced? file) [span] (placed file span) := by
  cases span with
  | some span => exact .single (fun _ => ⟨span, rfl⟩) fun _ h => nomatch h
  | none => exact .single (fun h => nomatch h) fun _ h => congrArg _ (Option.some.inj h)

mutual

/-- The places of an expression decide how it lowers. -/
theorem Expr.lower_decided (file : String) (e : Expr) :
    DecidedBy (unplaced? file) e.places (e.lower file) := by
  obtain ⟨recorded, form⟩ := e
  rw [Expr.lower, Expr.places]
  exact (placed_decided file _).bind fun span => Form.lower_decided file span form
termination_by structural e

theorem Form.lower_decided (file : String) (span : Span) (form : Form) :
    DecidedBy (unplaced? file) form.places (form.lower file span) := by
  cases form with
  | array items =>
    rw [Form.lower, Form.places]
    exact (lowerExprs_decided file items).map _
  | object items =>
    rw [Form.lower, Form.places]
    exact (lowerItems_decided file items).map _
  | template elements | heredoc elements =>
    rw [Form.lower, Form.places]
    exact (lowerElements_decided file false false elements).map _
  | null | bool | number | string | parens | «variable» | conditional | call | traversal | unary
  | binary | listFor | objectFor =>
    rw [Form.lower, Form.places]
    exact .ok _ _
termination_by structural form

theorem lowerExprs_decided (file : String) (es : List Expr) :
    DecidedBy (unplaced? file) (placesOfExprs es) (lowerExprs file es) := by
  cases es with
  | nil =>
    rw [lowerExprs, placesOfExprs]
    exact .ok _ _
  | cons e rest =>
    rw [lowerExprs, placesOfExprs]
    refine (Expr.lower_decided file e).bind fun first => ?_
    exact (lowerExprs_decided file rest).map _
termination_by structural es

theorem Key.lower_decided (file : String) (key : Key) :
    DecidedBy (unplaced? file) key.places (key.lower file) := by
  cases key with
  | identifier span name =>
    rw [Key.lower, Key.places]
    exact (placed_decided file span).map _
  | expr e =>
    rw [Key.lower, Key.places]
    exact Expr.lower_decided file e
termination_by structural key

theorem lowerItems_decided (file : String) (items : List (Key × Expr)) :
    DecidedBy (unplaced? file) (placesOfItems items) (lowerItems file items) := by
  cases items with
  | nil =>
    rw [lowerItems, placesOfItems]
    exact .ok _ _
  | cons item rest =>
    obtain ⟨key, value⟩ := item
    rw [lowerItems, placesOfItems]
    refine (Key.lower_decided file key).bind fun key => ?_
    refine (Expr.lower_decided file value).bind fun value => ?_
    exact (lowerItems_decided file rest).map _
termination_by structural items

theorem Element.lower_decided (file : String) (element : Element) :
    DecidedBy (unplaced? file) element.places (element.lower file) := by
  cases element with
  | literal text =>
    rw [Element.lower, Element.places]
    exact .ok _ _
  | interpolation strip e =>
    rw [Element.lower, Element.places]
    exact (Expr.lower_decided file e).map _
  | ifThen opening condition yes closing =>
    rw [Element.lower, Element.places]
    refine (Expr.lower_decided file condition).bind fun condition => ?_
    exact (lowerElements_decided file _ _ yes).map _
  | ifElse opening condition yes middle no closing =>
    rw [Element.lower, Element.places]
    refine (Expr.lower_decided file condition).bind fun condition => ?_
    refine (lowerElements_decided file _ _ yes).bind fun yes => ?_
    exact (lowerElements_decided file _ _ no).map _
  | repetition opening key value collection body closing =>
    rw [Element.lower, Element.places]
    refine (Expr.lower_decided file collection).bind fun collection => ?_
    exact (lowerElements_decided file _ _ body).map _
termination_by structural element

theorem lowerElements_decided (file : String) (first last : Bool) (elements : List Element) :
    DecidedBy (unplaced? file) (placesOfElements elements)
      (lowerElements file first last elements) := by
  cases elements with
  | nil =>
    rw [lowerElements, placesOfElements]
    exact .ok _ _
  | cons element rest =>
    -- text is stripped in place; every other piece is lowered on its own
    cases element with
    | literal text =>
      rw [lowerElements, placesOfElements, Element.places]
      exact (lowerElements_decided file _ _ rest).map _
    | interpolation | ifThen | ifElse | repetition =>
      rw [lowerElements, placesOfElements]
      · refine (Element.lower_decided file _).bind fun part => ?_
        exact (lowerElements_decided file _ _ rest).map _
      · exact fun text h => nomatch h
termination_by structural elements

end

mutual

/-- The places of a body decide how it lowers. -/
theorem BodyDef.lower_decided (file : String) (body : BodyDef) :
    DecidedBy (unplaced? file) body.places (body.lower file) := by
  obtain ⟨structures⟩ := body
  rw [BodyDef.lower, BodyDef.places]
  exact (lowerStructures_decided file structures).map _
termination_by structural body

theorem lowerStructures_decided (file : String) (structures : List Structure) :
    DecidedBy (unplaced? file) (placesOfStructures structures)
      (lowerStructures file structures) := by
  cases structures with
  | nil =>
    rw [lowerStructures, placesOfStructures]
    exact .ok _ _
  | cons first rest =>
    cases first with
    | entry definition =>
      rw [lowerStructures, placesOfStructures]
      refine (Expr.lower_decided file definition.value).bind fun expr => ?_
      exact (lowerStructures_decided file rest).map _
    | block span identSpan kind labels body =>
      rw [lowerStructures, placesOfStructures]
      refine (BodyDef.lower_decided file body).bind fun body => ?_
      exact (placed_decided file _).bind fun span => (lowerStructures_decided file rest).map _
termination_by structural structures

end

/-! ### Bodies -/

section Bodies

variable {file : String} {body : BodyDef} {e : Error}

theorem unplaced?_eq_none_iff {span : Option Span} : unplaced? file span = none ↔ span ≠ none := by
  cases span <;> simp [unplaced?]

theorem unplaced?_eq_some_iff {span : Option Span} :
    unplaced? file span = some e ↔ span = none ∧ e = unplaced file := by
  cases span with
  | none => simp [unplaced?, eq_comm]
  | some span => simp [unplaced?]

section Decided

variable {α : Type} {places : List (Option Span)} {outcome : Except Error α}

/-- What places decide fails with the error for a missing span only. -/
theorem fails_of_decided (h : DecidedBy (unplaced? file) places outcome) :
    FailsWith (fun e => e = unplaced file) outcome := by
  intro e he
  obtain ⟨_, span, _, -, -, hspan⟩ := h.eq_error_iff.mp he
  exact (unplaced?_eq_some_iff.mp hspan).2

/-- What places decide succeeds iff none of them is without a span. -/
theorem exists_ok_iff_of_decided (h : DecidedBy (unplaced? file) places outcome) :
    (∃ a, outcome = .ok a) ↔ none ∉ places := by
  rw [h.exists_ok_iff]
  simp only [unplaced?_eq_none_iff]
  constructor
  · exact fun h hnone => h none hnone rfl
  · rintro h _ hspan rfl
    exact h hspan

end Decided

/-- Every error of lowering is the one for a missing span. -/
theorem BodyDef.lower_fails (file : String) (body : BodyDef) :
    FailsWith (fun e => e = unplaced file) (body.lower file) :=
  fails_of_decided (lower_decided file body)

/-- A body lowers iff nothing in it that has to be placed is without a span. -/
theorem BodyDef.exists_lower_iff :
    (∃ lowered, body.lower file = .ok lowered) ↔ none ∉ body.places :=
  exists_ok_iff_of_decided (lower_decided file body)

/-- **Lowering by places**: it fails iff something that has to be placed has no span. -/
theorem BodyDef.lower_eq_error_iff :
    body.lower file = .error e ↔ e = unplaced file ∧ none ∈ body.places := by
  constructor
  · intro h
    refine ⟨lower_fails file body e h, Classical.byContradiction fun hplaces => ?_⟩
    obtain ⟨lowered, hlower⟩ := exists_lower_iff.mpr hplaces
    cases h.symm.trans hlower
  · rintro ⟨rfl, hplaces⟩
    cases hlower : body.lower file with
    | ok lowered => exact absurd hplaces (exists_lower_iff.mp ⟨lowered, hlower⟩)
    | error e => rw [lower_fails file body e hlower]

end Bodies
end Groundplan.Hcl
