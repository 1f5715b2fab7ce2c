import Groundplan.Proofs.Quotation
import Groundplan.Proofs.Skeleton

/-!
# Static texts and marks

What is not evaluated leaves a mark in the canonical form: a marker, or a conditional or a
repetition with its end.  A string that stands for something unresolved holds a mark
(`holdsMark_of_unresolved`), and every string that holds a mark stands for something unresolved in
some source (`exists_unresolved`).  Literal text is taken as it is, with nothing in it escaped
again.  So a static text is told from what is unresolved if it holds no mark itself, and not
otherwise (`Conversion.static_apart_from_unresolved`).
-/

namespace Groundplan

/-! ### Marks -/

/-- The forms that stand in a text for what is not evaluated. -/
inductive Mark : String → Prop
  | marker (source : String) : Mark ("$\x7b" ++ source ++ "\x7d")
  | choice (condition branches : String) :
    Mark ("%\x7bif " ++ condition ++ "\x7d" ++ branches ++ "%\x7bendif\x7d")
  | loop (names collection body : String) :
    Mark ("%\x7bfor " ++ names ++ " in " ++ collection ++ "\x7d" ++ body ++ "%\x7bendfor\x7d")

/-- Some part of the text is a mark. -/
def HoldsMark (text : String) : Prop :=
  ∃ before mark after, Mark mark ∧ text = before ++ mark ++ after

variable {s text : String}

theorem Mark.holdsMark (h : Mark s) : HoldsMark s := ⟨"", s, "", h, by simp⟩

theorem HoldsMark.append_left (h : HoldsMark s) (before : String) : HoldsMark (before ++ s) := by
  obtain ⟨start, mark, after, hmark, rfl⟩ := h
  exact ⟨before ++ start, mark, after, hmark, by simp only [String.append_assoc]⟩

theorem HoldsMark.append_right (h : HoldsMark s) (after : String) : HoldsMark (s ++ after) := by
  obtain ⟨before, mark, stop, hmark, rfl⟩ := h
  exact ⟨before, mark, stop ++ after, hmark, by simp only [String.append_assoc]⟩

/-- Every mark ends with a closing brace. -/
theorem HoldsMark.brace_mem (h : HoldsMark text) : '\x7d' ∈ text.toList := by
  obtain ⟨before, mark, after, hmark, rfl⟩ := h
  cases hmark <;> simp

theorem mark_ifText (condition yes no : String) : Mark (Conversion.ifText condition yes no) := by
  have h := Mark.choice condition (yes ++ if no = "" then "" else "%\x7belse\x7d" ++ no)
  simpa only [Conversion.ifText, String.append_assoc] using h

theorem mark_forText (key : Option String) (value collection body : String) :
    Mark (Conversion.forText key value collection body) := .loop _ collection body

/-! ### Static and unresolved expressions -/

/-- The text of an expression that is a string, or a template without interpolations and
directives. -/
def Expression.staticText? : Expression → Option String
  | .literal _ (.string text) => some text
  | .template _ parts => Part.literalText? parts
  | _ => none

mutual

/-- Whether an expression leaves a mark in the text around it. -/
def Expression.leavesMark (e : Expression) : Bool :=
  match e with
  | .literal _ _ => false
  | .template _ parts => Part.leaveMark parts
  | .wrap _ inner => inner.leavesMark
  | .tuple _ _ => true
  | .object _ _ => true
  | .reference _ => true
  | .conditional _ _ _ _ => true
  | .forEach _ _ _ _ _ => true
  | .dynamic _ => true
termination_by structural e

/-- Whether one of the parts of a template leaves a mark. -/
def Part.leaveMark (parts : List Part) : Bool :=
  match parts with
  | [] => false
  | .literal _ :: rest => Part.leaveMark rest
  | .interpolation e :: rest => e.leavesMark || Part.leaveMark rest
  | .directive e :: rest => e.leavesMark || Part.leaveMark rest
termination_by structural parts

end

/-- Whether the value of an expression stands for something that is not evaluated. -/
def Expression.unresolved : Expression → Bool
  | .template _ parts => Part.leaveMark parts
  | .wrap _ inner => inner.unresolved
  | .reference _ => true
  | .conditional _ _ _ _ => true
  | .forEach _ _ _ _ _ => true
  | .dynamic _ => true
  | _ => false

namespace Conversion

variable {c : Conversion} {depth : Nat} {span : Span} {e : Expression} {v : Value}

theorem mark_of_marker (h : c.marker span = .ok s) : Mark s := by
  obtain ⟨source, -, rfl⟩ := marker_eq_ok.mp h
  exact .marker source

mutual

theorem holdsMark_partText (e : Expression) {depth : Nat} {s : String}
    (h : c.partText depth e = .ok s) (he : e.leavesMark = true) : HoldsMark s := by
  rw [Expression.leavesMark.eq_def] at he
  cases e with
  | literal span value => cases he
  | template span parts =>
    obtain ⟨inner, -, h⟩ := partText_template_eq_ok.mp h
    exact holdsMark_rendered parts h he
  | wrap span e =>
    rw [partText] at h
    obtain ⟨inner, -, h⟩ := bind_eq_ok.mp h
    exact holdsMark_partText e h he
  | conditional span condition yes no =>
    obtain ⟨inner, -, source, y, n, -, -, -, rfl⟩ := partText_conditional_eq_ok.mp h
    exact (mark_ifText source y n).holdsMark
  | forEach span key value collection body =>
    obtain ⟨inner, -, source, b, -, -, rfl⟩ := partText_forEach_eq_ok.mp h
    exact (mark_forText key value source b).holdsMark
  | tuple span | object span | reference span | dynamic span =>
    rw [partText] at h
    obtain ⟨inner, -, h⟩ := bind_eq_ok.mp h
    exact (mark_of_marker h).holdsMark
termination_by structural e

theorem holdsMark_rendered (parts : List Part) {depth : Nat} {s : String}
    (h : c.rendered depth parts = .ok s) (hparts : Part.leaveMark parts = true) : HoldsMark s := by
  cases parts with
  | nil => cases hparts
  | cons part rest =>
    cases part with
    | literal text =>
      rw [rendered] at h
      obtain ⟨t, ht, rfl⟩ := map_eq_ok.mp h
      exact (holdsMark_rendered rest ht hparts).append_left text
    | interpolation e | directive e =>
      rw [rendered] at h
      obtain ⟨first, others, hfirst, hothers, rfl⟩ := append_eq_ok.mp h
      rw [Part.leaveMark] at hparts
      rcases Bool.or_eq_true_iff.mp hparts with he | hrest
      · exact (holdsMark_partText e hfirst he).append_right others
      · exact (holdsMark_rendered rest hothers hrest).append_left first
termination_by structural parts

end

/-- The value of something unresolved is a string that holds a mark. -/
theorem holdsMark_of_unresolved (e : Expression) {depth : Nat} (h : c.expression depth e = .ok v)
    (he : e.unresolved = true) : ∃ s, v = .string s ∧ HoldsMark s := by
  cases e with
  | literal | tuple | object => cases he
  | template span parts =>
    obtain ⟨inner, -, s, hs, rfl⟩ := expression_template_eq_ok.mp h
    exact ⟨s, rfl, holdsMark_rendered parts hs he⟩
  | wrap span e =>
    rw [expression] at h
    obtain ⟨inner, -, h⟩ := bind_eq_ok.mp h
    exact holdsMark_of_unresolved e h he
  | reference span | dynamic span | conditional span | forEach span =>
    rw [expression] at h
    obtain ⟨inner, -, h⟩ := bind_eq_ok.mp h
    obtain ⟨s, hs, rfl⟩ := map_eq_ok.mp h
    exact ⟨s, rfl, (mark_of_marker hs).holdsMark⟩
termination_by structural e

/-- The value of a static expression is its text. -/
theorem eq_string_of_staticText (h : c.expression depth e = .ok v)
    (he : e.staticText? = some text) : v = .string text := by
  rw [expression.eq_def] at h
  obtain ⟨inner, -, h⟩ := bind_eq_ok.mp h
  cases e with
  | literal span value =>
    cases value with
    | string s =>
      obtain rfl := Option.some.inj he
      exact (Except.ok.inj h).symm
    | null | bool | number => cases he
  | template span parts =>
    have htext : Part.literalText? parts = some text := he
    dsimp only at h
    rw [joined, htext] at h
    exact (Except.ok.inj h).symm
  | wrap | tuple | object | reference | conditional | forEach | dynamic => cases he

/-! ### Every mark is that of an expression -/

/-- A conversion over a source that is what a marker quotes. -/
def quoting (text : String) : Conversion := ⟨.ofString text, 3⟩

/-- The span of the whole source. -/
def wholeSpan (text : String) : Span := ⟨0, (Source.ofString text).size⟩

theorem quote_quoting (text : String) : (quoting text).quote (wholeSpan text) = .ok text := by
  rw [quote, quoting, wholeSpan, Source.quote_ofString]

/-- A mark is what some expression becomes inside a template. -/
theorem exists_partText (h : Mark s) :
    ∃ source e, e.leavesMark = true ∧ (quoting source).partText 1 e = .ok s := by
  have outer (source : String) : (quoting source).enter 1 = .ok 2 := rfl
  have inner (source : String) : (quoting source).enter 2 = .ok 3 := rfl
  cases h with
  | marker source =>
    refine ⟨source, .reference (wholeSpan source), by rw [Expression.leavesMark], ?_⟩
    simp [partText, outer, Conversion.marker, quote_quoting]
  | choice condition branches =>
    refine ⟨condition, .conditional ⟨0, 0⟩ (.reference (wholeSpan condition))
      (.literal ⟨0, 0⟩ (.string branches)) (.literal ⟨0, 0⟩ (.string "")),
      by rw [Expression.leavesMark], ?_⟩
    simp [partText, outer, inner, Expression.span, quote_quoting, Literal.text?, ifText]
  | loop names collection body =>
    refine ⟨collection, .forEach ⟨0, 0⟩ none names (.reference (wholeSpan collection))
      (.literal ⟨0, 0⟩ (.string body)), by rw [Expression.leavesMark], ?_⟩
    simp [partText, outer, inner, Expression.span, quote_quoting, Literal.text?, forText]

/-- A text that holds a mark is the value of something unresolved. -/
theorem exists_unresolved (h : HoldsMark text) :
    ∃ c e, e.unresolved = true ∧ expression c 0 e = .ok (.string text) := by
  obtain ⟨before, mark, after, hmark, rfl⟩ := h
  obtain ⟨source, e, he, hpart⟩ := exists_partText hmark
  refine ⟨quoting source, .template ⟨0, 0⟩ [.literal before, .interpolation e, .literal after],
    ?_, ?_⟩
  · simp [Expression.unresolved, Part.leaveMark, he]
  · have hrendered : (quoting source).rendered 1
        [.literal before, .interpolation e, .literal after] = .ok (before ++ mark ++ after) := by
      simp [rendered, hpart, String.append_assoc]
    have enter : (quoting source).enter 0 = .ok 1 := rfl
    simp [expression, enter, joined_rendered, hrendered]

/-- **Static texts and unresolved expressions.**  The value of a static expression is its text, and
that of an unresolved one is a string that holds a mark: the two differ if the static text holds no
mark.  If it holds one, then its value is also that of something unresolved. -/
theorem static_apart_from_unresolved {c₁ c₂ : Conversion} {depth₁ depth₂ : Nat}
    {e₁ e₂ : Expression} {text : String} {v₁ v₂ : Value} (hstatic : e₁.staticText? = some text)
    (hunresolved : e₂.unresolved = true) (h₁ : c₁.expression depth₁ e₁ = .ok v₁)
    (h₂ : c₂.expression depth₂ e₂ = .ok v₂) :
    v₁ = .string text ∧ (∃ s, v₂ = .string s ∧ HoldsMark s) ∧
      (¬ HoldsMark text → v₁ ≠ v₂) ∧
      (HoldsMark text → ∃ c e, e.unresolved = true ∧ expression c 0 e = .ok v₁) := by
  obtain rfl := eq_string_of_staticText h₁ hstatic
  obtain ⟨s, rfl, hmark⟩ := holdsMark_of_unresolved e₂ h₂ hunresolved
  refine ⟨rfl, ⟨s, rfl, hmark⟩, fun hplain heq => ?_, exists_unresolved⟩
  obtain rfl := Value.string.inj heq
  exact hplain hmark

/-- A static text with an opening in it is told from a template with a conditional. -/
theorem static_apart_from_unresolved_opening :
    let c : Conversion := ⟨.ofString "ok", 3⟩
    let e₁ : Expression := .template ⟨0, 0⟩ [.literal "cost: $", .literal "\x7b5"]
    let e₂ : Expression := .template ⟨0, 0⟩ [.literal "cost: ", .directive
      (.conditional ⟨0, 2⟩ (.reference ⟨0, 2⟩) (.literal ⟨0, 0⟩ (.string "5"))
        (.literal ⟨0, 0⟩ (.bool false)))]
    e₁.staticText? = some "cost: $\x7b5" ∧ e₂.unresolved = true ∧
      ∃ v₁ v₂, c.expression 0 e₁ = .ok v₁ ∧ c.expression 0 e₂ = .ok v₂ ∧ v₁ ≠ v₂ := by
  intro c e₁ e₂
  have hplain : ¬ HoldsMark "cost: $\x7b5" := fun h => absurd h.brace_mem (by decide)
  have hstatic : e₁.staticText? = some "cost: $\x7b5" := rfl
  have hunresolved : e₂.unresolved = true := rfl
  have h₁ : c.expression 0 e₁ = .ok (.string "cost: $\x7b5") := rfl
  have h₂ : c.expression 0 e₂ =
      .ok (.string "cost: %\x7bif ok\x7d5%\x7belse\x7dfalse%\x7bendif\x7d") := rfl
  exact ⟨hstatic, hunresolved, _, _, h₁, h₂,
    (static_apart_from_unresolved hstatic hunresolved h₁ h₂).2.2.1 hplain⟩

/-- A text that is escaped in the source is not escaped in the value: in the document
`a = "$${x}"`, `b = x` both attributes become the same string, and only `b` is unresolved. -/
theorem escaped_text_as_unresolved :
    let c : Conversion := ⟨.ofString "a = \"$$\x7bx\x7d\"\nb = x\n", 64⟩
    let a : Expression := .literal ⟨4, 11⟩ (.string "$\x7bx\x7d")
    let b : Expression := .reference ⟨16, 17⟩
    a.staticText? = some "$\x7bx\x7d" ∧ b.unresolved = true ∧
      ∃ v, c.expression 1 a = .ok v ∧ c.expression 1 b = .ok v :=
  ⟨rfl, rfl, .string "$\x7bx\x7d", rfl, rfl⟩

end Conversion
end Groundplan
