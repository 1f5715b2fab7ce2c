import Groundplan.Json.Writer
import Groundplan.Proofs.FreeConversion
import Mathlib.Logic.Relation

/-!
# Layers of quoting

A nested template says what its parts say in its place, a wrap says what its inner expression says,
and text may be cut anywhere.  `Expression.Requoted` makes one such change at any place inside an
expression.  It keeps the skeleton (`skeleton_eq`) and, in value position, the value
(`freeValue_eq`), and so does any number of changes back and forth.  Wraps around an expression do
not change its value (`freeValue_wrapped`), and what holds between its value and its text holds below
them as well (`wrapped_induction`).  `quoting_transparent` puts these together.
-/

namespace Groundplan

/-! ### Changes of quoting -/

/-- Two expressions that differ at one place by a layer of quoting. -/
inductive Expression.Requoted : Expression → Expression → Prop where
  /-- The parts of a nested template stand in place of the interpolation that holds it. -/
  | splice (span inner : Span) (before parts after : List Part) :
    Requoted (.template span (before ++ .interpolation (.template inner parts) :: after))
      (.template span (before ++ (parts ++ after)))
  /-- The inner expression is interpolated in place of the wrap. -/
  | unwrap (span inner : Span) (e : Expression) (before after : List Part) :
    Requoted (.template span (before ++ .interpolation (.wrap inner e) :: after))
      (.template span (before ++ .interpolation e :: after))
  /-- A literal part is cut in two. -/
  | split (span : Span) (text more : String) (before after : List Part) :
    Requoted (.template span (before ++ .literal (text ++ more) :: after))
      (.template span (before ++ .literal text :: .literal more :: after))
  /-- An empty literal part is put in. -/
  | empty (span : Span) (before after : List Part) :
    Requoted (.template span (before ++ after)) (.template span (before ++ .literal "" :: after))
  | interpolation (span : Span) (before after : List Part) {e e' : Expression}
    (h : Requoted e e') : Requoted (.template span (before ++ .interpolation e :: after))
      (.template span (before ++ .interpolation e' :: after))
  | directive (span : Span) (before after : List Part) {e e' : Expression}
    (h : Requoted e e') : Requoted (.template span (before ++ .directive e :: after))
      (.template span (before ++ .directive e' :: after))
  | wrap (span : Span) {e e' : Expression} (h : Requoted e e') :
    Requoted (.wrap span e) (.wrap span e')
  | element (span : Span) (before after : List Expression) {e e' : Expression}
    (h : Requoted e e') : Requoted (.tuple span (before ++ e :: after))
      (.tuple span (before ++ e' :: after))
  | key (span : Span) (before after : List Item) (value : Expression) {e e' : Expression}
    (h : Requoted e e') : Requoted (.object span (before ++ .mk e value :: after))
      (.object span (before ++ .mk e' value :: after))
  | value (span : Span) (before after : List Item) (key : Expression) {e e' : Expression}
    (h : Requoted e e') : Requoted (.object span (before ++ .mk key e :: after))
      (.object span (before ++ .mk key e' :: after))
  | condition (span : Span) (yes no : Expression) {e e' : Expression} (h : Requoted e e') :
    Requoted (.conditional span e yes no) (.conditional span e' yes no)
  | yes (span : Span) (condition no : Expression) {e e' : Expression} (h : Requoted e e') :
    Requoted (.conditional span condition e no) (.conditional span condition e' no)
  | no (span : Span) (condition yes : Expression) {e e' : Expression} (h : Requoted e e') :
    Requoted (.conditional span condition yes e) (.conditional span condition yes e')
  | collection (span : Span) (key : Option String) (value : String) (body : Expression)
    {e e' : Expression} (h : Requoted e e') :
    Requoted (.forEach span key value e body) (.forEach span key value e' body)
  | body (span : Span) (key : Option String) (value : String) (collection : Expression)
    {e e' : Expression} (h : Requoted e e') :
    Requoted (.forEach span key value collection e) (.forEach span key value collection e')

/-- An expression inside wraps at some spans. -/
def Expression.wrapped (spans : List Span) (e : Expression) : Expression := spans.foldr .wrap e

/-- Expressions that have one text in both positions. -/
inductive Expression.Textual : Expression → Prop where
  | string (span : Span) (text : String) : Textual (.literal span (.string text))
  | template (span : Span) (parts : List Part) : Textual (.template span parts)
  | reference (span : Span) : Textual (.reference span)
  | dynamic (span : Span) : Textual (.dynamic span)

/-- Literals whose text is the JSON text of their value. -/
inductive Expression.Scalar : Expression → Prop where
  | bool (span : Span) (value : Bool) : Scalar (.literal span (.bool value))
  | number (span : Span) (value : Number) : Scalar (.literal span (.number value))

/-- A change of quoting inside an expression does not move it. -/
theorem Expression.Requoted.span_eq {e e' : Expression} (h : Requoted e e') : e.span = e'.span := by
  cases h <;> rfl

open Expression (Requoted wrapped)

namespace Conversion

variable {c : Conversion} {e e' : Expression}

/-! ### Skeletons -/

/-- The skeleton of a template is put together from those of its pieces. -/
theorem templateSkeleton_append (c : Conversion) (parts more : List Part) :
    c.templateSkeleton (parts ++ more)
      = (do let k ← c.templateSkeleton parts; k.append <$> c.templateSkeleton more) := by
  induction parts with
  | nil =>
    rw [List.nil_append, templateSkeleton, ok_bind]
    cases c.templateSkeleton more <;> rfl
  | cons part rest ih =>
    cases part with
    | literal text =>
      rw [List.cons_append, templateSkeleton, templateSkeleton, ih]
      cases c.templateSkeleton rest with
      | error e => rfl
      | ok k =>
        cases c.templateSkeleton more with
        | error e => rfl
        | ok l => exact congrArg Except.ok (Skeleton.append_prepend text k l).symm
    | interpolation e | directive e =>
      rw [List.cons_append, templateSkeleton, templateSkeleton, ih]
      cases c.skeleton e with
      | error e => rfl
      | ok first =>
        cases c.templateSkeleton rest with
        | error e => rfl
        | ok k =>
          cases c.templateSkeleton more with
          | error e => rfl
          | ok l => exact congrArg Except.ok (Skeleton.append_assoc first k l).symm

theorem templateSkeleton_congr (before : List Part) {parts parts' : List Part}
    (h : c.templateSkeleton parts = c.templateSkeleton parts') :
    c.templateSkeleton (before ++ parts) = c.templateSkeleton (before ++ parts') := by
  rw [templateSkeleton_append, templateSkeleton_append, h]

theorem skeleton_eq (c : Conversion) (h : Requoted e e') : c.skeleton e = c.skeleton e' := by
  induction h with
  | splice span inner before parts after =>
    rw [skeleton, skeleton]
    refine templateSkeleton_congr before ?_
    rw [templateSkeleton, skeleton, templateSkeleton_append]
  | unwrap span inner e before after =>
    rw [skeleton, skeleton]
    refine templateSkeleton_congr before ?_
    rw [templateSkeleton, templateSkeleton, skeleton]
  | split span text more before after =>
    rw [skeleton, skeleton]
    refine templateSkeleton_congr before ?_
    rw [templateSkeleton, templateSkeleton, templateSkeleton]
    cases c.templateSkeleton after with
    | error e => rfl
    | ok k => exact congrArg Except.ok (Skeleton.prepend_prepend text more k).symm
  | empty span before after =>
    rw [skeleton, skeleton]
    refine templateSkeleton_congr before ?_
    rw [templateSkeleton]
    cases c.templateSkeleton after with
    | error e => rfl
    | ok k => exact congrArg Except.ok (Skeleton.prepend_empty k).symm
  | interpolation span before after h ih | directive span before after h ih =>
    rw [skeleton, skeleton]
    refine templateSkeleton_congr before ?_
    rw [templateSkeleton, templateSkeleton, ih]
  | wrap span h ih => rw [skeleton, skeleton, ih]
  -- a tuple and an object are quoted as a whole, and so are what conditions and collections say
  | element | key | value => rw [skeleton, skeleton]
  | condition span yes no h => rw [skeleton, skeleton, h.span_eq]
  | collection span key value body h => rw [skeleton, skeleton, h.span_eq]
  | yes span condition no h ih | no span condition yes h ih => rw [skeleton, skeleton, ih]
  | body span key value collection h ih => rw [skeleton, skeleton, ih]

/-! ### Values -/

theorem freeValue_template_eq {span span' : Span} {parts parts' : List Part}
    (h : c.skeleton (.template span parts) = c.skeleton (.template span' parts')) :
    c.freeValue (.template span parts) = c.freeValue (.template span' parts') := by
  rw [skeleton, skeleton] at h
  rw [freeValue, freeValue, h]

theorem freeElements_congr (before after : List Expression) (h : c.freeValue e = c.freeValue e') :
    c.freeElements (before ++ e :: after) = c.freeElements (before ++ e' :: after) := by
  induction before with
  | nil => rw [List.nil_append, List.nil_append, freeElements, freeElements, h]
  | cons first rest ih =>
    rw [List.cons_append, List.cons_append, freeElements, freeElements, ih]

theorem freeEntries_congr (entries : Entries Value) (before after : List Item) {item item' : Item}
    (h : ∀ entries, c.freeEntries entries (item :: after) = c.freeEntries entries (item' :: after)) :
    c.freeEntries entries (before ++ item :: after)
      = c.freeEntries entries (before ++ item' :: after) := by
  induction before generalizing entries with
  | nil => exact h entries
  | cons first rest ih =>
    obtain ⟨key, value⟩ := first
    rw [List.cons_append, List.cons_append, freeEntries, freeEntries]
    simp only [ih]

theorem keyed_requoted (h : Requoted e e') (text : Except Error String) :
    c.keyed e text = c.keyed e' text := by
  cases h <;> rfl

/-- A change of quoting keeps the value. -/
theorem freeValue_eq (c : Conversion) (h : Requoted e e') : c.freeValue e = c.freeValue e' := by
  induction h with
  | splice span inner before parts after =>
    exact freeValue_template_eq (skeleton_eq c (.splice span inner before parts after))
  | unwrap span inner e before after =>
    exact freeValue_template_eq (skeleton_eq c (.unwrap span inner e before after))
  | split span text more before after =>
    exact freeValue_template_eq (skeleton_eq c (.split span text more before after))
  | empty span before after =>
    exact freeValue_template_eq (skeleton_eq c (.empty span before after))
  | interpolation span before after h =>
    exact freeValue_template_eq (skeleton_eq c (.interpolation span before after h))
  | directive span before after h =>
    exact freeValue_template_eq (skeleton_eq c (.directive span before after h))
  | wrap span h ih => rw [freeValue, freeValue, ih]
  | element span before after h ih =>
    rw [freeValue, freeValue, freeElements_congr before after ih]
  | key span before after value h =>
    -- a key is in string position, so that its skeleton counts and not its value
    rw [freeValue, freeValue]
    refine congrArg _ (freeEntries_congr [] before after fun entries => ?_)
    rw [freeEntries, freeEntries, keyed_requoted h, skeleton_eq c h]
  | value span before after key h ih =>
    rw [freeValue, freeValue]
    refine congrArg _ (freeEntries_congr [] before after fun entries => ?_)
    rw [freeEntries, freeEntries, ih]
  | condition | yes | no | collection | body => rw [freeValue, freeValue]

/-- Any number of changes, back and forth, keeps the skeleton and the value. -/
theorem eq_of_eqvGen (c : Conversion) (h : Relation.EqvGen Requoted e e') :
    c.skeleton e = c.skeleton e' ∧ c.freeValue e = c.freeValue e' := by
  induction h with
  | rel e e' h => exact ⟨skeleton_eq c h, freeValue_eq c h⟩
  | refl e => exact ⟨rfl, rfl⟩
  | symm e e' _ ih => exact ⟨ih.1.symm, ih.2.symm⟩
  | trans e middle e' _ _ first second =>
    exact ⟨first.1.trans second.1, first.2.trans second.2⟩

/-! ### Wraps -/

theorem height_wrapped (spans : List Span) (e : Expression) :
    (wrapped spans e).height = spans.length + e.height := by
  induction spans with
  | nil => rw [List.length_nil, Nat.zero_add]; rfl
  | cons span rest ih =>
    rw [wrapped, List.foldr_cons, ← wrapped, Expression.height, ih, List.length_cons]
    omega

theorem freeValue_wrapped (c : Conversion) (spans : List Span) (e : Expression) :
    c.freeValue (wrapped spans e) = c.freeValue e := by
  induction spans with
  | nil => rfl
  | cons span rest ih => rw [wrapped, List.foldr_cons, ← wrapped, freeValue, ih]

/-- Wraps are entered alike in both positions: what holds between value and text of an expression
holds between those of the wrapped one. -/
theorem wrapped_induction {P : Except Error Value → Except Error String → Prop}
    (herror : ∀ e, P (.error e) (.error e))
    (h : ∀ depth, P (c.expression depth e) (c.partText depth e)) (spans : List Span) (depth : Nat) :
    P (c.expression depth (wrapped spans e)) (c.partText depth (wrapped spans e)) := by
  induction spans generalizing depth with
  | nil => exact h depth
  | cons span rest ih =>
    rw [wrapped, List.foldr_cons, ← wrapped, expression, partText]
    cases c.enter depth with
    | error e => exact herror e
    | ok inner => exact ih inner

/-- What has one text in both positions has it under every ceiling. -/
theorem expression_eq_partText (depth : Nat) (h : e.Textual) :
    c.expression depth e = .string <$> c.partText depth e := by
  cases h with
  | string | template | reference | dynamic =>
    rw [expression, partText]
    cases c.enter depth <;> rfl

/-- The text of a boolean or a number is the JSON text of its value. -/
theorem partText_eq_json (depth : Nat) (h : e.Scalar) :
    c.partText depth e = Json.text .compact <$> c.expression depth e := by
  cases h with
  | bool span value =>
    rw [expression, partText]
    cases c.enter depth with
    | error e => rfl
    | ok inner => cases value <;> rfl
  | number span value =>
    rw [expression, partText]
    cases c.enter depth <;> rfl

/-- **Quoting is transparent.**  Layers of quoting, put in or taken out anywhere and any number of
times, change neither the value of an expression nor its text, nor how it fails, under every ceiling
with room for both trees; a template that is only text renders to it; wraps do not change a value;
what has a text in both positions has the same one below any wraps, and the text of a boolean or a
number there is its JSON text. -/
theorem quoting_transparent (c : Conversion) (depth : Nat) :
    (∀ e e' : Expression, Relation.EqvGen Requoted e e' →
      (depth + e.height ≤ c.maxDepth → depth + e'.height ≤ c.maxDepth →
        c.expression depth e = c.expression depth e') ∧
      (depth + e.textHeight ≤ c.maxDepth → depth + e'.textHeight ≤ c.maxDepth →
        c.partText depth e = c.partText depth e')) ∧
    (∀ (parts : List Part) (text : String), Part.literalText? parts = some text →
      c.rendered depth parts = .ok text) ∧
    (∀ (spans : List Span) (e : Expression), depth + (wrapped spans e).height ≤ c.maxDepth →
      c.expression depth (wrapped spans e) = c.expression depth e) ∧
    (∀ (spans : List Span) (e : Expression), e.Textual →
      c.expression depth (wrapped spans e) = .string <$> c.partText depth (wrapped spans e)) ∧
    ∀ (spans : List Span) (e : Expression), e.Scalar →
      c.partText depth (wrapped spans e)
        = Json.text .compact <$> c.expression depth (wrapped spans e) := by
  refine ⟨fun e e' h => ⟨fun hroom hroom' => ?_, fun hroom hroom' => ?_⟩,
    fun parts text htext => ?_, fun spans e hroom => ?_, fun spans e he => ?_, fun spans e he => ?_⟩
  · rw [expression_eq_freeValue c depth e hroom, expression_eq_freeValue c depth e' hroom',
      (eq_of_eqvGen c h).2]
  · rw [partText_eq_skeleton c depth e hroom, partText_eq_skeleton c depth e' hroom',
      (eq_of_eqvGen c h).1]
  · rw [← joined_rendered, joined, htext]
  · have hroom' : depth + e.height ≤ c.maxDepth := by
      rw [height_wrapped] at hroom
      omega
    rw [expression_eq_freeValue c depth _ hroom, freeValue_wrapped,
      expression_eq_freeValue c depth e hroom']
  · exact wrapped_induction (P := fun value text => value = .string <$> text) (fun _ => rfl)
      (fun depth => expression_eq_partText depth he) spans depth
  · exact wrapped_induction (P := fun value text => text = Json.text .compact <$> value)
      (fun _ => rfl) (fun depth => partText_eq_json depth he) spans depth

/-- Two layers around a reference are taken out and its text is joined with the one before; a wrapped
number keeps its type and is written out as text. -/
theorem quoting_transparent_layers :
    let c : Conversion := ⟨.ofString "x", 5⟩
    let x : Expression := .reference ⟨0, 1⟩
    let nested : Expression := .template ⟨2, 4⟩ [.literal "b", .interpolation x]
    let layered : Expression := .template ⟨0, 6⟩ [.literal "a", .interpolation (.wrap ⟨1, 5⟩ nested)]
    let plain : Expression := .template ⟨0, 6⟩ [.literal "ab", .interpolation x]
    let number : Expression := .literal ⟨3, 4⟩ (.number (.integer 7))
    Relation.EqvGen Requoted layered plain ∧
      c.expression 0 layered = .ok (.string "ab$\x7bx\x7d") ∧
      c.expression 0 plain = .ok (.string "ab$\x7bx\x7d") ∧
      c.expression 0 (wrapped [⟨1, 6⟩, ⟨2, 5⟩] number) = .ok (.number (.integer 7)) ∧
      c.partText 0 (wrapped [⟨1, 6⟩, ⟨2, 5⟩] number) = .ok "7" := by
  intro c x nested layered plain number
  have hunwrap : Requoted layered (.template ⟨0, 6⟩ [.literal "a", .interpolation nested]) :=
    .unwrap ⟨0, 6⟩ ⟨1, 5⟩ nested [.literal "a"] []
  have hsplice : Requoted (.template ⟨0, 6⟩ [.literal "a", .interpolation nested])
      (.template ⟨0, 6⟩ [.literal "a", .literal "b", .interpolation x]) :=
    .splice ⟨0, 6⟩ ⟨2, 4⟩ [.literal "a"] [.literal "b", .interpolation x] []
  have hsplit : Requoted plain (.template ⟨0, 6⟩ [.literal "a", .literal "b", .interpolation x]) :=
    .split ⟨0, 6⟩ "a" "b" [] [.interpolation x]
  have hchanges : Relation.EqvGen Requoted layered plain :=
    .trans _ _ _ (.rel _ _ hunwrap) (.trans _ _ _ (.rel _ _ hsplice) (.symm _ _ (.rel _ _ hsplit)))
  obtain ⟨hquoting, -, hwrapped, -, htext⟩ := quoting_transparent c 0
  have hvalue : c.expression 0 layered = .ok (.string "ab$\x7bx\x7d") := by rfl
  have hplain := (hquoting layered plain hchanges).1 (by decide) (by decide)
  have hnumber := hwrapped [⟨1, 6⟩, ⟨2, 5⟩] number (by decide)
  have hseven := htext [⟨1, 6⟩, ⟨2, 5⟩] number (.number _ _)
  refine ⟨hchanges, hvalue, hplain.symm.trans hvalue, hnumber, ?_⟩
  rw [hseven, hnumber]
  rfl

end Conversion
end Groundplan
