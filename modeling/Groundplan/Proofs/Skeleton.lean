import Groundplan.Proofs.Outcome
import Groundplan.Canonical.Expression

/-!
# The skeleton of a template

A template renders to text, and its skeleton is what it renders from: runs of text, markers,
conditionals and repetitions, in order, with nested templates put in their place and adjacent runs
joined (`Conversion.templateSkeleton`).  The `_eq_ok` lemmas say how each form renders; from them,
by induction on the tree, a template that renders has a skeleton, and its text is the rendering of
the skeleton (`exists_templateSkeleton`).  Skeletons are normal: no run is empty, and none follows
another (`normal_templateSkeleton`).
-/

namespace Groundplan

/-- What a template consists of, in order. -/
inductive Skeleton where
  | nil
  /-- A run of text. -/
  | text (run : String) (rest : Skeleton)
  /-- An expression that is quoted from the source. -/
  | marker (source : String) (rest : Skeleton)
  /-- A conditional, with the source of its condition. -/
  | choice (condition : String) (yes no rest : Skeleton)
  /-- A repetition, with the source of its collection. -/
  | loop (key : Option String) (value collection : String) (body rest : Skeleton)
  deriving DecidableEq, Repr

namespace Skeleton

/-- Puts text in front, which joins a run that is there; no text is no run. -/
def prepend (run : String) : Skeleton → Skeleton
  | text more rest => text (run ++ more) rest
  | k => if run = "" then k else text run k

/-- Puts one skeleton behind another. -/
def append : Skeleton → Skeleton → Skeleton
  | nil, k => k
  | text run rest, k => prepend run (append rest k)
  | marker source rest, k => marker source (append rest k)
  | choice condition yes no rest, k => choice condition yes no (append rest k)
  | loop key value collection body rest, k => loop key value collection body (append rest k)

/-- The text of a skeleton. -/
def render : Skeleton → String
  | nil => ""
  | text run rest => run ++ rest.render
  | marker source rest => "$\x7b" ++ source ++ "\x7d" ++ rest.render
  | choice condition yes no rest =>
    Conversion.ifText condition yes.render no.render ++ rest.render
  | loop key value collection body rest =>
    Conversion.forText key value collection body.render ++ rest.render

/-- Whether the first piece is a run of text. -/
def startsWithText : Skeleton → Bool
  | text _ _ => true
  | _ => false

/-- No run is empty, and none follows another. -/
def Normal : Skeleton → Prop
  | nil => True
  | text run rest => run ≠ "" ∧ rest.startsWithText = false ∧ Normal rest
  | marker _ rest => Normal rest
  | choice _ yes no rest => Normal yes ∧ Normal no ∧ Normal rest
  | loop _ _ _ body rest => Normal body ∧ Normal rest

/-! ### Joining skeletons -/

theorem prepend_of_startsWithText_eq_false {run : String} {k : Skeleton}
    (h : k.startsWithText = false) : prepend run k = if run = "" then k else text run k := by
  cases k with
  | text => cases h
  | nil | marker | choice | loop => rfl

@[simp] theorem render_prepend (run : String) (k : Skeleton) :
    (prepend run k).render = run ++ k.render := by
  cases k with
  | text more rest => simp only [prepend, render, String.append_assoc]
  | nil | marker | choice | loop =>
    rw [prepend_of_startsWithText_eq_false rfl]
    split
    case isTrue hrun => rw [hrun, String.empty_append]
    case isFalse => simp only [render]

@[simp] theorem render_append (k l : Skeleton) : (append k l).render = k.render ++ l.render := by
  induction k with
  | nil => rw [append, render, String.empty_append]
  | text run rest ih => rw [append, render_prepend, ih, render, String.append_assoc]
  | marker source rest ih => simp only [append, render, ih, String.append_assoc]
  | choice condition yes no rest _ _ ih => simp only [append, render, ih, String.append_assoc]
  | loop key value collection body rest _ ih => simp only [append, render, ih, String.append_assoc]

theorem prepend_of_ne {run : String} {k : Skeleton} (hrun : run ≠ "")
    (h : k.startsWithText = false) : prepend run k = text run k := by
  rw [prepend_of_startsWithText_eq_false h, if_neg hrun]

/-- No text in front is none. -/
theorem prepend_empty (k : Skeleton) : prepend "" k = k := by
  cases k with
  | text more rest => rw [prepend, String.empty_append]
  | nil | marker | choice | loop => rfl

theorem prepend_prepend (run more : String) (k : Skeleton) :
    prepend run (prepend more k) = prepend (run ++ more) k := by
  cases k with
  | text others rest => simp only [prepend, String.append_assoc]
  | nil | marker | choice | loop =>
    by_cases hmore : more = ""
    · rw [hmore, prepend_empty, String.append_empty]
    · have hboth : run ++ more ≠ "" := fun h => hmore (String.append_eq_empty_iff.mp h).2
      rw [prepend_of_ne hmore rfl, prepend_of_ne hboth rfl, prepend]

theorem append_prepend (run : String) (k l : Skeleton) :
    append (prepend run k) l = prepend run (append k l) := by
  cases k with
  | text more rest => rw [prepend, append, append, prepend_prepend]
  | nil | marker | choice | loop =>
    rw [prepend_of_startsWithText_eq_false rfl]
    by_cases hrun : run = ""
    · rw [if_pos hrun, hrun, prepend_empty]
    · rw [if_neg hrun]
      rfl

theorem append_assoc (k l m : Skeleton) : append (append k l) m = append k (append l m) := by
  induction k with
  | nil => rfl
  | text run rest ih => rw [append, append_prepend, ih, append]
  | marker source rest ih => rw [append, append, append, ih]
  | choice condition yes no rest _ _ ih => rw [append, append, append, ih]
  | loop key value collection body rest _ ih => rw [append, append, append, ih]

theorem normal_prepend (run : String) {k : Skeleton} (h : k.Normal) : (prepend run k).Normal := by
  cases k with
  | text more rest =>
    obtain ⟨hmore, hrest⟩ := h
    refine ⟨fun hempty => hmore ?_, hrest⟩
    exact (String.append_eq_empty_iff.mp hempty).2
  | nil | marker | choice | loop =>
    rw [prepend_of_startsWithText_eq_false rfl]
    split
    case isTrue => exact h
    case isFalse hrun => exact ⟨hrun, rfl, h⟩

theorem normal_append {k l : Skeleton} (hk : k.Normal) (hl : l.Normal) : (append k l).Normal := by
  induction k with
  | nil => exact hl
  | text run rest ih => exact normal_prepend run (ih hk.2.2)
  | marker source rest ih => exact ih hk
  | choice condition yes no rest _ _ ih => exact ⟨hk.1, hk.2.1, ih hk.2.2⟩
  | loop key value collection body rest _ ih => exact ⟨hk.1, ih hk.2⟩

end Skeleton

namespace Conversion

/-! ### The skeleton of an expression -/

mutual

/-- The skeleton of an expression in string position. -/
def skeleton (c : Conversion) (e : Expression) : Except Error Skeleton :=
  match e with
  | .literal span value =>
    match value.text? with
    | some text => .ok (Skeleton.prepend text .nil)
    | none => .error (c.noText span)
  | .template _ parts => templateSkeleton c parts
  | .wrap _ inner => skeleton c inner
  | .conditional _ condition yes no => do
    let condition ← c.quote condition.span
    let yes ← skeleton c yes
    let no ← skeleton c no
    return .choice condition yes no .nil
  | .forEach _ key value collection body => do
    let collection ← c.quote collection.span
    let body ← skeleton c body
    return .loop key value collection body .nil
  | .tuple span _ => (Skeleton.marker · .nil) <$> c.quote span
  | .object span _ => (Skeleton.marker · .nil) <$> c.quote span
  | .reference span => (Skeleton.marker · .nil) <$> c.quote span
  | .dynamic span => (Skeleton.marker · .nil) <$> c.quote span
termination_by structural e

/-- The skeleton of a template. -/
def templateSkeleton (c : Conversion) (parts : List Part) : Except Error Skeleton :=
  match parts with
  | [] => .ok .nil
  | .literal text :: rest => Skeleton.prepend text <$> templateSkeleton c rest
  | .interpolation e :: rest => do
    let first ← skeleton c e
    first.append <$> templateSkeleton c rest
  | .directive e :: rest => do
    let first ← skeleton c e
    first.append <$> templateSkeleton c rest
termination_by structural parts

end

variable {c : Conversion} {depth : Nat} {s : String} {k : Skeleton}

/-! ### What renders -/

/-- A marker quotes the source. -/
theorem marker_eq_ok {span : Span} :
    c.marker span = .ok s ↔ ∃ source, c.quote span = .ok source ∧ "$\x7b" ++ source ++ "\x7d" = s :=
  map_eq_ok

/-- A text with others behind it. -/
theorem append_eq_ok {first others : Except Error String} :
    (do let text ← first; (text ++ ·) <$> others) = .ok s ↔
      ∃ t u, first = .ok t ∧ others = .ok u ∧ t ++ u = s := by
  rw [bind_eq_ok]
  constructor
  · rintro ⟨t, ht, h⟩
    obtain ⟨u, hu, rfl⟩ := map_eq_ok.mp h
    exact ⟨t, u, ht, hu, rfl⟩
  · rintro ⟨t, u, ht, hu, rfl⟩
    exact ⟨t, ht, map_eq_ok.mpr ⟨u, hu, rfl⟩⟩

theorem expression_template_eq_ok {span : Span} {parts : List Part} {v : Value} :
    c.expression depth (.template span parts) = .ok v ↔
      ∃ inner, c.enter depth = .ok inner ∧ ∃ s, c.rendered inner parts = .ok s ∧ .string s = v := by
  rw [expression, bind_eq_ok]
  simp only [joined_rendered, map_eq_ok]

theorem partText_template_eq_ok {span : Span} {parts : List Part} :
    c.partText depth (.template span parts) = .ok s ↔
      ∃ inner, c.enter depth = .ok inner ∧ c.rendered inner parts = .ok s := by
  rw [partText, bind_eq_ok]
  simp only [joined_rendered]

theorem partText_conditional_eq_ok {span : Span} {condition yes no : Expression} :
    c.partText depth (.conditional span condition yes no) = .ok s ↔
      ∃ inner, c.enter depth = .ok inner ∧ ∃ source y n, c.quote condition.span = .ok source ∧
        c.partText inner yes = .ok y ∧ c.partText inner no = .ok n ∧ ifText source y n = s := by
  rw [partText]
  simp only [bind_eq_ok, pure_eq_ok, Except.ok.injEq]
  constructor
  · rintro ⟨inner, hinner, source, hsource, y, hy, n, hn, rfl⟩
    exact ⟨inner, hinner, source, y, n, hsource, hy, hn, rfl⟩
  · rintro ⟨inner, hinner, source, y, n, hsource, hy, hn, rfl⟩
    exact ⟨inner, hinner, source, hsource, y, hy, n, hn, rfl⟩

theorem partText_forEach_eq_ok {span : Span} {key : Option String} {value : String}
    {collection body : Expression} :
    c.partText depth (.forEach span key value collection body) = .ok s ↔
      ∃ inner, c.enter depth = .ok inner ∧ ∃ source b, c.quote collection.span = .ok source ∧
        c.partText inner body = .ok b ∧ forText key value source b = s := by
  rw [partText]
  simp only [bind_eq_ok, pure_eq_ok, Except.ok.injEq]
  constructor
  · rintro ⟨inner, hinner, source, hsource, b, hb, rfl⟩
    exact ⟨inner, hinner, source, b, hsource, hb, rfl⟩
  · rintro ⟨inner, hinner, source, b, hsource, hb, rfl⟩
    exact ⟨inner, hinner, source, hsource, b, hb, rfl⟩

mutual

/-- What an expression in string position renders to is the rendering of its skeleton. -/
theorem exists_skeleton (e : Expression) {depth : Nat} {s : String}
    (h : c.partText depth e = .ok s) : ∃ k, c.skeleton e = .ok k ∧ k.render = s := by
  cases e with
  | literal span value =>
    rw [partText] at h
    obtain ⟨inner, -, h⟩ := bind_eq_ok.mp h
    rw [skeleton]
    dsimp only at h
    cases htext : value.text? with
    | none => rw [htext] at h; cases h
    | some text =>
      rw [htext] at h
      obtain rfl := Except.ok.inj h
      exact ⟨_, rfl, by simp [Skeleton.render]⟩
  | template span parts =>
    obtain ⟨inner, -, h⟩ := partText_template_eq_ok.mp h
    rw [skeleton]
    exact exists_templateSkeleton parts h
  | wrap span e =>
    rw [partText] at h
    obtain ⟨inner, -, h⟩ := bind_eq_ok.mp h
    rw [skeleton]
    exact exists_skeleton e h
  | conditional span condition yes no =>
    obtain ⟨inner, -, source, yesText, noText, hsource, hyes, hno, rfl⟩ :=
      partText_conditional_eq_ok.mp h
    obtain ⟨y, hy, rfl⟩ := exists_skeleton yes hyes
    obtain ⟨n, hn, rfl⟩ := exists_skeleton no hno
    refine ⟨.choice source y n .nil, ?_, by simp [Skeleton.render]⟩
    rw [skeleton, hsource, ok_bind, hy, ok_bind, hn]
    rfl
  | forEach span key value collection body =>
    obtain ⟨inner, -, source, bodyText, hsource, hbody, rfl⟩ := partText_forEach_eq_ok.mp h
    obtain ⟨b, hb, rfl⟩ := exists_skeleton body hbody
    refine ⟨.loop key value source b .nil, ?_, by simp [Skeleton.render]⟩
    rw [skeleton, hsource, ok_bind, hb]
    rfl
  | tuple span | object span | reference span | dynamic span =>
    rw [partText] at h
    obtain ⟨inner, -, h⟩ := bind_eq_ok.mp h
    obtain ⟨source, hsource, rfl⟩ := marker_eq_ok.mp h
    rw [skeleton, hsource]
    exact ⟨_, rfl, by simp [Skeleton.render]⟩
termination_by structural e

/-- **Rendering goes through the skeleton**: what a template renders to is the rendering of its
skeleton. -/
theorem exists_templateSkeleton (parts : List Part) {depth : Nat} {s : String}
    (h : c.rendered depth parts = .ok s) :
    ∃ k, c.templateSkeleton parts = .ok k ∧ k.render = s := by
  cases parts with
  | nil =>
    rw [rendered] at h
    obtain rfl := Except.ok.inj h
    exact ⟨.nil, by rw [templateSkeleton], rfl⟩
  | cons part rest =>
    cases part with
    | literal text =>
      rw [rendered] at h
      obtain ⟨t, ht, rfl⟩ := map_eq_ok.mp h
      obtain ⟨k, hk, rfl⟩ := exists_templateSkeleton rest ht
      rw [templateSkeleton, hk]
      exact ⟨_, rfl, Skeleton.render_prepend text k⟩
    | interpolation e | directive e =>
      rw [rendered] at h
      obtain ⟨first, others, hfirst, hothers, rfl⟩ := append_eq_ok.mp h
      obtain ⟨k, hk, rfl⟩ := exists_skeleton e hfirst
      obtain ⟨l, hl, rfl⟩ := exists_templateSkeleton rest hothers
      rw [templateSkeleton, hk, ok_bind, hl]
      exact ⟨_, rfl, Skeleton.render_append k l⟩
termination_by structural parts

end

mutual

theorem normal_skeleton (e : Expression) {k : Skeleton} (h : c.skeleton e = .ok k) : k.Normal := by
  rw [skeleton.eq_def] at h
  cases e with
  | literal span value =>
    dsimp only at h
    cases htext : value.text? with
    | none => rw [htext] at h; cases h
    | some text =>
      rw [htext] at h
      obtain rfl := Except.ok.inj h
      exact Skeleton.normal_prepend text trivial
  | template span parts => exact normal_templateSkeleton parts h
  | wrap span e => exact normal_skeleton e h
  | conditional span condition yes no =>
    obtain ⟨source, -, h⟩ := bind_eq_ok.mp h
    obtain ⟨y, hy, h⟩ := bind_eq_ok.mp h
    obtain ⟨n, hn, h⟩ := bind_eq_ok.mp h
    obtain rfl := Except.ok.inj h
    exact ⟨normal_skeleton yes hy, normal_skeleton no hn, trivial⟩
  | forEach span key value collection body =>
    obtain ⟨source, -, h⟩ := bind_eq_ok.mp h
    obtain ⟨b, hb, h⟩ := bind_eq_ok.mp h
    obtain rfl := Except.ok.inj h
    exact ⟨normal_skeleton body hb, trivial⟩
  | tuple span | object span | reference span | dynamic span =>
    obtain ⟨source, -, rfl⟩ := map_eq_ok.mp h
    exact trivial
termination_by structural e

/-- Skeletons of templates are normal. -/
theorem normal_templateSkeleton (parts : List Part) {k : Skeleton}
    (h : c.templateSkeleton parts = .ok k) : k.Normal := by
  cases parts with
  | nil =>
    rw [templateSkeleton] at h
    obtain rfl := Except.ok.inj h
    exact trivial
  | cons part rest =>
    cases part with
    | literal text =>
      rw [templateSkeleton] at h
      obtain ⟨l, hl, rfl⟩ := map_eq_ok.mp h
      exact Skeleton.normal_prepend text (normal_templateSkeleton rest hl)
    | interpolation e | directive e =>
      rw [templateSkeleton] at h
      obtain ⟨first, hfirst, h⟩ := bind_eq_ok.mp h
      obtain ⟨l, hl, rfl⟩ := map_eq_ok.mp h
      exact Skeleton.normal_append (normal_skeleton e hfirst) (normal_templateSkeleton rest hl)
termination_by structural parts

end

/-! ### Rendered templates -/

/-- A template renders to a text, in one of the two positions. -/
def Renders (c : Conversion) (parts : List Part) (s : String) : Prop :=
  ∃ depth span, c.expression depth (.template span parts) = .ok (.string s) ∨
    c.partText depth (.template span parts) = .ok s

/-- A template that renders has a skeleton, which is normal and renders to the same text. -/
theorem Renders.exists_skeleton {parts : List Part} (h : c.Renders parts s) :
    ∃ k, c.templateSkeleton parts = .ok k ∧ k.Normal ∧ k.render = s := by
  suffices ∃ depth, c.rendered depth parts = .ok s by
    obtain ⟨depth, hs⟩ := this
    obtain ⟨k, hk, hrender⟩ := exists_templateSkeleton parts hs
    exact ⟨k, hk, normal_templateSkeleton parts hk, hrender⟩
  obtain ⟨depth, span, h | h⟩ := h
  · obtain ⟨inner, -, text, htext, heq⟩ := expression_template_eq_ok.mp h
    obtain rfl := Value.string.inj heq
    exact ⟨inner, htext⟩
  · obtain ⟨inner, -, htext⟩ := partText_template_eq_ok.mp h
    exact ⟨inner, htext⟩

end Conversion
end Groundplan
