import Groundplan.Proofs.Ceiling
import Groundplan.Proofs.Decoding
import Groundplan.Proofs.Scope

/-!
# What a conversion demands

On its way through an expression a conversion demands the source text of some spans, and the text of
every literal that stands in string position.  `Expression.demands` lists these demands in the order
in which they come up; which ones there are depends on the position of each expression, and the
spans of what is evaluated are not among them.

One induction over expressions shows that the demands decide the outcome of every conversion with
room for the tree (`expression_decided`).  Hence an expression converts iff its demands are met, and
otherwise fails as the first of them that is not (`expression_by_demands`); under a lower ceiling it
may also fail there (`expression_refused`).
-/

namespace Groundplan

open Error (OfConversion)

/-- What a conversion needs to go on. -/
inductive Demand where
  /-- The source text of a span. -/
  | quotation (span : Span)
  /-- The text of the null literal at a span. -/
  | textOfNull (span : Span)
  deriving DecidableEq, Repr

namespace Demand

/-- Whether a demand can be met: a span has to be legible, and null has no text. -/
def Met (s : Source) : Demand → Prop
  | quotation span => s.Legible span
  | textOfNull _ => False

/-- The error that a demand is refused with. -/
inductive Refused (c : Conversion) : Demand → Error → Prop where
  /-- The span ends before it starts, or lies outside the source. -/
  | outside (span : Span) (h : ¬ (span.start ≤ span.stop ∧ span.stop ≤ c.source.size)) :
    Refused c (quotation span) (.unreadable "" (QuoteFault.outside span c.source.size).message)
  /-- The bytes of the span are not UTF-8. -/
  | notText (span : Span) (fault : Utf8.Fault) (h : span.start ≤ span.stop)
    (h' : span.stop ≤ c.source.size)
    (hfault : Utf8.decode ((c.source.bytes.drop span.start).take (span.stop - span.start))
      = .error fault) :
    Refused c (quotation span) (.unreadable "" (QuoteFault.notText span fault).message)
  /-- Null cannot be converted to a text. -/
  | null (span : Span) : Refused c (textOfNull span) (c.noText span)

end Demand

/-! ### The demands of a tree -/

/-- The demands of an object key, whose demands in string position are given: a bare reference is
quoted. -/
def Expression.keyDemands (key : Expression) (inText : List Demand) : List Demand :=
  match key with
  | .reference span => [.quotation span]
  | _ => inText

mutual

/-- The demands of an expression in value position, in the order in which they come up. -/
def Expression.demands (e : Expression) : List Demand :=
  match e with
  | .literal _ _ => []
  | .template _ parts => Part.demands parts
  | .wrap _ inner => Expression.demands inner
  | .tuple _ items => Expression.allDemands items
  | .object _ items => Item.demands items
  | .reference span => [.quotation span]
  | .conditional span _ _ _ => [.quotation span]
  | .forEach span _ _ _ _ => [.quotation span]
  | .dynamic span => [.quotation span]
termination_by structural e

/-- The demands of expressions in value position, one after the other. -/
def Expression.allDemands (es : List Expression) : List Demand :=
  match es with
  | [] => []
  | e :: rest => Expression.demands e ++ Expression.allDemands rest
termination_by structural es

/-- The demands of the items of an object: of each one the key's, and then the value's. -/
def Item.demands (items : List Item) : List Demand :=
  match items with
  | [] => []
  | .mk key value :: rest =>
    key.keyDemands (Expression.textDemands key) ++ (Expression.demands value ++ Item.demands rest)
termination_by structural items

/-- The demands of the parts of a template, one after the other. -/
def Part.demands (parts : List Part) : List Demand :=
  match parts with
  | [] => []
  | .literal _ :: rest => Part.demands rest
  | .interpolation e :: rest => Expression.textDemands e ++ Part.demands rest
  | .directive e :: rest => Expression.textDemands e ++ Part.demands rest
termination_by structural parts

/-- The demands of an expression in string position: of a directive the controlling expression is
quoted, and what it controls is text. -/
def Expression.textDemands (e : Expression) : List Demand :=
  match e with
  | .literal span .null => [.textOfNull span]
  | .literal _ _ => []
  | .template _ parts => Part.demands parts
  | .wrap _ inner => Expression.textDemands inner
  | .conditional _ condition yes no =>
    .quotation condition.span :: (Expression.textDemands yes ++ Expression.textDemands no)
  | .forEach _ _ _ collection body => .quotation collection.span :: Expression.textDemands body
  | .tuple span _ => [.quotation span]
  | .object span _ => [.quotation span]
  | .reference span => [.quotation span]
  | .dynamic span => [.quotation span]
termination_by structural e

end

/-! ### Refusals -/

/-- The error that a demand is refused with, if it is. -/
def Demand.refusal? (c : Conversion) : Demand → Option Error
  | quotation span =>
    match c.quote span with
    | .ok _ => none
    | .error e => some e
  | textOfNull span => some (c.noText span)

variable {c : Conversion} {d : Demand} {e : Error}

/-- The demands that are not refused are those that can be met. -/
theorem Demand.refusal?_eq_none_iff : d.refusal? c = none ↔ d.Met c.source := by
  cases d with
  | quotation span =>
    rw [Met, ← Source.exists_quote_iff, refusal?, Conversion.quote]
    cases c.source.quote span with
    | ok text => simp
    | error fault => simp
  | textOfNull span => simp [refusal?, Met]

theorem Demand.refusal?_eq_some_iff : d.refusal? c = some e ↔ d.Refused c e := by
  cases d with
  | quotation span =>
    rw [refusal?, Conversion.quote, Source.quote]
    by_cases hinside : span.start ≤ span.stop ∧ span.stop ≤ c.source.size
    · rw [Source.slice?_eq_some hinside]
      dsimp only
      constructor
      · intro h
        cases hdecode : Utf8.decode
            ((c.source.bytes.drop span.start).take (span.stop - span.start)) with
        | ok chars =>
          rw [hdecode] at h
          cases h
        | error fault =>
          rw [hdecode] at h
          obtain rfl := Option.some.inj h
          exact .notText span fault hinside.1 hinside.2 hdecode
      · intro h
        cases h with
        | outside _ h => exact absurd hinside h
        | notText _ fault _ _ hfault => rw [hfault]
    · rw [Source.slice?, if_neg hinside]
      constructor
      · intro h
        obtain rfl := Option.some.inj h
        exact .outside span hinside
      · intro h
        cases h with
        | outside => rfl
        | notText _ _ h h' => exact absurd ⟨h, h'⟩ hinside
  | textOfNull span =>
    constructor
    · intro h
      obtain rfl := Option.some.inj h
      exact .null span
    · rintro ⟨⟩
      rfl

/-- What is refused does not depend on the ceiling. -/
theorem Demand.refusal?_of_source {c' : Conversion} (h : c.source = c'.source) :
    d.refusal? c = d.refusal? c' := by
  obtain ⟨s, limit⟩ := c
  obtain ⟨s', limit'⟩ := c'
  obtain rfl : s = s' := h
  cases d <;> rfl

/-- The error is that of the first of the demands that cannot be met. -/
def FirstRefused (c : Conversion) (demands : List Demand) (e : Error) : Prop :=
  ∃ before d after, demands = before ++ d :: after ∧ (∀ m ∈ before, m.Met c.source) ∧ d.Refused c e

/-! ### Expressions -/

namespace Conversion

section Steps

variable {α : Type} {ds : List Demand}

/-- A level with room demands nothing of its own. -/
theorem enter_decided {depth : Nat} {k : Nat → Except Error α} (hroom : depth < c.maxDepth)
    (h : DecidedBy (Demand.refusal? c) ds (k (depth + 1))) :
    DecidedBy (Demand.refusal? c) ds (c.enter depth >>= k) := by
  rwa [enter_eq_ok.mpr ⟨hroom, rfl⟩, ok_bind]

theorem quote_decided (c : Conversion) (span : Span) :
    DecidedBy (Demand.refusal? c) [.quotation span] (c.quote span) := by
  apply DecidedBy.single
  · rw [Demand.refusal?]
    cases c.quote span with
    | ok text => exact fun _ => ⟨text, rfl⟩
    | error e => exact fun h => nomatch h
  · intro e
    rw [Demand.refusal?]
    cases c.quote span with
    | ok text => exact fun h => nomatch h
    | error e' => exact fun h => congrArg _ (Option.some.inj h)

theorem marker_decided (c : Conversion) (span : Span) :
    DecidedBy (Demand.refusal? c) [.quotation span] (c.marker span) :=
  (quote_decided c span).map _

theorem noText_decided (c : Conversion) (span : Span) :
    DecidedBy (Demand.refusal? c) [.textOfNull span] (.error (c.noText span) : Except Error α) :=
  .single (fun h => nomatch h) fun _ h => congrArg _ (Option.some.inj h)

theorem keyed_decided {key : Expression} {text : Except Error String}
    (h : (∀ span, key ≠ .reference span) → DecidedBy (Demand.refusal? c) ds text) :
    DecidedBy (Demand.refusal? c) (key.keyDemands ds) (c.keyed key text) := by
  cases key with
  | reference span => exact quote_decided c span
  | literal | template | wrap | tuple | object | conditional | forEach | dynamic =>
    exact h fun span hspan => nomatch hspan

end Steps

mutual

/-- The demands of an expression decide its conversion, if the ceiling leaves room for it. -/
theorem expression_decided (c : Conversion) (depth : Nat) (e : Expression)
    (hroom : depth + e.height ≤ c.maxDepth) :
    DecidedBy (Demand.refusal? c) e.demands (c.expression depth e) := by
  rw [expression.eq_def]
  cases e with
  | literal span value =>
    rw [Expression.height] at hroom
    rw [Expression.demands]
    exact enter_decided (by omega) (.ok _ _)
  | template span parts =>
    rw [Expression.height] at hroom
    rw [Expression.demands]
    simp only [joined_rendered]
    exact enter_decided (by omega) (.map _ (rendered_decided c _ parts (by omega)))
  | wrap span inner =>
    rw [Expression.height] at hroom
    rw [Expression.demands]
    exact enter_decided (by omega) (expression_decided c _ inner (by omega))
  | tuple span items =>
    rw [Expression.height] at hroom
    rw [Expression.demands]
    exact enter_decided (by omega) (.map _ (elements_decided c _ items (by omega)))
  | object span items =>
    rw [Expression.height] at hroom
    rw [Expression.demands]
    exact enter_decided (by omega) (.map _ (entries_decided c _ [] items (by omega)))
  | reference span | conditional span condition yes no | forEach span key value collection body
  | dynamic span =>
    rw [Expression.height] at hroom
    rw [Expression.demands]
    exact enter_decided (by omega) (.map _ (marker_decided c span))
termination_by structural e

theorem elements_decided (c : Conversion) (depth : Nat) (es : List Expression)
    (hroom : depth + Expression.heights es ≤ c.maxDepth) :
    DecidedBy (Demand.refusal? c) (Expression.allDemands es) (c.elements depth es) := by
  cases es with
  | nil =>
    rw [elements, Expression.allDemands]
    exact .ok _ _
  | cons e rest =>
    rw [Expression.heights] at hroom
    rw [elements, Expression.allDemands]
    refine .bind (expression_decided c depth e (by omega)) fun value => ?_
    exact .map _ (elements_decided c depth rest (by omega))
termination_by structural es

theorem entries_decided (c : Conversion) (depth : Nat) (before : Entries Value) (items : List Item)
    (hroom : depth + Item.heights items ≤ c.maxDepth) :
    DecidedBy (Demand.refusal? c) (Item.demands items) (c.entries depth before items) := by
  cases items with
  | nil =>
    rw [entries, Item.demands]
    exact .ok _ _
  | cons item rest =>
    obtain ⟨key, value⟩ := item
    rw [Item.heights] at hroom
    rw [entries, Item.demands]
    have hkey : DecidedBy (Demand.refusal? c) (key.keyDemands key.textDemands)
        (c.keyed key (c.partText depth key)) := by
      refine keyed_decided fun hne => partText_decided c depth key ?_
      rw [Expression.keyHeight_of_ne hne] at hroom
      omega
    refine .bind hkey fun text => .bind (expression_decided c depth value (by omega)) fun value => ?_
    exact entries_decided c depth _ rest (by omega)
termination_by structural items

theorem rendered_decided (c : Conversion) (depth : Nat) (parts : List Part)
    (hroom : depth + Part.heights parts ≤ c.maxDepth) :
    DecidedBy (Demand.refusal? c) (Part.demands parts) (c.rendered depth parts) := by
  cases parts with
  | nil =>
    rw [rendered, Part.demands]
    exact .ok _ _
  | cons part rest =>
    cases part with
    | literal text =>
      rw [Part.heights] at hroom
      rw [rendered, Part.demands]
      exact .map _ (rendered_decided c depth rest hroom)
    | interpolation e | directive e =>
      rw [Part.heights] at hroom
      rw [rendered, Part.demands]
      refine .bind (partText_decided c depth e (by omega)) fun text => ?_
      exact .map _ (rendered_decided c depth rest (by omega))
termination_by structural parts

/-- In string position other spans are demanded, and null is refused. -/
theorem partText_decided (c : Conversion) (depth : Nat) (e : Expression)
    (hroom : depth + e.textHeight ≤ c.maxDepth) :
    DecidedBy (Demand.refusal? c) e.textDemands (c.partText depth e) := by
  rw [partText.eq_def]
  cases e with
  | literal span value =>
    rw [Expression.textHeight] at hroom
    refine enter_decided (by omega) ?_
    cases value with
    | null =>
      rw [Expression.textDemands]
      exact noText_decided c span
    | bool | number | string =>
      rw [Expression.textDemands]
      · exact .ok _ _
      · exact fun h => nomatch h
  | template span parts =>
    rw [Expression.textHeight] at hroom
    rw [Expression.textDemands]
    simp only [joined_rendered]
    exact enter_decided (by omega) (rendered_decided c _ parts (by omega))
  | wrap span inner =>
    rw [Expression.textHeight] at hroom
    rw [Expression.textDemands]
    exact enter_decided (by omega) (partText_decided c _ inner (by omega))
  | conditional span condition yes no =>
    rw [Expression.textHeight] at hroom
    rw [Expression.textDemands]
    refine enter_decided (by omega) (.bind (quote_decided c condition.span) fun condition => ?_)
    refine .bind (partText_decided c _ yes (by omega)) fun yes => ?_
    exact .map _ (partText_decided c _ no (by omega))
  | forEach span key value collection body =>
    rw [Expression.textHeight] at hroom
    rw [Expression.textDemands]
    refine enter_decided (by omega) (.bind (quote_decided c collection.span) fun collection => ?_)
    exact .map _ (partText_decided c _ body (by omega))
  | tuple span items | object span items | reference span | dynamic span =>
    rw [Expression.textHeight] at hroom
    rw [Expression.textDemands]
    exact enter_decided (by omega) (marker_decided c span)
termination_by structural e

end

/-- An expression that fails under some ceiling fails at it, or a demand is refused. -/
theorem expression_refused {depth : Nat} {e : Expression} {err : Error}
    (h : c.expression depth e = .error err) :
    err = .tooDeep c.maxDepth ∨ ∃ d ∈ e.demands, d.Refused c err := by
  have hcut := expression_cutOff c.source c.maxDepth (depth + e.height) depth depth e le_rfl
  have hdecided := expression_decided ⟨c.source, depth + e.height⟩ depth e le_rfl
  -- the error is the ceiling's, or the one that there is with enough room
  have hfree : err = .tooDeep c.maxDepth ∨
      expression ⟨c.source, depth + e.height⟩ depth e = .error err := by
    by_cases hfits : e.height ≤ c.maxDepth - depth
    · exact .inr ((hcut.eq_free hfits).symm.trans h)
    · rcases hcut.fails hfits with hdeep | ⟨err', hfree, houtcome⟩
      · exact .inl (Except.error.inj (h.symm.trans hdeep))
      · obtain rfl := Except.error.inj (h.symm.trans houtcome)
        exact .inr hfree
  refine hfree.imp_right fun hfree => ?_
  obtain ⟨before, d, after, hdemands, -, hrefused⟩ := hdecided.eq_error_iff.mp hfree
  have hsame : d.refusal? c = some err := (Demand.refusal?_of_source rfl).trans hrefused
  exact ⟨d, by simp [hdemands], Demand.refusal?_eq_some_iff.mp hsame⟩

/-- **Conversion by demands.**  With room for the tree, an expression converts iff every span that it
demands is legible and no text of null is demanded; otherwise it fails with the error of the first
demand that is refused.  Whatever the ceiling is, scopes and resource records fail for the reasons of
a conversion only. -/
theorem expression_by_demands (c : Conversion) (e : Expression) (hroom : e.height ≤ c.maxDepth) :
    ((∃ v, c.expression 0 e = .ok v) ↔ ∀ d ∈ e.demands, d.Met c.source) ∧
      (∀ err, c.expression 0 e = .error err ↔ FirstRefused c e.demands err) ∧
      ∀ (c' : Conversion) (b : Body) (path : String),
        FailsWith (OfConversion c'.maxDepth) (c'.body b) ∧
          FailsWith (OfConversion c'.maxDepth) (c'.resources path b) := by
  have hdecided := expression_decided c 0 e (by omega)
  refine ⟨?_, fun err => ?_, fun c' b path => ?_⟩
  · simp only [hdecided.exists_ok_iff, Demand.refusal?_eq_none_iff]
  · simp only [hdecided.eq_error_iff, Demand.refusal?_eq_none_iff, Demand.refusal?_eq_some_iff,
      FirstRefused]
  · exact ⟨scope_fails c' 0 b, records_fails c' path b.blocks⟩

/-- In a source that ends inside a character, spans that are not demanded are out of place, and a
null is demanded as text before a span that cannot be quoted. -/
theorem expression_by_demands_mixed :
    let c : Conversion := ⟨⟨[0x61, 0xC3]⟩, 4⟩
    let a : Expression := .reference ⟨0, 1⟩
    let null : Expression := .literal ⟨0, 2⟩ .null
    let good : Expression := .object ⟨9, 0⟩
      [.mk a (.tuple ⟨0, 2⟩ [null, .template ⟨5, 3⟩ [.literal "x", .interpolation a]])]
    let bad : Expression := .tuple ⟨9, 0⟩ [a, .template ⟨5, 3⟩
      [.directive (.conditional ⟨7, 7⟩ a null (.reference ⟨1, 2⟩))]]
    (good.height ≤ c.maxDepth ∧ bad.height ≤ c.maxDepth) ∧
      (∃ v, c.expression 0 good = .ok v) ∧
      c.expression 0 bad
        = .error (.noValue "<0..2>" "null cannot be converted to a string") := by
  intro c a null good bad
  have hgood : good.height ≤ c.maxDepth := by decide
  have hbad : bad.height ≤ c.maxDepth := by decide
  have ha : (Demand.quotation ⟨0, 1⟩).Met c.source := ⟨by decide, by decide, "a", by decide⟩
  refine ⟨⟨hgood, hbad⟩, (expression_by_demands c good hgood).1.mpr ?_,
    ((expression_by_demands c bad hbad).2.1 _).mpr ?_⟩
  · have hdemands : good.demands = [.quotation ⟨0, 1⟩, .quotation ⟨0, 1⟩] := by rfl
    rw [hdemands]
    simpa using ha
  · have hdemands : bad.demands
        = [.quotation ⟨0, 1⟩, .quotation ⟨0, 1⟩] ++ .textOfNull ⟨0, 2⟩ :: [.quotation ⟨1, 2⟩] := by
      rfl
    refine ⟨_, _, _, hdemands, by simpa using ha, ?_⟩
    exact .null ⟨0, 2⟩

end Conversion
end Groundplan
