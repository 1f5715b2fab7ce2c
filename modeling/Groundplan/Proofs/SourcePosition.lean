import Groundplan.Proofs.StoredSpans

/-!
# Where a document sits in its source

A conversion reads its source at the spans that it demands, and nowhere else.  Two conversions of one
tree, of which the second has every span moved, agree as soon as the demands of the tree are met alike
in both sources: `expression_moved` by one induction over expressions, `scope_moved` and
`records_moved` by one over scopes.  What is met alike is a matter of single spans, and three ways to
change a source leave it so.  Text before the document moves the spans with it (`Source.quote_after`),
text behind it is out of reach (`Source.quote_before`), and of any other source only the quoted text
counts.  `position_irrelevant` puts these together.
-/

namespace Groundplan

/-! ### Moved trees -/

mutual

/-- The expression with its spans and all spans inside it changed. -/
def Expression.mapSpans (f : Span → Span) (e : Expression) : Expression :=
  match e with
  | .literal span value => .literal (f span) value
  | .template span parts => .template (f span) (Part.mapSpans f parts)
  | .wrap span inner => .wrap (f span) (Expression.mapSpans f inner)
  | .tuple span items => .tuple (f span) (Expression.mapAllSpans f items)
  | .object span items => .object (f span) (Item.mapSpans f items)
  | .reference span => .reference (f span)
  | .conditional span condition yes no =>
    .conditional (f span) (Expression.mapSpans f condition) (Expression.mapSpans f yes)
      (Expression.mapSpans f no)
  | .forEach span key value collection body =>
    .forEach (f span) key value (Expression.mapSpans f collection) (Expression.mapSpans f body)
  | .dynamic span => .dynamic (f span)
termination_by structural e

/-- Expressions with all their spans changed. -/
def Expression.mapAllSpans (f : Span → Span) (es : List Expression) : List Expression :=
  match es with
  | [] => []
  | e :: rest => Expression.mapSpans f e :: Expression.mapAllSpans f rest
termination_by structural es

/-- The items of an object with all their spans changed. -/
def Item.mapSpans (f : Span → Span) (items : List Item) : List Item :=
  match items with
  | [] => []
  | .mk key value :: rest =>
    .mk (Expression.mapSpans f key) (Expression.mapSpans f value) :: Item.mapSpans f rest
termination_by structural items

/-- The parts of a template with all their spans changed. -/
def Part.mapSpans (f : Span → Span) (parts : List Part) : List Part :=
  match parts with
  | [] => []
  | .literal text :: rest => .literal text :: Part.mapSpans f rest
  | .interpolation e :: rest => .interpolation (Expression.mapSpans f e) :: Part.mapSpans f rest
  | .directive e :: rest => .directive (Expression.mapSpans f e) :: Part.mapSpans f rest
termination_by structural parts

end

/-- The attribute with all spans of its expression changed. -/
def Attribute.mapSpans (f : Span → Span) (a : Attribute) : Attribute :=
  ⟨a.name, a.expr.mapSpans f⟩

mutual

/-- The scope with all its spans changed. -/
def Body.mapSpans (f : Span → Span) (body : Body) : Body :=
  match body with
  | .mk attributes blocks => .mk (attributes.map (Attribute.mapSpans f)) (Block.mapSpans f blocks)
termination_by structural body

/-- Blocks with their spans and those of their scopes changed. -/
def Block.mapSpans (f : Span → Span) (blocks : List Block) : List Block :=
  match blocks with
  | [] => []
  | .mk kind labels span body :: rest =>
    .mk kind labels (f span) (Body.mapSpans f body) :: Block.mapSpans f rest
termination_by structural blocks

end

/-- The span a number of bytes further on. -/
def Span.shifted (n : Nat) (span : Span) : Span := ⟨n + span.start, n + span.stop⟩

/-- The scope as it is read a number of bytes further on. -/
def Body.shifted (n : Nat) (body : Body) : Body := body.mapSpans (Span.shifted n)

@[simp] theorem Expression.span_mapSpans (f : Span → Span) (e : Expression) :
    (e.mapSpans f).span = f e.span := by
  cases e <;> rfl

mutual

theorem Expression.mapSpans_id (e : Expression) : e.mapSpans id = e := by
  cases e with
  | literal | reference | dynamic => rfl
  | template span parts => rw [Expression.mapSpans, Part.mapSpans_id parts]; rfl
  | wrap span inner => rw [Expression.mapSpans, Expression.mapSpans_id inner]; rfl
  | tuple span items => rw [Expression.mapSpans, Expression.mapAllSpans_id items]; rfl
  | object span items => rw [Expression.mapSpans, Item.mapSpans_id items]; rfl
  | conditional span condition yes no =>
    rw [Expression.mapSpans, Expression.mapSpans_id condition, Expression.mapSpans_id yes,
      Expression.mapSpans_id no]
    rfl
  | forEach span key value collection body =>
    rw [Expression.mapSpans, Expression.mapSpans_id collection, Expression.mapSpans_id body]
    rfl
termination_by structural e

theorem Expression.mapAllSpans_id (es : List Expression) : Expression.mapAllSpans id es = es := by
  cases es with
  | nil => rfl
  | cons e rest =>
    rw [Expression.mapAllSpans, Expression.mapSpans_id e, Expression.mapAllSpans_id rest]
termination_by structural es

theorem Item.mapSpans_id (items : List Item) : Item.mapSpans id items = items := by
  cases items with
  | nil => rfl
  | cons item rest =>
    obtain ⟨key, value⟩ := item
    rw [Item.mapSpans, Expression.mapSpans_id key, Expression.mapSpans_id value, Item.mapSpans_id rest]
termination_by structural items

theorem Part.mapSpans_id (parts : List Part) : Part.mapSpans id parts = parts := by
  cases parts with
  | nil => rfl
  | cons part rest =>
    cases part with
    | literal text => rw [Part.mapSpans, Part.mapSpans_id rest]
    | interpolation e | directive e =>
      rw [Part.mapSpans, Expression.mapSpans_id e, Part.mapSpans_id rest]
termination_by structural parts

end

theorem Attribute.mapSpans_id (a : Attribute) : a.mapSpans id = a := by
  rw [Attribute.mapSpans, a.expr.mapSpans_id]

mutual

/-- A tree whose spans are not changed is not. -/
theorem Body.mapSpans_id (body : Body) : body.mapSpans id = body := by
  obtain ⟨attributes, blocks⟩ := body
  rw [Body.mapSpans, Block.mapSpans_id blocks, List.map_congr_left fun a _ => a.mapSpans_id, List.map_id']
termination_by structural body

theorem Block.mapSpans_id (blocks : List Block) : Block.mapSpans id blocks = blocks := by
  cases blocks with
  | nil => rfl
  | cons b rest =>
    obtain ⟨kind, labels, span, body⟩ := b
    rw [Block.mapSpans, Body.mapSpans_id body, Block.mapSpans_id rest]
    rfl
termination_by structural blocks

end

/-! ### Demands that are met alike -/

/-- The demands of a scope: those of its expressions, in the order of the conversion. -/
def Body.demands (body : Body) : List Demand := body.expressions.flatMap Expression.demands

/-- Demands of a scope are at spans of the scope. -/
theorem Body.mem_spans_of_demands {d : Demand} (body : Body) (h : d ∈ body.demands) :
    d.span ∈ body.spans := by
  obtain ⟨e, he, hd⟩ := List.mem_flatMap.mp h
  exact body.mem_spans_of_mem_expressions he (e.mem_spans_of_demands hd)

/-- Two conversions, of which the second has the spans moved, end alike at a demand. -/
def Demand.Alike (R : Error → Error → Prop) (c c' : Conversion) (f : Span → Span) : Demand → Prop
  | quotation span => AgreeBy R (c.quote span) (c'.quote (f span))
  | textOfNull span => R (c.noText span) (c'.noText (f span))

namespace Conversion

variable {R : Error → Error → Prop} {s s' : Source} {limit : Nat} {f : Span → Span}

/-- Both conversions go down alike, since they have one ceiling. -/
theorem enter_moved {α : Type} (hR : ∀ e, R e e) (depth : Nat) {k k' : Nat → Except Error α}
    (h : ∀ inner, AgreeBy R (k inner) (k' inner)) :
    AgreeBy R ((mk s limit).enter depth >>= k) ((mk s' limit).enter depth >>= k') :=
  (AgreeBy.refl hR ((mk s limit).enter depth)).bind h

theorem quote_moved {span : Span} {ds : List Demand}
    (h : ∀ d ∈ .quotation span :: ds, d.Alike R ⟨s, limit⟩ ⟨s', limit⟩ f) :
    AgreeBy R ((mk s limit).quote span) ((mk s' limit).quote (f span)) :=
  h _ List.mem_cons_self

theorem marker_moved {span : Span} {ds : List Demand}
    (h : ∀ d ∈ .quotation span :: ds, d.Alike R ⟨s, limit⟩ ⟨s', limit⟩ f) :
    AgreeBy R ((mk s limit).marker span) ((mk s' limit).marker (f span)) :=
  (quote_moved h).map _

theorem keyed_moved {key : Expression} {ds : List Demand} {text text' : Except Error String}
    (h : ∀ d ∈ key.keyDemands ds, d.Alike R ⟨s, limit⟩ ⟨s', limit⟩ f)
    (htext : (∀ d ∈ ds, d.Alike R ⟨s, limit⟩ ⟨s', limit⟩ f) → AgreeBy R text text') :
    AgreeBy R ((mk s limit).keyed key text) ((mk s' limit).keyed (key.mapSpans f) text') := by
  cases key with
  | reference span => exact quote_moved h
  | literal | template | wrap | tuple | object | conditional | forEach | dynamic => exact htext h

mutual

/-- Expressions convert alike in value position where their demands are met alike. -/
theorem expression_moved (hR : ∀ e, R e e) (depth : Nat) (e : Expression)
    (h : ∀ d ∈ e.demands, d.Alike R ⟨s, limit⟩ ⟨s', limit⟩ f) :
    AgreeBy R ((mk s limit).expression depth e) ((mk s' limit).expression depth (e.mapSpans f)) := by
  rw [expression.eq_def ⟨s, limit⟩, expression.eq_def ⟨s', limit⟩]
  cases e with
  | literal span value => exact enter_moved hR depth fun depth => .ok _
  | template span parts =>
    simp only [Expression.mapSpans, joined_rendered]
    exact enter_moved hR depth fun depth => .map _ (rendered_moved hR depth parts h)
  | wrap span inner => exact enter_moved hR depth fun depth => expression_moved hR depth inner h
  | tuple span items =>
    exact enter_moved hR depth fun depth => .map _ (elements_moved hR depth items h)
  | object span items =>
    exact enter_moved hR depth fun depth => .map _ (entries_moved hR depth [] items h)
  | reference span | conditional span condition yes no | forEach span key value collection body
  | dynamic span => exact enter_moved hR depth fun depth => .map _ (marker_moved h)
termination_by structural e

theorem elements_moved (hR : ∀ e, R e e) (depth : Nat) (es : List Expression)
    (h : ∀ d ∈ Expression.allDemands es, d.Alike R ⟨s, limit⟩ ⟨s', limit⟩ f) :
    AgreeBy R ((mk s limit).elements depth es)
      ((mk s' limit).elements depth (Expression.mapAllSpans f es)) := by
  cases es with
  | nil =>
    rw [Expression.mapAllSpans, elements, elements]
    exact .ok _
  | cons e rest =>
    rw [Expression.allDemands, List.forall_mem_append] at h
    rw [Expression.mapAllSpans, elements, elements]
    refine .bind (expression_moved hR depth e h.1) fun value => ?_
    exact .map _ (elements_moved hR depth rest h.2)
termination_by structural es

theorem entries_moved (hR : ∀ e, R e e) (depth : Nat) (before : Entries Value) (items : List Item)
    (h : ∀ d ∈ Item.demands items, d.Alike R ⟨s, limit⟩ ⟨s', limit⟩ f) :
    AgreeBy R ((mk s limit).entries depth before items)
      ((mk s' limit).entries depth before (Item.mapSpans f items)) := by
  cases items with
  | nil =>
    rw [Item.mapSpans, entries, entries]
    exact .ok _
  | cons item rest =>
    obtain ⟨key, value⟩ := item
    rw [Item.demands, List.forall_mem_append, List.forall_mem_append] at h
    obtain ⟨hkey, hvalue, hrest⟩ := h
    rw [Item.mapSpans, entries, entries]
    refine .bind (keyed_moved hkey fun h => partText_moved hR depth key h) fun text => ?_
    refine .bind (expression_moved hR depth value hvalue) fun value => ?_
    exact entries_moved hR depth _ rest hrest
termination_by structural items

theorem rendered_moved (hR : ∀ e, R e e) (depth : Nat) (parts : List Part)
    (h : ∀ d ∈ Part.demands parts, d.Alike R ⟨s, limit⟩ ⟨s', limit⟩ f) :
    AgreeBy R ((mk s limit).rendered depth parts)
      ((mk s' limit).rendered depth (Part.mapSpans f parts)) := by
  cases parts with
  | nil =>
    rw [Part.mapSpans, rendered, rendered]
    exact .ok _
  | cons part rest =>
    cases part with
    | literal text =>
      rw [Part.demands] at h
      rw [Part.mapSpans, rendered, rendered]
      exact .map _ (rendered_moved hR depth rest h)
    | interpolation e | directive e =>
      rw [Part.demands, List.forall_mem_append] at h
      rw [Part.mapSpans, rendered, rendered]
      refine .bind (partText_moved hR depth e h.1) fun text => ?_
      exact .map _ (rendered_moved hR depth rest h.2)
termination_by structural parts

/-- In string position they do as well, with the demands that they have there. -/
theorem partText_moved (hR : ∀ e, R e e) (depth : Nat) (e : Expression)
    (h : ∀ d ∈ e.textDemands, d.Alike R ⟨s, limit⟩ ⟨s', limit⟩ f) :
    AgreeBy R ((mk s limit).partText depth e) ((mk s' limit).partText depth (e.mapSpans f)) := by
  rw [partText.eq_def ⟨s, limit⟩, partText.eq_def ⟨s', limit⟩]
  cases e with
  | literal span value =>
    refine enter_moved hR depth fun depth => ?_
    cases value with
    | null => exact .error (h (.textOfNull span) List.mem_cons_self)
    | bool | number | string => exact .ok _
  | template span parts =>
    simp only [Expression.mapSpans, joined_rendered]
    exact enter_moved hR depth fun depth => rendered_moved hR depth parts h
  | wrap span inner => exact enter_moved hR depth fun depth => partText_moved hR depth inner h
  | conditional span condition yes no =>
    rw [Expression.textDemands] at h
    have hbranches := List.forall_mem_append.mp (List.forall_mem_cons.mp h).2
    simp only [Expression.mapSpans, Expression.span_mapSpans]
    refine enter_moved hR depth fun depth => .bind (quote_moved h) fun source => ?_
    refine .bind (partText_moved hR depth yes hbranches.1) fun yes => ?_
    exact .map _ (partText_moved hR depth no hbranches.2)
  | forEach span key value collection body =>
    rw [Expression.textDemands] at h
    have hbody := (List.forall_mem_cons.mp h).2
    simp only [Expression.mapSpans, Expression.span_mapSpans]
    refine enter_moved hR depth fun depth => .bind (quote_moved h) fun source => ?_
    exact .map _ (partText_moved hR depth body hbody)
  | tuple span items | object span items | reference span | dynamic span =>
    exact enter_moved hR depth fun depth => marker_moved h
termination_by structural e

end

/-! ### Scopes and records -/

theorem attributes_moved (hR : ∀ e, R e e) (depth : Nat) (before : Entries Value)
    (attributes : List Attribute) (h : ∀ e ∈ attributes.map Attribute.expr, ∀ d ∈ e.demands,
      d.Alike R ⟨s, limit⟩ ⟨s', limit⟩ f) :
    AgreeBy R ((mk s limit).attributes depth before attributes)
      ((mk s' limit).attributes depth before (attributes.map (Attribute.mapSpans f))) := by
  induction attributes generalizing before with
  | nil => exact .ok _
  | cons a rest ih =>
    rw [List.map_cons, List.forall_mem_cons] at h
    exact (expression_moved hR depth a.expr h.1).bind fun value => ih _ h.2

mutual

/-- Scopes convert alike where the demands of their expressions are met alike. -/
theorem scope_moved (hR : ∀ e, R e e) (depth : Nat) (body : Body)
    (h : ∀ e ∈ body.expressions, ∀ d ∈ e.demands, d.Alike R ⟨s, limit⟩ ⟨s', limit⟩ f) :
    AgreeBy R ((mk s limit).scope depth body) ((mk s' limit).scope depth (body.mapSpans f)) := by
  obtain ⟨attributes, blocks⟩ := body
  rw [Body.expressions, List.forall_mem_append] at h
  rw [Body.mapSpans, scope, scope]
  refine enter_moved hR depth fun depth => ?_
  refine .bind (attributes_moved hR depth [] attributes h.1) fun before => ?_
  exact scopeBlocks_moved hR depth before blocks h.2
termination_by structural body

theorem scopeBlocks_moved (hR : ∀ e, R e e) (depth : Nat) (before : Entries Value)
    (blocks : List Block) (h : ∀ e ∈ Block.expressions blocks, ∀ d ∈ e.demands,
      d.Alike R ⟨s, limit⟩ ⟨s', limit⟩ f) :
    AgreeBy R ((mk s limit).scopeBlocks depth before blocks)
      ((mk s' limit).scopeBlocks depth before (Block.mapSpans f blocks)) := by
  cases blocks with
  | nil =>
    rw [Block.mapSpans, scopeBlocks, scopeBlocks]
    exact .ok _
  | cons b rest =>
    obtain ⟨kind, labels, span, body⟩ := b
    rw [Block.expressions, List.forall_mem_append] at h
    rw [Block.mapSpans, scopeBlocks, scopeBlocks]
    refine .bind (scope_moved hR depth body h.1) fun value => ?_
    -- folding a block into the scope does not read the source
    refine .bind (.refl hR _) fun after => ?_
    exact scopeBlocks_moved hR depth after rest h.2
termination_by structural blocks

end

end Conversion

/-- The record of the same resource a number of lines further down. -/
def ResourceRecord.lowered (n : Nat) (r : ResourceRecord) : ResourceRecord :=
  { r with line := r.line + n }

namespace Conversion

variable {R : Error → Error → Prop} {s s' : Source} {limit : Nat} {f : Span → Span}

/-- Records agree but for their lines, which move as the starts of the blocks do. -/
theorem records_moved (hR : ∀ e, R e e) (path : String) (lines : Nat) (blocks : List Block)
    (h : ∀ e ∈ Block.expressions blocks, ∀ d ∈ e.demands, d.Alike R ⟨s, limit⟩ ⟨s', limit⟩ f)
    (hlines : ∀ b ∈ blocks, s'.lineAt (f b.span).start = s.lineAt b.span.start + lines) :
    AgreeBy R (List.map (ResourceRecord.lowered lines) <$> (mk s limit).records path blocks)
      ((mk s' limit).records path (Block.mapSpans f blocks)) := by
  induction blocks with
  | nil => exact .ok _
  | cons b rest ih =>
    obtain ⟨kind, labels, span, body⟩ := b
    rw [Block.expressions, List.forall_mem_append] at h
    obtain ⟨hline, hlines⟩ := List.forall_mem_cons.mp hlines
    have hrest := ih h.2 hlines
    have hvalue : AgreeBy R ((mk s limit).resourceValue (.mk kind labels span body))
        ((mk s' limit).resourceValue (.mk kind labels (f span) (body.mapSpans f))) :=
      enter_moved hR 0 fun depth => .map _ (scope_moved hR depth body h.1)
    have hresource : (Block.mk kind labels (f span) (body.mapSpans f)).resource?
        = (Block.mk kind labels span body).resource? := rfl
    rw [Block.mapSpans, records, records, hresource]
    cases (Block.mk kind labels span body).resource? with
    | none => exact hrest
    | some p =>
      obtain ⟨type, name⟩ := p
      dsimp only [Block.span] at hline ⊢
      rw [map_bind]
      refine hvalue.bind fun config => ?_
      rw [hline]
      let record : ResourceRecord :=
        ⟨type ++ "." ++ name, name, type, path, s.lineAt span.start + lines, config⟩
      generalize (mk s limit).records path rest = others at hrest
      cases others with
      | error e => exact hrest.map (record :: ·)
      | ok others => exact hrest.map (record :: ·)

/-- Documents have the same object where their demands are met alike. -/
theorem body_moved (hR : ∀ e, R e e) {b : Body}
    (h : ∀ d ∈ b.demands, d.Alike R ⟨s, limit⟩ ⟨s', limit⟩ f) :
    AgreeBy R ((mk s limit).body b) ((mk s' limit).body (b.mapSpans f)) :=
  scope_moved hR 0 b fun e he d hd => h d (List.mem_flatMap.mpr ⟨e, he, hd⟩)

/-- Documents have the same records, but for their lines, where their demands are met alike. -/
theorem resources_moved (hR : ∀ e, R e e) (path : String) (lines : Nat) {b : Body}
    (h : ∀ d ∈ b.demands, d.Alike R ⟨s, limit⟩ ⟨s', limit⟩ f)
    (hlines : ∀ block ∈ b.blocks,
      s'.lineAt (f block.span).start = s.lineAt block.span.start + lines) :
    AgreeBy R (List.map (ResourceRecord.lowered lines) <$> (mk s limit).resources path b)
      ((mk s' limit).resources path (b.mapSpans f)) := by
  obtain ⟨attributes, blocks⟩ := b
  refine records_moved hR path lines blocks (fun e he d hd => h d ?_) hlines
  rw [Body.demands, Body.expressions, List.flatMap_append, List.mem_append]
  exact .inr (List.mem_flatMap.mpr ⟨e, he, hd⟩)

end Conversion

/-! ### Text before and behind -/

namespace Source

variable {s : Source} {span : Span}

/-- Behind other text, the moved span quotes what the span does. -/
theorem quote_after (before : List UInt8) {text : String} :
    (Source.mk (before ++ s.bytes)).quote (span.shifted before.length) = .ok text ↔
      s.quote span = .ok text := by
  simp only [quote_eq_ok_iff, Span.shifted, size, List.length_append, Nat.add_le_add_iff_left,
    List.drop_length_add_append, Nat.add_sub_add_left]

/-- Text behind the document is not quoted. -/
theorem quote_before (behind : List UInt8) (h : span.start ≤ span.stop ∧ span.stop ≤ s.size) :
    (Source.mk (s.bytes ++ behind)).quote span = s.quote span := by
  have hslice : (Source.mk (s.bytes ++ behind)).slice? span = s.slice? span := by
    have hsize : s.size ≤ (Source.mk (s.bytes ++ behind)).size := by simp [size]
    rw [slice?_eq_some h, slice?_eq_some ⟨h.1, h.2.trans hsize⟩]
    unfold size at h
    rw [List.drop_append_of_le_length (by omega), List.take_append_of_le_length (by
      rw [List.length_drop]
      omega)]
  rw [quote, quote, hslice, slice?_eq_some h]

theorem lineAt_after (before : List UInt8) (offset : Nat) :
    (Source.mk (before ++ s.bytes)).lineAt (before.length + offset)
      = s.lineAt offset + before.count 0x0A := by
  rw [lineAt, lineAt, List.take_length_add_append, List.count_append]
  omega

theorem lineAt_before (behind : List UInt8) {offset : Nat} (h : offset ≤ s.size) :
    (Source.mk (s.bytes ++ behind)).lineAt offset = s.lineAt offset := by
  rw [lineAt, lineAt, List.take_append_of_le_length h]

end Source

/-! ### Sources that are quoted alike -/

/-- Two errors of one kind: they may differ in the offsets and the source text that they quote. -/
inductive Error.SameKind : Error → Error → Prop where
  | same (e : Error) : SameKind e e
  | unreadable (file message message' : String) :
    SameKind (.unreadable file message) (.unreadable file message')
  | noValue (expression expression' message : String) :
    SameKind (.noValue expression message) (.noValue expression' message)

namespace Conversion

open Error (SameKind)

variable {s s' : Source} {limit : Nat} {f : Span → Span} {span : Span}

theorem quote_sameKind
    (h : ∀ text, s.quote span = .ok text ↔ s'.quote (f span) = .ok text) :
    AgreeBy SameKind ((mk s limit).quote span) ((mk s' limit).quote (f span)) := by
  rw [quote, quote]
  dsimp only
  cases hquote : s.quote span with
  | ok text =>
    rw [(h text).mp hquote]
    exact .ok text
  | error fault =>
    cases hquote' : s'.quote (f span) with
    | ok text =>
      have hok : s.quote span = .ok text := (h text).mpr hquote'
      rw [hquote] at hok
      cases hok
    | error fault' => exact .error (.unreadable _ _ _)

/-- Where the demanded spans have the same texts, demands are met alike; a null without a text is
one in every source. -/
theorem alike_of_texts (limit : Nat) {ds : List Demand}
    (h : ∀ span, .quotation span ∈ ds →
      ∀ text, s.quote span = .ok text ↔ s'.quote (f span) = .ok text) :
    ∀ d ∈ ds, d.Alike SameKind ⟨s, limit⟩ ⟨s', limit⟩ f := by
  intro d hd
  cases d with
  | quotation span => exact quote_sameKind (h span hd)
  | textOfNull span => exact .noValue _ _ _

/-- Before a suffix, demands at spans inside the source end in the same way altogether. -/
theorem alike_of_inside (limit : Nat) {ds : List Demand} (behind : List UInt8)
    (h : ∀ d ∈ ds, d.span.start ≤ d.span.stop ∧ d.span.stop ≤ s.size) :
    ∀ d ∈ ds, d.Alike Eq ⟨s, limit⟩ ⟨⟨s.bytes ++ behind⟩, limit⟩ id := by
  intro d hd
  have hquote : (Source.mk (s.bytes ++ behind)).quote d.span = s.quote d.span :=
    Source.quote_before behind (h d hd)
  cases d with
  | quotation span =>
    rw [Demand.Alike, quote, quote]
    dsimp only [Demand.span, id] at hquote ⊢
    rw [hquote]
    exact .refl (fun _ => rfl) _
  | textOfNull span =>
    rw [Demand.Alike, noText, noText]
    dsimp only [Demand.span, id] at hquote ⊢
    rw [hquote]

/-- **Position is irrelevant.**  Text before a document changes nothing, if the spans move with the
document, except that records are as many lines further down; text behind it changes nothing at all,
if no span reaches out of the source (one that ends before it starts is in no source); and sources
that have the same text at every span that the conversion quotes give the same value.  What fails
still fails, with an error of the same kind. -/
theorem position_irrelevant (s : Source) (limit : Nat) (b : Body) (path : String) :
    (∀ before : List UInt8,
      AgreeBy SameKind ((mk s limit).body b)
        ((mk ⟨before ++ s.bytes⟩ limit).body (b.shifted before.length)) ∧
      AgreeBy SameKind
        (List.map (ResourceRecord.lowered (before.count 0x0A)) <$> (mk s limit).resources path b)
        ((mk ⟨before ++ s.bytes⟩ limit).resources path (b.shifted before.length))) ∧
    ((∀ span ∈ b.spans, span.start ≤ span.stop ∧ span.stop ≤ s.size) → ∀ behind : List UInt8,
      (mk ⟨s.bytes ++ behind⟩ limit).body b = (mk s limit).body b ∧
      (mk ⟨s.bytes ++ behind⟩ limit).resources path b = (mk s limit).resources path b) ∧
    ∀ s' : Source, (∀ span, .quotation span ∈ b.demands →
        ∀ text, s.quote span = .ok text ↔ s'.quote span = .ok text) →
      AgreeBy SameKind ((mk s limit).body b) ((mk s' limit).body b) := by
  refine ⟨fun before => ?_, fun hinside behind => ?_, fun s' htexts => ?_⟩
  · have halike : ∀ d ∈ b.demands, d.Alike SameKind ⟨s, limit⟩ ⟨⟨before ++ s.bytes⟩, limit⟩
        (Span.shifted before.length) :=
      alike_of_texts limit fun span _ text => (Source.quote_after before).symm
    exact ⟨body_moved .same halike, resources_moved .same path _ halike fun block _ =>
      Source.lineAt_after before block.span.start⟩
  · have halike := alike_of_inside limit behind fun d hd =>
      hinside d.span (b.mem_spans_of_demands hd)
    have hlines : ∀ block ∈ b.blocks,
        (Source.mk (s.bytes ++ behind)).lineAt block.span.start = s.lineAt block.span.start := by
      intro block hblock
      have hblock := hinside block.span (b.span_mem_spans hblock)
      exact Source.lineAt_before behind (hblock.1.trans hblock.2)
    have hbody := (body_moved (fun _ => rfl) halike).eq
    have hresources := (resources_moved (fun _ => rfl) path 0 halike hlines).eq
    have hsame : List.map (ResourceRecord.lowered 0) = id := List.map_id_fun
    rw [Body.mapSpans_id] at hbody hresources
    rw [hsame, id_map] at hresources
    exact ⟨hbody.symm, hresources.symm⟩
  · have hbody := body_moved .same (alike_of_texts limit (f := id) htexts)
    rwa [Body.mapSpans_id] at hbody

/-- A resource behind a line break and bytes that are no text, a byte behind it that is none either,
and a line break between the quoted texts in place of a blank. -/
theorem position_irrelevant_resource :
    let s : Source := ⟨[0x61, 0x20, 0x62]⟩
    let s' : Source := ⟨[0x61, 0x0A, 0x62]⟩
    let block : Block := .mk "resource" ["t", "n"] ⟨2, 3⟩
      (.mk [⟨"y", .template ⟨0, 3⟩ [.literal "<", .interpolation (.reference ⟨2, 3⟩)]⟩] [])
    let b : Body := .mk [⟨"x", .reference ⟨0, 1⟩⟩] [block]
    let config : Value := .object [("y", .string "<$\x7bb\x7d")]
    let out : Entries Value := [("resource", .object [("t", .object [("n", config)])]),
      ("x", .string "$\x7ba\x7d")]
    (mk s 9).body b = .ok out ∧
      (mk ⟨[0xC3, 0x0A] ++ s.bytes⟩ 9).body (b.shifted 2) = .ok out ∧
      (mk ⟨[0xC3, 0x0A] ++ s.bytes⟩ 9).resources "main.tf" (b.shifted 2)
        = .ok [⟨"t.n", "n", "t", "main.tf", 2, config⟩] ∧
      (mk ⟨s.bytes ++ [0xC3]⟩ 9).body b = .ok out ∧ (mk s' 9).body b = .ok out := by
  intro s s' block b config out
  have hout : (mk s 9).body b = .ok out := by rfl
  have hrecords : (mk s 9).resources "main.tf" b
      = .ok [⟨"t.n", "n", "t", "main.tf", 1, config⟩] := by rfl
  have hinside : ∀ span ∈ b.spans, span.start ≤ span.stop ∧ span.stop ≤ s.size := by decide
  have htexts : ∀ span, .quotation span ∈ b.demands →
      ∀ text, s.quote span = .ok text ↔ s'.quote span = .ok text := by
    have hdemands : b.demands = [.quotation ⟨0, 1⟩, .quotation ⟨2, 3⟩] := by rfl
    have hquote : s.quote ⟨0, 1⟩ = s'.quote ⟨0, 1⟩ ∧ s.quote ⟨2, 3⟩ = s'.quote ⟨2, 3⟩ := by decide
    simp [hdemands, hquote]
  obtain ⟨hbefore, hbehind, hother⟩ := position_irrelevant s 9 b "main.tf"
  obtain ⟨hbody, hresources⟩ := hbefore [0xC3, 0x0A]
  rw [hrecords] at hresources
  exact ⟨hout, hbody.eq_ok hout, hresources.eq_ok rfl, (hbehind hinside [0xC3]).1.trans hout,
    (hother s' htexts).eq_ok hout⟩

end Conversion
end Groundplan
